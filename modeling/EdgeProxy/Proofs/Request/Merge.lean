import EdgeProxy.Proofs.Hostname.Productions
import EdgeProxy.Proofs.Request.Reread
/-!
Endpoints that are asked for, merged with those that are there.  A payload says for the frontend and for the
APIs, each on its own, whether they are kept, removed or given anew, and it gives the APIs in a list or, without
a slug, a single one.  `Fields.Merges` says what becomes of the endpoints by the fields of the payload; the
readers accept exactly the payloads, and make exactly the sets, that it relates.
-/

namespace EdgeProxy

/-- The integer that a value stands for: a number, without its fraction, or a text that spells an integer. -/
inductive Json.StandsFor : Json → Int → Prop where
  | int (n : Int) : StandsFor (.int n) n
  | float {x : Binary64} {n : Int} (h : x.truncate? = some n) : StandsFor (.float x) n
  | text {s : String} {n : Int} (h : Text.readInteger s = some n) : StandsFor (.str s) n

/-- A backend that an object gives: a target host, trimmed, and a port in range.  The guards are those whose
fields count as set. -/
structure Fields.GivesBackend (fields : Fields) (b : Backend) : Prop where
  targetHost : ∃ s, fields.get? "targetHost" = some (.str s) ∧ s ≠ "" ∧ b.targetHost = Text.trim s
  targetPort : ∃ n : Int, (fields.valueOf "targetPort").StandsFor n ∧ 1 ≤ n ∧ n ≤ 65535 ∧
    n = b.targetPort.number
  localOnly : b.localOnly = (fields.valueOf "localOnly").truthy
  requireAuth : b.requireAuth = (fields.valueOf "requireAuth").truthy

/-- A frontend that a value gives. -/
structure Json.GivesEndpoint (v : Json) (e : Endpoint) : Prop where
  backend : ∃ fields, v = .obj fields ∧ Fields.GivesBackend fields e.toBackend
  extra : e.extra = []

/-- An API that an object gives.  Its slug is what is left of the value in lower case, which can be shown. -/
structure Fields.GivesApi (fields : Fields) (a : Api) : Prop where
  backend : fields.GivesBackend a.toBackend
  shown : (fields.valueOf "slug").isWritable = true
  slug : a.slug = Request.apiSlug (fields.valueOf "slug")
  chars : ∀ c ∈ a.slug.toList, 'a' ≤ c ∧ c ≤ 'z' ∨ '0' ≤ c ∧ c ≤ '9' ∨ c = '-'
  extra : a.extra = []

/-- An API that a value gives. -/
def Json.GivesApi (v : Json) (a : Api) : Prop := ∃ fields, v = .obj fields ∧ Fields.GivesApi fields a

/-- An API that an object gives as the only one, whatever it says of a slug. -/
structure Fields.GivesSingleApi (fields : Fields) (a : Api) : Prop where
  backend : fields.GivesBackend a.toBackend
  slug : a.slug = ""
  extra : a.extra = []

/-- The APIs that a payload gives: those of a list, in order, or a single one. -/
inductive Fields.GivesApis (fields : Fields) : List Api → Prop where
  | list {items : List Json} {apis : List Api} (hlist : fields.get? "apis" = some (.arr items))
      (hapis : List.Forall₂ Json.GivesApi items apis) : GivesApis fields apis
  | noList {v : Json} (hlist : fields.get? "apis" = some v) (hother : ∀ items, v ≠ .arr items) :
      GivesApis fields []
  | single {one : Fields} {a : Api} (hlist : fields.get? "apis" = none)
      (hsingle : fields.get? "api" = some (.obj one)) (ha : one.GivesSingleApi a) : GivesApis fields [a]
  | nothing {v : Json} (hlist : fields.get? "apis" = none) (hsingle : fields.get? "api" = some v)
      (hother : ∀ one, v ≠ .obj one) (hunset : v.truthy = false) : GivesApis fields []

/-- What becomes of a frontend: it is kept if a payload does not mention it, removed if it is set to nothing,
and otherwise the one that the payload gives. -/
structure Fields.MergesFrontend (fields : Fields) (present merged : Option Endpoint) : Prop where
  kept : fields.get? "frontend" = none → merged = present
  removed : ∀ v, fields.get? "frontend" = some v → v.truthy = false → merged = none
  given : ∀ v, fields.get? "frontend" = some v → v.truthy = true →
    ∃ e, merged = some e ∧ v.GivesEndpoint e

/-- What becomes of APIs: they are kept if a payload mentions them in neither way, and otherwise those that
the payload gives. -/
structure Fields.MergesApis (fields : Fields) (present merged : List Api) : Prop where
  kept : fields.get? "apis" = none → fields.get? "api" = none → merged = present
  given : fields.get? "apis" ≠ none ∨ fields.get? "api" ≠ none → fields.GivesApis merged

/-- What becomes of the endpoints of an environment.  Their slugs tell the APIs apart, those that are kept
as well. -/
structure Fields.Merges (fields : Fields) (present : Option EndpointSet) (merged : EndpointSet) : Prop where
  frontend : fields.MergesFrontend (present.bind (·.frontend)) merged.frontend
  apis : fields.MergesApis ((present.map (·.apis)).getD []) merged.apis
  distinct : (merged.apis.map (·.slug)).Nodup
  extra : merged.extra = []

namespace Fields

variable {fields : Fields} {v : Json}

theorem mergesFrontend_of_none (h : fields.get? "frontend" = none) {present merged : Option Endpoint} :
    fields.MergesFrontend present merged ↔ merged = present := by
  constructor
  · exact fun hmerges => hmerges.kept h
  · intro hkept
    refine ⟨fun _ => hkept, fun v hv => ?_, fun v hv => ?_⟩
    · cases h.symm.trans hv
    · cases h.symm.trans hv

theorem mergesFrontend_of_some (h : fields.get? "frontend" = some v) {present merged : Option Endpoint} :
    fields.MergesFrontend present merged ↔
      if v.truthy then ∃ e, merged = some e ∧ v.GivesEndpoint e else merged = none := by
  constructor
  · intro hmerges
    split
    next hset => exact hmerges.given v h hset
    next hunset => exact hmerges.removed v h (by simpa using hunset)
  · intro hmerged
    refine ⟨fun hnone => ?_, fun w hw hunset => ?_, fun w hw hset => ?_⟩
    · cases h.symm.trans hnone
    · cases h.symm.trans hw
      simpa [hunset] using hmerged
    · cases h.symm.trans hw
      simpa [hset] using hmerged

theorem givesApis_of_list {items : List Json} (h : fields.get? "apis" = some (.arr items)) {apis : List Api} :
    fields.GivesApis apis ↔ List.Forall₂ Json.GivesApi items apis := by
  refine ⟨fun hgives => ?_, .list h⟩
  cases hgives with
  | list hlist hapis =>
      cases h.symm.trans hlist
      exact hapis
  | noList hlist hother =>
      cases h.symm.trans hlist
      exact absurd rfl (hother items)
  | single hnone => cases h.symm.trans hnone
  | nothing hnone => cases h.symm.trans hnone

theorem givesApis_of_noList (h : fields.get? "apis" = some v) (hother : ∀ items, v ≠ .arr items)
    {apis : List Api} : fields.GivesApis apis ↔ apis = [] := by
  refine ⟨fun hgives => ?_, fun hnil => hnil ▸ .noList h hother⟩
  cases hgives with
  | list hlist =>
      cases h.symm.trans hlist
      exact absurd rfl (hother _)
  | noList => rfl
  | single hnone => cases h.symm.trans hnone
  | nothing => rfl

theorem givesApis_of_single (hnone : fields.get? "apis" = none) {one : Fields}
    (h : fields.get? "api" = some (.obj one)) {apis : List Api} :
    fields.GivesApis apis ↔ ∃ a, apis = [a] ∧ one.GivesSingleApi a := by
  constructor
  · intro hgives
    cases hgives with
    | list hlist => cases hnone.symm.trans hlist
    | noList hlist => cases hnone.symm.trans hlist
    | single _ hsingle ha =>
        cases h.symm.trans hsingle
        exact ⟨_, rfl, ha⟩
    | nothing _ hsingle hother =>
        cases h.symm.trans hsingle
        exact absurd rfl (hother one)
  · rintro ⟨a, rfl, ha⟩
    exact .single hnone h ha

theorem givesApis_of_noSingle (hnone : fields.get? "apis" = none) (h : fields.get? "api" = some v)
    (hother : ∀ one, v ≠ .obj one) {apis : List Api} :
    fields.GivesApis apis ↔ v.truthy = false ∧ apis = [] := by
  constructor
  · intro hgives
    cases hgives with
    | list hlist => cases hnone.symm.trans hlist
    | noList hlist => cases hnone.symm.trans hlist
    | single _ hsingle =>
        cases h.symm.trans hsingle
        exact absurd rfl (hother _)
    | nothing _ hsingle _ hunset =>
        cases h.symm.trans hsingle
        exact ⟨hunset, rfl⟩
  · rintro ⟨hunset, rfl⟩
    exact .nothing hnone h hother hunset

theorem mergesApis_of_given (h : fields.get? "apis" ≠ none ∨ fields.get? "api" ≠ none)
    {present merged : List Api} : fields.MergesApis present merged ↔ fields.GivesApis merged := by
  refine ⟨fun hmerges => hmerges.given h, fun hgives => ⟨fun hlist hsingle => ?_, fun _ => hgives⟩⟩
  exact absurd h (by simp [hlist, hsingle])

theorem mergesApis_of_none (hlist : fields.get? "apis" = none) (hsingle : fields.get? "api" = none)
    {present merged : List Api} : fields.MergesApis present merged ↔ merged = present := by
  refine ⟨fun hmerges => hmerges.kept hlist hsingle, fun hkept => ⟨fun _ _ => hkept, fun h => ?_⟩⟩
  exact absurd h (by simp [hlist, hsingle])

end Fields

/-- A port is what its number is read as. -/
theorem Port.ofInt?_eq_some_iff {n : Int} {p : Port} : Port.ofInt? n = some p ↔ n = p.number := by
  constructor
  · intro h
    rw [ofInt?] at h
    split at h
    next hrange =>
      obtain rfl := Option.some.inj h
      dsimp only
      omega
    · cases h
  · rintro rfl
    exact p.ofInt?_number

namespace Request

section Ports

variable {subject : String} {p : Port}

theorem portOfInteger_eq_ok {n : Int} : portOfInteger n subject = .ok p ↔ n = p.number := by
  rw [← Port.ofInt?_eq_some_iff, portOfInteger]
  split
  next q hq => rw [hq, Except.ok.injEq, Option.some.injEq]
  next hnone =>
    rw [hnone]
    exact iff_of_false not_reject fun h => by cases h

/-- A port is read exactly from what stands for its number. -/
theorem port_eq_ok {v : Json} : port v subject = .ok p ↔ v.StandsFor p.number := by
  constructor
  · intro h
    rw [port.eq_def] at h
    split at h
    · exact portOfInteger_eq_ok.mp h ▸ .int _
    · split at h
      · cases h
      next hn => exact .float (portOfInteger_eq_ok.mp h ▸ hn)
      · exact absurd h not_reject
    · split at h
      next hn => exact .text (portOfInteger_eq_ok.mp h ▸ hn)
      · exact absurd h not_reject
    · exact absurd h not_reject
  · intro h
    have hnumber : portOfInteger p.number subject = .ok p := portOfInteger_eq_ok.mpr rfl
    cases h with
    | int => exact hnumber
    | @float x _ htruncated =>
        -- The reader sets infinite numbers apart first; they have no integer part.
        cases x with
        | finite negative m e hform =>
            simp only [port, htruncated]
            exact hnumber
        | infinite negative => cases htruncated
        | nan => cases htruncated
    | text hspelled =>
        rw [port, hspelled]
        exact hnumber

end Ports

section Given

variable {fields : Fields} {v : Json} {subject : String}

theorem backend_eq_ok_iff {portSubject : String} {b : Backend} :
    backend fields subject portSubject = .ok b ↔ fields.GivesBackend b := by
  rw [backend_eq_ok, targetHost_eq_ok, port_eq_ok]
  constructor
  · rintro ⟨hhost, hport, hlocal, hauth⟩
    have hpositive := b.targetPort.positive
    have hbounded := b.targetPort.bounded
    exact ⟨hhost, ⟨_, hport, by omega, by omega, rfl⟩, hlocal.symm, hauth.symm⟩
  · intro h
    obtain ⟨n, hport, -, -, rfl⟩ := h.targetPort
    exact ⟨h.targetHost, hport, h.localOnly.symm, h.requireAuth.symm⟩

theorem endpoint_eq_ok_iff {e : Endpoint} : endpoint v subject = .ok e ↔ v.GivesEndpoint e := by
  simp only [endpoint_eq_ok, backend_eq_ok_iff]
  constructor
  · rintro ⟨fields, hv, hb, hextra⟩
    exact ⟨⟨fields, hv, hb⟩, hextra⟩
  · rintro ⟨⟨fields, hv, hb⟩, hextra⟩
    exact ⟨fields, hv, hb, hextra⟩

theorem api_eq_ok_iff {a : Api} : api v subject = .ok a ↔ v.GivesApi a := by
  simp only [api_eq_ok, backend_eq_ok_iff]
  constructor
  · rintro ⟨fields, hv, hshown, hb, hslug, hextra⟩
    refine ⟨fields, hv, hb, hshown, hslug, fun c hc => ?_, hextra⟩
    rw [hslug] at hc
    exact Hostname.isLabelChar_iff.mp (isLabelChar_of_apiSlug hc)
  · rintro ⟨fields, hv, h⟩
    exact ⟨fields, hv, h.shown, h.backend, h.slug, h.extra⟩

theorem apiList_eq_ok_iff {items : List Json} {apis : List Api} :
    apiList subject items = .ok apis ↔ List.Forall₂ Json.GivesApi items apis := by
  induction items generalizing apis with
  | nil =>
      rw [apiList, Except.ok.injEq, List.forall₂_nil_left_iff, eq_comm]
  | cons v rest ih =>
      simp only [apiList, bind_eq_ok, api_eq_ok_iff, ih, Except.ok.injEq, List.forall₂_cons_left_iff]
      constructor
      · rintro ⟨a, ha, more, hmore, heq⟩
        exact ⟨a, more, ha, hmore, heq.symm⟩
      · rintro ⟨a, more, ha, hmore, heq⟩
        exact ⟨a, ha, more, hmore, heq.symm⟩

/-- The slug has no part in a backend. -/
theorem backend_set_slug (fields : Fields) (w : Json) (subject portSubject : String) :
    backend (fields.set "slug" w) subject portSubject = backend fields subject portSubject := by
  simp [backend, targetHost, isSet, Fields.valueOf, Fields.get?_set_of_ne]

theorem frontend_eq_ok_iff {present merged : Option Endpoint} :
    frontend fields subject present = .ok merged ↔ fields.MergesFrontend present merged := by
  rw [frontend]
  split
  next hnone => rw [Fields.mergesFrontend_of_none hnone, Except.ok.injEq, eq_comm]
  next v hv =>
    rw [Fields.mergesFrontend_of_some hv]
    split
    · rw [map_eq_ok]
      constructor
      · rintro ⟨e, he, rfl⟩
        exact ⟨e, rfl, endpoint_eq_ok_iff.mp he⟩
      · rintro ⟨e, rfl, he⟩
        exact ⟨e, endpoint_eq_ok_iff.mpr he, rfl⟩
    · rw [Except.ok.injEq, eq_comm]

/-- A list of one is read as its item is. -/
theorem apiList_singleton_eq_ok {apis : List Api} :
    apiList subject [v] = .ok apis ↔ ∃ a, apis = [a] ∧ api v subject = .ok a := by
  rw [apiList_eq_ok_iff]
  simp only [List.forall₂_cons_left_iff, List.forall₂_nil_left_iff, api_eq_ok_iff]
  constructor
  · rintro ⟨a, _, ha, rfl, rfl⟩
    exact ⟨a, rfl, ha⟩
  · rintro ⟨a, rfl, ha⟩
    exact ⟨a, [], ha, rfl, rfl⟩

theorem singleApi_obj_eq_ok {one : Fields} {apis : List Api} :
    singleApi (.obj one) subject = .ok apis ↔ ∃ a, apis = [a] ∧ one.GivesSingleApi a := by
  have hslug : Fields.valueOf (Fields.set one "slug" (.str "")) "slug" = .str "" := by
    rw [Fields.valueOf, Fields.get?_set_self]
    rfl
  -- The object is read as an API with an empty slug in the place of its own.
  rw [singleApi, apiList_singleton_eq_ok]
  refine exists_congr fun a => and_congr_right fun _ => ?_
  rw [api_eq_ok]
  constructor
  · rintro ⟨_, ⟨⟩, -, hb, ha, hextra⟩
    rw [backend_set_slug, backend_eq_ok_iff] at hb
    rw [hslug] at ha
    exact ⟨hb, ha, hextra⟩
  · rintro ⟨hb, ha, hextra⟩
    refine ⟨_, rfl, ?_, ?_, ?_, hextra⟩
    · rw [hslug, Json.isWritable_str]
    · rw [backend_set_slug, backend_eq_ok_iff]
      exact hb
    · rw [hslug, ha]
      rfl

/-- What is no object gives no API, and is turned down if it counts as set. -/
theorem singleApi_other_eq_ok (hother : ∀ one, v ≠ .obj one) {apis : List Api} :
    singleApi v subject = .ok apis ↔ v.truthy = false ∧ apis = [] := by
  rw [singleApi.eq_def]
  split
  next one => exact absurd rfl (hother one)
  · split
    next hset =>
      refine iff_of_false ?_ fun h => by simp [hset] at h
      rw [apiList_singleton_eq_ok]
      rintro ⟨a, -, ha⟩
      obtain ⟨one, hone, -⟩ := api_eq_ok.mp ha
      exact hother one hone
    next hunset =>
      have hfalse : v.truthy = false := by simpa using hunset
      rw [Except.ok.injEq, eq_comm, and_iff_right hfalse]

theorem apis_eq_ok_iff {present merged : List Api} :
    apis fields subject present = .ok merged ↔ fields.MergesApis present merged := by
  rw [apis.eq_def]
  split
  next hlist =>
    rw [Fields.mergesApis_of_given (.inl (by simp [hlist])), Fields.givesApis_of_list hlist,
      apiList_eq_ok_iff]
  next hother hlist =>
    rw [Fields.mergesApis_of_given (.inl (by simp [hlist])), Fields.givesApis_of_noList hlist hother,
      Except.ok.injEq, eq_comm]
  next v hlist hsingle =>
    rw [Fields.mergesApis_of_given (.inr (by simp [hsingle]))]
    by_cases hobject : ∃ one, v = .obj one
    · obtain ⟨one, rfl⟩ := hobject
      rw [Fields.givesApis_of_single hlist hsingle, singleApi_obj_eq_ok]
    · have hother : ∀ one, v ≠ .obj one := fun one hv => hobject ⟨one, hv⟩
      rw [Fields.givesApis_of_noSingle hlist hsingle hother, singleApi_other_eq_ok hother]
  next hlist hsingle =>
    rw [Fields.mergesApis_of_none hlist hsingle, Except.ok.injEq, eq_comm]

/-- A set of endpoints is read exactly from the payloads that merge it with what is there. -/
theorem endpointSet_eq_ok_iff {environment : String} {present : Option EndpointSet} {set : EndpointSet} :
    endpointSet v environment present = .ok set ↔
      ∃ fields, v = .obj fields ∧ Fields.Merges fields present set := by
  simp only [endpointSet_eq_ok, frontend_eq_ok_iff, apis_eq_ok_iff, distinctSlugs_iff]
  constructor
  · rintro ⟨fields, hv, hfrontend, hapis, hdistinct, hextra⟩
    exact ⟨fields, hv, hfrontend, hapis, hdistinct, hextra⟩
  · rintro ⟨fields, hv, h⟩
    exact ⟨fields, hv, h.frontend, h.apis, h.distinct, h.extra⟩

/-- Two APIs with slugs that differ in what is dropped from them are turned down. -/
example : endpointSet (.obj [("apis", .arr [
    .obj [("slug", .str "v1"), ("targetHost", .str "10.0.0.7"), ("targetPort", .int 8000)],
    .obj [("slug", .str "V 1"), ("targetHost", .str "10.0.0.8"), ("targetPort", .int 8000)]])])
    "prod" none = reject (.duplicateApiSlug "environment prod") := by decide +kernel

/-- A payload that gives its single API in a list, where it says itself that it has no slug. -/
def listing (fields one : Fields) : Fields :=
  Fields.set fields "apis" (.arr [.obj (Fields.set one "slug" (.str ""))])

/-- The single API of a payload is read as it is in a list, beside whatever says the same of the frontend. -/
theorem endpointSet_listing {one rest : Fields} (hnone : fields.get? "apis" = none)
    (hsingle : fields.get? "api" = some (.obj one))
    (hfrontend : rest.get? "frontend" = fields.get? "frontend") (environment : String)
    (present : Option EndpointSet) :
    endpointSet (.obj (listing rest one)) environment present =
      endpointSet (.obj fields) environment present := by
  have hapis : ∀ subject present,
      apis (listing rest one) subject present = apis fields subject present := by
    intro subject present
    -- The single API is itself read as a list of one.
    rw [apis, apis, listing, Fields.get?_set_self, hnone, hsingle]
    rfl
  have hfrontends : ∀ subject present,
      frontend (listing rest one) subject present = frontend fields subject present := by
    intro subject present
    rw [frontend, frontend, listing, Fields.get?_set_of_ne (by decide), hfrontend]
  simp only [endpointSet, hapis, hfrontends]

/-- Endpoints that were read where there were none are read again from what is written of them. -/
theorem endpointSet_reread {environment : String} {set : EndpointSet}
    (h : endpointSet v environment none = .ok set) (hgiven : set.Targeted) (present : Option EndpointSet) :
    endpointSet set.encode environment present = .ok set := by
  obtain ⟨fields, -, hmerges⟩ := endpointSet_eq_ok_iff.mp h
  have hplain : set.Plain := plain_endpointSet (by simp) h
  have hchars : ∀ a ∈ set.apis, ∀ c ∈ a.slug.toList, Hostname.isLabelChar c = true := by
    refine forall_endpointSet (Q := fun _ => True) (fun _ v a _ ha c hc => ?_) (fun _ _ _ => trivial)
      (fun _ _ => trivial) (by simp) h
    obtain ⟨fields, -, hapi⟩ := api_eq_ok_iff.mp ha
    exact Hostname.isLabelChar_iff.mpr (hapi.chars c hc)
  exact endpointSet_encode hplain hgiven hchars hmerges.distinct environment present

end Given

/-- The endpoints of an environment are read from a payload exactly if the payload merges them with what is
there, so that every result has the slugs of its APIs distinct, ports in range and nothing that the payload
neither gives nor keeps.  A single API is read, or turned down, as it is in a list, whether or not it is still
given apart.  What was read where there was nothing is read again from what is written of it, as long as every
endpoint has a target host. -/
theorem endpoint_sets_are_merged (environment : String) (present : Option EndpointSet) :
    (∀ v set, endpointSet v environment present = .ok set ↔
      ∃ fields, v = .obj fields ∧ Fields.Merges fields present set) ∧
    (∀ fields one, Fields.get? fields "apis" = none → Fields.get? fields "api" = some (.obj one) →
      endpointSet (.obj (listing fields one)) environment present =
          endpointSet (.obj fields) environment present ∧
        endpointSet (.obj (listing (Fields.drop fields ["api"]) one)) environment present =
          endpointSet (.obj fields) environment present) ∧
    ∀ v set, endpointSet v environment none = .ok set → set.Targeted →
      endpointSet set.encode environment present = .ok set := by
  refine ⟨fun v set => endpointSet_eq_ok_iff, fun fields one hnone hsingle => ⟨?_, ?_⟩, ?_⟩
  · exact endpointSet_listing hnone hsingle rfl environment present
  · exact endpointSet_listing hnone hsingle (Fields.get?_drop (by decide) fields) environment present
  · exact fun v set hread hgiven => endpointSet_reread hread hgiven present

/-- A single API with a slug that is not read. -/
def archiveFields : Fields :=
  [("slug", .str "Old"), ("targetHost", .str " 10.0.0.7 "), ("targetPort", .str "8060")]

/-- What is read of it. -/
def archive : Api := ⟨⟨"10.0.0.7", ⟨8060, by decide, by decide⟩, false, false⟩, "", []⟩

/-- A payload that gives it and does not mention the frontend. -/
def archivePayload : Fields := [("api", .obj archiveFields)]

/-- Endpoints that are there: a frontend, and an API that the payload takes the place of. -/
def shopEndpoints : EndpointSet :=
  ⟨some ⟨⟨"10.0.0.8", ⟨8030, by decide, by decide⟩, false, true⟩, []⟩,
    [{ archive with slug := "v1" }], []⟩

theorem endpoint_sets_are_merged_archive :
    Fields.Merges archivePayload (some shopEndpoints) ⟨shopEndpoints.frontend, [archive], []⟩ ∧
      endpointSet (.obj (listing archivePayload archiveFields)) "prod" (some shopEndpoints) =
        .ok ⟨shopEndpoints.frontend, [archive], []⟩ ∧
      endpointSet (.obj archivePayload) "prod" none = .ok ⟨none, [archive], []⟩ ∧
      EndpointSet.Targeted ⟨none, [archive], []⟩ ∧
      endpointSet (EndpointSet.encode ⟨none, [archive], []⟩) "prod" (some shopEndpoints) =
        .ok ⟨none, [archive], []⟩ := by
  have hmerged : endpointSet (.obj archivePayload) "prod" (some shopEndpoints) =
      .ok ⟨shopEndpoints.frontend, [archive], []⟩ := by decide +kernel
  have halone : endpointSet (.obj archivePayload) "prod" none = .ok ⟨none, [archive], []⟩ := by
    decide +kernel
  have htargeted : EndpointSet.Targeted ⟨none, [archive], []⟩ := ⟨by simp, by simp [archive]⟩
  obtain ⟨hmerges, hlisted, hagain⟩ := endpoint_sets_are_merged "prod" (some shopEndpoints)
  obtain ⟨_, ⟨⟩, harchive⟩ := (hmerges _ _).mp hmerged
  exact ⟨harchive, (hlisted _ _ rfl rfl).1.trans hmerged, halone, htargeted,
    hagain _ _ halone htargeted⟩

end Request

end EdgeProxy
