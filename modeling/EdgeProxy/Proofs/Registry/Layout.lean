import EdgeProxy.Proofs.Registry.Decoded
import EdgeProxy.Proofs.Registry.Shape
/-!
What documents of the older layouts mean in the current one.  The relations below say it for each part
of a document by its keys; `upgrade` gives every document of an older layout one that is so related.
-/

namespace EdgeProxy.Migration

/-- The environments of an application of layout 1, as they are to be written: a list of texts, or
nothing. -/
def AreTexts (v : Json) : Prop := v.truthy = true → ∃ names, v = .texts names

/-- A value where it is set, another one where it is not. -/
def filled (v default : Json) : Json := if v.truthy = true then v else default

/-- The fields of an endpoint, each of them present. -/
structure Completed (port : Int) (fields full : Fields) : Prop where
  keys : full.keys = ["targetHost", "targetPort", "localOnly", "requireAuth"]
  host : full.valueOf "targetHost" = filled (fields.valueOf "targetHost") (.str "localhost")
  port : full.valueOf "targetPort" = filled (fields.valueOf "targetPort") (.int port)
  localOnly : full.valueOf "localOnly" = .bool (fields.valueOf "localOnly").truthy
  requireAuth : full.valueOf "requireAuth" = .bool (fields.valueOf "requireAuth").truthy

/-- The frontend of each environment, from that of a flat application. -/
inductive FrontendKept : Json → Json → Prop where
  | unset {v : Json} (h : v.truthy = false) : FrontendKept v .null
  | set {fields full : Fields} (hset : (Json.obj fields).truthy = true)
      (h : Completed frontendPort fields full) : FrontendKept (.obj fields) (.obj full)

/-- The list of APIs of an environment, from its only API: one entry without a slug. -/
inductive ApiKept : Json → Json → Prop where
  | unset {v : Json} (h : v.truthy = false) : ApiKept v (.arr [])
  | set {fields full : Fields} (hset : (Json.obj fields).truthy = true)
      (h : Completed apiPort fields full) :
      ApiKept (.obj fields) (.arr [.obj (("slug", .str "") :: full)])

/-- The keys of an application of layout 1 that have another meaning in the current layout. -/
def changedKeys : List String := ["frontend", "api", "environments", "endpoints", "enabled"]

/-- The environments that a flat application is in. -/
def environmentNames (app : Fields) (names : List String) : Prop :=
  filled (app.valueOf "environments") (.texts ["prod"]) = .texts names

/-- A flat application: the same frontend and API in each of its environments. -/
structure FlatKept (app app' : Fields) : Prop where
  rest : app'.drop changedKeys = app.drop changedKeys
  gone : ∀ key ∈ flatKeys, key ∉ app'.keys
  enabled : app'.get? "enabled" = some (.bool (decide (app.get? "enabled" ≠ some (.bool false))))
  endpoints : ∃ names frontend apis, environmentNames app names ∧
    FrontendKept (app.valueOf "frontend") frontend ∧ ApiKept (app.valueOf "api") apis ∧
    ∃ sets : Fields, app'.get? "endpoints" = some (.obj sets) ∧ sets.keys.Nodup ∧
      (∀ id, id ∈ sets.keys ↔ id ∈ names) ∧
      ∀ p ∈ sets, p.2 = .obj [("frontend", frontend), ("apis", apis)]

/-- The endpoints of one environment: a list of APIs stays, a single API becomes a list. -/
inductive SetKept : Json → Json → Prop where
  | other {v : Json} (h : ∀ fields, v ≠ .obj fields) : SetKept v v
  | listed {fields : Fields} (h : fields.has "apis" = true) :
      SetKept (.obj fields) (.obj (fields.drop ["api"]))
  | single {fields : Fields} {apis : Json} (h : fields.has "apis" = false)
      (hapi : ApiKept (fields.valueOf "api") apis) :
      SetKept (.obj fields) (.obj ((fields.drop ["api"]).set "apis" apis))

/-- An application with a map of endpoints: nothing but the sets of endpoints changes. -/
def NestedKept (app app' : Fields) : Prop :=
  ∃ sets sets' : Fields, app.get? "endpoints" = some (.obj sets) ∧
    app' = app.set "endpoints" (.obj sets') ∧
    List.Forall₂ (fun p p' => p'.1 = p.1 ∧ SetKept p.2 p'.2) sets sets'

/-- An application of layout 1 in the current one. -/
inductive FirstKept : Json → Json → Prop where
  | flat {app app' : Fields} (hflat : ∀ sets, app.get? "endpoints" ≠ some (.obj sets))
      (h : FlatKept app app') : FirstKept (.obj app) (.obj app')
  | nested {app app' : Fields} (h : NestedKept app app') : FirstKept (.obj app) (.obj app')

/-- An application of layout 2 in the current one. -/
inductive SecondKept : Json → Json → Prop where
  | bare {app : Fields} (hbare : ∀ sets, app.get? "endpoints" ≠ some (.obj sets)) :
      SecondKept (.obj app) (.obj app)
  | nested {app app' : Fields} (h : NestedKept app app') : SecondKept (.obj app) (.obj app')

/-- The applications of a document, one by one; a document without a list of them gets what is given. -/
inductive ApplicationsKept (kept : Json → Json → Prop) (given : Option Json) (doc doc' : Fields) :
    Prop where
  | list {apps apps' : List Json} (hget : doc.get? "applications" = some (.arr apps))
      (hget' : doc'.get? "applications" = some (.arr apps')) (h : List.Forall₂ kept apps apps')
  | unset (hget : ∀ apps, doc.get? "applications" ≠ some (.arr apps))
      (hget' : doc'.get? "applications" = given)

/-- A document of an older layout in the current one. -/
structure DocumentKept (kept : Json → Json → Prop) (given : Option Json) (doc doc' : Fields) :
    Prop where
  marked : doc'.get? "schemaVersion" = some (.int 3)
  rest : doc'.drop ["schemaVersion", "applications"] = doc.drop ["schemaVersion", "applications"]
  applications : ApplicationsKept kept given doc doc'

theorem completed_endpointFields (fields : Fields) (port : Int) :
    Completed port fields (endpointFields fields port) := by
  refine ⟨rfl, ?_, ?_, ?_, ?_⟩
  all_goals simp [endpointFields, Fields.valueOf, Fields.get?, orDefault_get?, filled, flag]

theorem frontendKept_of_flatEndpoint {v w : Json} (h : flatEndpoint v frontendPort = .ok w) :
    FrontendKept v w := by
  cases hset : v.truthy with
  | false =>
      rw [flatEndpoint_of_unset hset] at h
      cases h
      exact .unset hset
  | true =>
      obtain ⟨fields, rfl⟩ := flatEndpoint_ok_iff.mp ⟨w, h⟩ hset
      rw [flatEndpoint_of_set hset] at h
      cases h
      exact .set hset (completed_endpointFields fields _)

theorem filled_filled (v : Json) {default : Json} (h : default.truthy = true) :
    filled (filled v default) default = filled v default := by
  cases hv : v.truthy <;> simp [filled, hv, h]

/-- An endpoint of layout 1 passes both steps, and is complete after the first one. -/
theorem completed_twice (fields : Fields) :
    Completed apiPort fields (endpointFields (endpointFields fields apiPort) apiPort) := by
  have hfirst := completed_endpointFields fields apiPort
  have hsecond := completed_endpointFields (endpointFields fields apiPort) apiPort
  refine ⟨rfl, ?_, ?_, ?_, ?_⟩
  · rw [hsecond.host, hfirst.host, filled_filled _ (by decide)]
  · rw [hsecond.port, hfirst.port, filled_filled _ (by decide)]
  · rw [hsecond.localOnly, hfirst.localOnly, Json.truthy]
  · rw [hsecond.requireAuth, hfirst.requireAuth, Json.truthy]

theorem setKept_of_listApis {v w : Json} (h : listApis v = .ok w) : SetKept v w := by
  have hshape := listApis_ok_iff.mp ⟨w, h⟩
  by_cases hobject : ∃ fields, v = .obj fields
  · obtain ⟨fields, rfl⟩ := hobject
    cases hapis : Fields.has fields "apis" with
    | true =>
        rw [listApis_of_listed hapis] at h
        cases h
        exact .listed hapis
    | false =>
        cases hset : (Fields.valueOf fields "api").truthy with
        | false =>
            rw [listApis_of_unset hapis hset] at h
            cases h
            exact .single hapis (.unset hset)
        | true =>
            obtain ⟨api, hapi⟩ := (hshape fields rfl).resolve_left (by simp [hapis]) hset
            rw [hapi] at hset
            rw [listApis_of_set hapis hapi hset] at h
            cases h
            exact .single hapis (hapi ▸ .set hset (completed_endpointFields api _))
  · have hother : ∀ fields, v ≠ .obj fields := fun fields hv => hobject ⟨fields, hv⟩
    have hsame : listApis v = .ok v := by
      rw [listApis]
      intro fields hv
      exact hother fields hv
    rw [hsame] at h
    cases h
    exact .other hother

theorem nestedKept {app sets : Fields} (hget : app.get? "endpoints" = some (.obj sets)) {w : Json}
    (h : listApplication (.obj app) = .ok w) : ∃ app', w = .obj app' ∧ NestedKept app app' := by
  obtain ⟨sets', hsets', rfl⟩ := (listApplication_of_nested hget).mp h
  refine ⟨_, rfl, sets, sets', hget, rfl, (eachValue_eq_ok_iff.mp hsets').imp ?_⟩
  exact fun p p' ⟨hkey, hvalue⟩ => ⟨hkey, setKept_of_listApis hvalue⟩

theorem secondKept {v w : Json} (h : listApplication v = .ok w) : SecondKept v w := by
  cases listApplication_ok_iff.mp ⟨w, h⟩ with
  | @bare app hunset =>
      by_cases hget : ∃ sets, app.get? "endpoints" = some (.obj sets)
      · obtain ⟨sets, hget⟩ := hget
        obtain ⟨app', rfl, hkept⟩ := nestedKept hget h
        exact .nested hkept
      · have hbare : ∀ sets, app.get? "endpoints" ≠ some (.obj sets) :=
          fun sets hsets => hget ⟨sets, hsets⟩
        rw [listApplication_of_bare hunset hbare] at h
        cases h
        exact .bare hbare
  | nested hnested =>
      obtain ⟨sets, hget, -⟩ := hnested
      obtain ⟨app', rfl, hkept⟩ := nestedKept hget h
      exact .nested hkept

/-- The sets of endpoints of a flat application: one for each name, all alike. -/
theorem spread_texts {frontend api f a : Json} (hf : flatEndpoint frontend frontendPort = .ok f)
    (ha : flatEndpoint api apiPort = .ok a) (names : List String) :
    ∃ sets, spread frontend api (names.map .str) = .ok sets ∧ sets.keys.Nodup ∧
      (∀ id, id ∈ sets.keys ↔ id ∈ names) ∧
      ∀ p ∈ sets, p.2 = .obj [("frontend", f), ("api", a)] := by
  induction names with
  | nil => exact ⟨[], rfl, List.nodup_nil, by simp, by simp⟩
  | cons name rest ih =>
      obtain ⟨sets, hsets, hnodup, hkeys, hvalues⟩ := ih
      refine ⟨(name, .obj [("frontend", f), ("api", a)]) :: sets.drop [name], ?_, ?_, ?_, ?_⟩
      · simp only [List.map_cons, spread, bind_eq_ok]
        exact ⟨f, hf, a, ha, name, rfl, sets, hsets, rfl⟩
      · rw [Fields.keys_cons, List.nodup_cons]
        exact ⟨by simp [Fields.keys_drop], Fields.nodup_keys_drop hnodup _⟩
      · intro id
        by_cases hid : id = name
        · simp [hid]
        · simp [Fields.keys_drop, hid, hkeys]
      · rw [List.forall_mem_cons]
        exact ⟨rfl, fun p hp => hvalues p (Fields.mem_drop.mp hp).1⟩

/-- A set of endpoints of a flat application in the second step. -/
theorem listApis_of_flat {v a : Json} (ha : flatEndpoint v apiPort = .ok a) :
    ∃ apis, ApiKept v apis ∧ ∀ f, listApis (.obj [("frontend", f), ("api", a)]) =
      .ok (.obj [("frontend", f), ("apis", apis)]) := by
  cases hset : v.truthy with
  | false =>
      rw [flatEndpoint_of_unset hset] at ha
      cases ha
      exact ⟨_, .unset hset, fun f => rfl⟩
  | true =>
      obtain ⟨fields, rfl⟩ := flatEndpoint_ok_iff.mp ⟨a, ha⟩ hset
      rw [flatEndpoint_of_set hset] at ha
      cases ha
      exact ⟨_, .set hset (completed_twice fields), fun f => rfl⟩

theorem environmentNames_of_texts {app : Fields} (h : AreTexts (app.valueOf "environments")) :
    ∃ names, environmentNames app names := by
  cases hset : (app.valueOf "environments").truthy with
  | false => exact ⟨["prod"], by simp [environmentNames, filled, hset]⟩
  | true =>
      obtain ⟨names, hnames⟩ := h hset
      exact ⟨names, by rw [environmentNames, filled, if_pos hset, hnames]⟩

theorem listedNames_of_environmentNames {app : Fields} {names : List String}
    (h : environmentNames app names) : listedNames app = .ok (names.map .str) := by
  rw [environmentNames, filled] at h
  change elements (if (app.valueOf "environments").truthy = true then app.valueOf "environments"
    else .texts ["prod"]) = _
  rw [h]
  rfl

theorem drop_changedKeys_nested (app sets sets' : Fields) :
    ((nested app sets).set "endpoints" (.obj sets')).drop changedKeys = app.drop changedKeys := by
  rw [Fields.drop_set (by decide), nested, Fields.drop_set (by decide), Fields.drop_set (by decide)]
  have hsub : ∀ key ∈ flatKeys, key ∈ changedKeys := by decide
  rw [Fields.drop_drop, Fields.drop_eq_self]
  intro key hkey hmem
  simp [Fields.keys_drop, hsub key hkey] at hmem

theorem flatKeys_gone (app sets sets' : Fields) {key : String} (hkey : key ∈ flatKeys) :
    key ∉ ((nested app sets).set "endpoints" (.obj sets')).keys := by
  have hne : key ≠ "endpoints" ∧ key ≠ "enabled" := by
    revert key
    decide
  simp [nested, Fields.mem_keys_set, Fields.keys_drop, hne.1, hne.2, hkey]

/-- A flat application in the current layout. -/
theorem flatKept {app : Fields} (hshape : IsFlat AreTexts app) :
    ∃ w, nestApplication (.obj app) = .ok w ∧
      ∃ app', listApplication w = .ok (.obj app') ∧ FlatKept app app' := by
  obtain ⟨names, hnames⟩ := environmentNames_of_texts hshape.environments
  obtain ⟨f, hf⟩ : ∃ f, flatEndpoint (app.valueOf "frontend") frontendPort = .ok f :=
    flatEndpoint_ok_iff.mpr hshape.frontend
  obtain ⟨a, ha⟩ : ∃ a, flatEndpoint (app.valueOf "api") apiPort = .ok a :=
    flatEndpoint_ok_iff.mpr hshape.api
  obtain ⟨sets, hsets, hnodup, hkeys, hvalues⟩ := spread_texts hf ha names
  obtain ⟨apis, hapis, hlisted⟩ := listApis_of_flat ha
  have hnested : nestApplication (.obj app) = .ok (.obj (nested app sets)) :=
    (nestApplication_eq_ok hshape.endpoints).mpr
      ⟨_, listedNames_of_environmentNames hnames, sets, hsets, rfl⟩
  obtain ⟨sets', hsets'⟩ := eachValue_ok_iff.mpr (isSet_of_spread hsets)
  have hlist := (listApplication_of_nested (get?_nested app sets)).mpr ⟨sets', hsets', rfl⟩
  refine ⟨_, hnested, _, hlist, ?_⟩
  refine ⟨drop_changedKeys_nested app sets sets', fun key => flatKeys_gone app sets sets', ?_, ?_⟩
  · rw [Fields.get?_set_of_ne (by decide), nested, Fields.get?_set_self]
    congr 2
    exact Bool.eq_iff_iff.mpr (by simp)
  · have hsame : sets'.keys = sets.keys :=
      (eachValue_spec (P := fun _ => True) (fun _ _ _ _ => trivial) (by simp) hsets').1
    refine ⟨names, f, apis, hnames, frontendKept_of_flatEndpoint hf, hapis, sets',
      Fields.get?_set_self .., hsame ▸ hnodup, hsame ▸ hkeys, fun p' hp' => ?_⟩
    obtain ⟨p, hp, -, hstep⟩ :=
      Checked.exists_of_forall₂ (eachValue_eq_ok_iff.mp hsets') p' hp'
    rw [hvalues p hp, hlisted f] at hstep
    exact (Except.ok.inj hstep).symm

theorem firstKept {v : Json} (h : IsFirst AreTexts v) :
    ∃ w, nestApplication v = .ok w ∧ ∃ u, listApplication w = .ok u ∧ FirstKept v u := by
  cases h with
  | flat hshape =>
      obtain ⟨w, hw, app', hu, hkept⟩ := flatKept hshape
      exact ⟨w, hw, _, hu, .flat hshape.endpoints hkept⟩
  | @nested app hnested =>
      obtain ⟨sets, hget, hsets⟩ := hnested
      obtain ⟨u, hu⟩ := listApplication_ok_iff.mpr (.nested ⟨sets, hget, hsets⟩)
      obtain ⟨app', rfl, hkept⟩ := nestedKept hget hu
      exact ⟨_, nestApplication_of_nested hget, _, hu, .nested hkept⟩

theorem each_firstKept {apps : List Json} (h : ∀ v ∈ apps, IsFirst AreTexts v) :
    ∃ nested, each nestApplication apps = .ok nested ∧
      ∃ apps', each listApplication nested = .ok apps' ∧ List.Forall₂ FirstKept apps apps' := by
  simp only [each_eq_ok_iff]
  induction apps with
  | nil => exact ⟨[], .nil, [], .nil, .nil⟩
  | cons v rest ih =>
      rw [List.forall_mem_cons] at h
      obtain ⟨w, hw, u, hu, hkept⟩ := firstKept h.1
      obtain ⟨nested, hnested, rest', hrest', hall⟩ := ih h.2
      exact ⟨w :: nested, .cons hw hnested, u :: rest', .cons hu hrest', .cons hkept hall⟩

theorem each_secondKept {apps : List Json} (h : ∀ v ∈ apps, IsSecond v) :
    ∃ apps', each listApplication apps = .ok apps' ∧ List.Forall₂ SecondKept apps apps' := by
  simp only [each_eq_ok_iff]
  obtain ⟨apps', happs'⟩ := exists_forall₂_iff.mpr fun v hv => listApplication_ok_iff.mpr (h v hv)
  exact ⟨apps', happs', happs'.imp fun v w => secondKept⟩

/-- Applications that are no list are not set at all. -/
theorem HasApplications.list_or_unset {kind : Json → Prop} {doc : Fields}
    (h : HasApplications kind doc) :
    (∃ apps, doc.get? "applications" = some (.arr apps) ∧ ∀ v ∈ apps, kind v) ∨
      ((∀ apps, doc.get? "applications" ≠ some (.arr apps)) ∧
        (doc.valueOf "applications").truthy = false) := by
  cases h with
  | list hget h => exact .inl ⟨_, hget, h⟩
  | unset hunset =>
      by_cases hget : ∃ apps, doc.get? "applications" = some (.arr apps)
      · obtain ⟨apps, hget⟩ := hget
        have hempty : apps = [] := by
          simpa [Fields.valueOf, hget, Json.truthy] using hunset
        exact .inl ⟨apps, hget, by simp [hempty]⟩
      · exact .inr ⟨fun apps happs => hget ⟨apps, happs⟩, hunset⟩

/-- The steps leave every other key alone. -/
theorem drop_steps (doc : Fields) (apps version : Json) :
    ((doc.set "applications" apps).set "schemaVersion" version).drop
        ["schemaVersion", "applications"] = doc.drop ["schemaVersion", "applications"] := by
  rw [Fields.drop_set (by decide), Fields.drop_set (by decide)]

/-- Both steps on a document of layout 1, from what they do to its applications. -/
theorem upgrade_of_applications {doc : Fields} (hschema : schemaOf doc = .ok 1)
    {apps nested apps' : List Json} (happs : applications doc = .ok apps)
    (hnested : each nestApplication apps = .ok nested)
    (happs' : each listApplication nested = .ok apps') :
    ∃ doc', upgrade doc = .ok doc' ∧ doc'.get? "schemaVersion" = some (.int 3) ∧
      doc'.drop ["schemaVersion", "applications"] = doc.drop ["schemaVersion", "applications"] ∧
      doc'.get? "applications" = some (.arr apps') := by
  have hfirst := nest_eq_ok_iff.mpr ⟨apps, happs, nested, hnested, rfl⟩
  have hsecond := (list_of_list (get?_relisted doc nested (.int 2))).mpr ⟨apps', happs', rfl⟩
  refine ⟨_, (upgrade_of_first hschema).mpr ⟨_, hfirst, _, hsecond, rfl⟩, Fields.get?_set_self ..,
    ?_, get?_relisted ..⟩
  rw [drop_steps, drop_steps]

theorem first_document {doc : Fields} (hschema : schemaOf doc = .ok 1)
    (h : HasApplications (IsFirst AreTexts) doc) :
    ∃ doc', upgrade doc = .ok doc' ∧ DocumentKept FirstKept (some (.arr [])) doc doc' := by
  rcases h.list_or_unset with ⟨apps, hget, hkind⟩ | ⟨hget, hunset⟩
  · obtain ⟨nested, hnested, apps', happs', hkept⟩ := each_firstKept hkind
    obtain ⟨doc', hupgrade, hmarked, hrest, hget'⟩ :=
      upgrade_of_applications hschema (applications_of_list hget) hnested happs'
    exact ⟨doc', hupgrade, hmarked, hrest, .list hget hget' hkept⟩
  · have hnest : each nestApplication [] = .ok [] := rfl
    have hlist : each listApplication [] = .ok [] := rfl
    obtain ⟨doc', hupgrade, hmarked, hrest, hget'⟩ :=
      upgrade_of_applications hschema (applications_of_unset hunset) hnest hlist
    exact ⟨doc', hupgrade, hmarked, hrest, .unset hget hget'⟩

theorem second_document {doc : Fields} (hschema : schemaOf doc = .ok 2)
    (h : HasApplications IsSecond doc) :
    ∃ doc', upgrade doc = .ok doc' ∧
      DocumentKept SecondKept (doc.get? "applications") doc doc' := by
  rcases h.list_or_unset with ⟨apps, hget, hkind⟩ | ⟨hget, hunset⟩
  · obtain ⟨apps', happs', hkept⟩ := each_secondKept hkind
    have hlist := (list_of_list hget).mpr ⟨apps', happs', rfl⟩
    exact ⟨_, (upgrade_of_second hschema).mpr ⟨_, hlist, rfl⟩, Fields.get?_set_self ..,
      drop_steps .., .list hget (get?_relisted ..) hkept⟩
  · exact ⟨_, (upgrade_of_second hschema).mpr ⟨doc, list_of_unset hunset hget, rfl⟩,
      Fields.get?_set_self .., Fields.drop_set (by decide) .., .unset hget
        (Fields.get?_set_of_ne (by decide) ..)⟩

/-- Every document of an older layout becomes one of the current layout with the same meaning: all its
keys stay but for the mark and the applications, and each application, each set of endpoints and each
endpoint is related to the one it comes from. -/
theorem old_layouts_keep_their_meaning {doc : Fields} {n : Int} (hschema : schemaOf doc = .ok n)
    (hshape : IsShaped AreTexts doc) :
    ∃ doc', upgrade doc = .ok doc' ∧
      (n = 1 → DocumentKept FirstKept (some (.arr [])) doc doc') ∧
      (n = 2 → DocumentKept SecondKept (doc.get? "applications") doc doc') ∧
      (n = 3 → doc' = doc) := by
  rcases schemaOf_le hschema with rfl | rfl | hmarked
  · obtain ⟨doc', hupgrade, hkept⟩ := first_document hschema (hshape.first hschema)
    exact ⟨doc', hupgrade, fun _ => hkept, by simp, by simp⟩
  · obtain ⟨doc', hupgrade, hkept⟩ := second_document hschema (hshape.second hschema)
    exact ⟨doc', hupgrade, by simp, fun _ => hkept, by simp⟩
  · have hcurrent : n = 3 := by
      have h := schemaOf_of_marked hmarked
      rw [hschema] at h
      exact Except.ok.inj h
    exact ⟨doc, upgrade_of_marked hmarked, by simp [hcurrent], by simp [hcurrent], fun _ => rfl⟩

/-- A document from before layouts were marked, with a flat application and one that has a map of
endpoints already. -/
def mixedDocument : Fields :=
  [("baseDomain", .str "example.org"),
    ("applications", .arr [
      .obj [("slug", .str "shop"), ("frontend", .obj [("targetPort", .int 8080)]),
        ("api", .obj [("requireAuth", .int 1)]), ("environments", .texts ["prod", "dev"])],
      .obj [("slug", .str "blog"), ("endpoints", .obj [
        ("prod", .obj [("frontend", .null), ("api", .obj [("targetHost", .str "10.0.0.5")])])])]])]

theorem mixedDocument_keeps_its_meaning :
    schemaOf mixedDocument = .ok 1 ∧ IsShaped AreTexts mixedDocument ∧
      ∃ doc', upgrade mixedDocument = .ok doc' ∧
        DocumentKept FirstKept (some (.arr [])) mixedDocument doc' := by
  have hschema : schemaOf mixedDocument = .ok 1 := rfl
  have hshop : IsFlat AreTexts [("slug", .str "shop"), ("frontend", .obj [("targetPort", .int 8080)]),
      ("api", .obj [("requireAuth", .int 1)]), ("environments", .texts ["prod", "dev"])] :=
    ⟨fun _ => nofun, fun _ => ⟨_, rfl⟩, fun _ => ⟨_, rfl⟩, fun _ => ⟨_, rfl⟩⟩
  have hblog : IsNested [("slug", .str "blog"), ("endpoints", .obj [
      ("prod", .obj [("frontend", .null), ("api", .obj [("targetHost", .str "10.0.0.5")])])])] := by
    refine ⟨_, rfl, ?_⟩
    rw [List.forall_mem_singleton]
    rintro fields ⟨⟩
    exact .inr fun _ => ⟨_, rfl⟩
  have hshape : IsShaped AreTexts mixedDocument := by
    refine ⟨fun _ => .list rfl ?_, fun h => by cases h⟩
    rw [List.forall_mem_cons, List.forall_mem_singleton]
    exact ⟨.flat hshop, .nested hblog⟩
  obtain ⟨doc', hupgrade, hkept, -⟩ := old_layouts_keep_their_meaning hschema hshape
  exact ⟨hschema, hshape, doc', hupgrade, hkept rfl⟩

end EdgeProxy.Migration
