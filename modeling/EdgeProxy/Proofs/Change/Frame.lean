import EdgeProxy.Proofs.Change.Steps
import EdgeProxy.Proofs.Registry.WellFormed
/-!
What an update of an entity leaves as it is: its identifier, its time of creation, what it keeps, and every
field that the payload does not name.  Each step of an update stays within the frame of the update, and frames
compose.
-/

namespace EdgeProxy

namespace Payload

variable {updates : Json} {key : String}

/-- A payload gives a value for a key. -/
def Names (updates : Json) (key : String) : Prop := ∃ v, given updates key = .ok (some v)

/-- A field of a payload is named, or null. -/
theorem names_or_null {v : Json} (h : field updates key = .ok v) : Names updates key ∨ v = .null := by
  rw [field.eq_def] at h
  split at h
  next fields =>
    cases h
    cases hget : Fields.get? fields key with
    | none => exact .inr (by rw [Fields.valueOf, hget]; rfl)
    | some w => exact .inl ⟨w, congrArg Except.ok hget⟩
  · cases h

/-- An optional step relates as the step does if the payload names the key. -/
theorem related_of_whenGiven {α : Type} {R : α → α → Prop} {act : Json → α → Requested α} {a b : α}
    (hrefl : R a a) (hact : Names updates key → ∀ v, act v a = .ok b → R a b)
    (h : whenGiven updates key act a = .ok b) : R a b := by
  simp only [whenGiven, bind_eq_ok] at h
  obtain ⟨given, hgiven, h⟩ := h
  cases given with
  | none =>
      cases h
      exact hrefl
  | some v => exact hact ⟨v, hgiven⟩ v h

/-- A payload lists an environment under its endpoints. -/
def lists (updates : Json) (environment : String) : Bool :=
  match field updates "endpoints" with
  | .ok (.obj fields) => Fields.has fields environment
  | _ => false

end Payload

open Payload (Names)

/-- The name of a host, a subdomain or a domain of its own, stays, or one of the two is named and set, and the
other cleared. -/
inductive Host.Renamed (updates : Json) :
    Option String × Option String → Option String × Option String → Prop where
  | kept (name : Option String × Option String) : Renamed updates name name
  | subdomain {name : Option String × Option String} (hnamed : Names updates "subdomain")
      (s : String) : Renamed updates name (some s, none)
  | customDomain {name : Option String × Option String} (hnamed : Names updates "customDomain")
      (s : String) : Renamed updates name (none, some s)

/-- What an update of a host leaves as it is. -/
structure Host.Framed (updates : Json) (h h' : Host) : Prop where
  id : h'.id = h.id
  createdAt : h'.createdAt = h.createdAt
  extra : h'.extra = h.extra
  targetHost : ¬ Names updates "targetHost" → h'.targetHost = h.targetHost
  targetPort : ¬ Names updates "targetPort" → h'.targetPort = h.targetPort
  enabled : ¬ Names updates "enabled" → h'.enabled = h.enabled
  localOnly : ¬ Names updates "localOnly" → h'.localOnly = h.localOnly
  requireAuth : ¬ Names updates "requireAuth" → h'.requireAuth = h.requireAuth
  name : Host.Renamed updates (h.subdomain, h.customDomain) (h'.subdomain, h'.customDomain)

namespace Host

variable {updates : Json} {h h' : Host}

theorem Renamed.trans {x y z : Option String × Option String} (hxy : Renamed updates x y)
    (hyz : Renamed updates y z) : Renamed updates x z := by
  cases hyz with
  | kept => exact hxy
  | subdomain hnamed s => exact .subdomain hnamed s
  | customDomain hnamed s => exact .customDomain hnamed s

theorem Framed.refl (updates : Json) (h : Host) : h.Framed updates h :=
  ⟨rfl, rfl, rfl, fun _ => rfl, fun _ => rfl, fun _ => rfl, fun _ => rfl, fun _ => rfl,
    .kept _⟩

theorem Framed.trans {a b c : Host} (hab : a.Framed updates b) (hbc : b.Framed updates c) :
    a.Framed updates c where
  id := hbc.id.trans hab.id
  createdAt := hbc.createdAt.trans hab.createdAt
  extra := hbc.extra.trans hab.extra
  targetHost hnot := (hbc.targetHost hnot).trans (hab.targetHost hnot)
  targetPort hnot := (hbc.targetPort hnot).trans (hab.targetPort hnot)
  enabled hnot := (hbc.enabled hnot).trans (hab.enabled hnot)
  localOnly hnot := (hbc.localOnly hnot).trans (hab.localOnly hnot)
  requireAuth hnot := (hbc.requireAuth hnot).trans (hab.requireAuth hnot)
  name := hab.name.trans hbc.name

theorem framed_setTargetHost (hnamed : Names updates "targetHost") {v : Json}
    (hset : h.setTargetHost v = .ok h') : h.Framed updates h' := by
  obtain ⟨s, rfl⟩ := setTargetHost_eq_ok hset
  exact { Framed.refl updates h with targetHost := absurd hnamed }

theorem framed_setTargetPort (hnamed : Names updates "targetPort") {v : Json}
    (hset : h.setTargetPort v = .ok h') : h.Framed updates h' := by
  obtain ⟨p, rfl⟩ := setTargetPort_eq_ok hset
  exact { Framed.refl updates h with targetPort := absurd hnamed }

theorem framed_setSubdomain (hnamed : Names updates "subdomain") {v : Json}
    (hset : h.setSubdomain v = .ok h') : h.Framed updates h' := by
  rcases setSubdomain_eq_ok hset with rfl | ⟨s, -, rfl⟩
  · exact .refl updates _
  · exact { Framed.refl updates h with name := .subdomain hnamed s }

theorem framed_setCustomDomain (hnamed : Names updates "customDomain") {v : Json}
    (hset : h.setCustomDomain v = .ok h') : h.Framed updates h' := by
  rcases setCustomDomain_eq_ok hset with rfl | ⟨s, -, rfl⟩
  · exact .refl updates _
  · exact { Framed.refl updates h with name := .customDomain hnamed s }

/-- An update of a host stays within its frame. -/
theorem framed_update (hupdate : h.update updates = .ok h') : h.Framed updates h' := by
  simp only [update, bind_eq_ok] at hupdate
  obtain ⟨a, hhost, b, hport, c, henabled, d, hlocal, e, hauth, f, hsubdomain, hcustom⟩ := hupdate
  have toHost : h.Framed updates a := Payload.related_of_whenGiven (.refl updates h)
    (fun hnamed _ => framed_setTargetHost hnamed) hhost
  have toPort : a.Framed updates b := Payload.related_of_whenGiven (.refl updates a)
    (fun hnamed _ => framed_setTargetPort hnamed) hport
  have toEnabled : b.Framed updates c := by
    refine Payload.related_of_whenGiven (.refl updates b) (fun hnamed v hset => ?_) henabled
    cases hset
    exact { Framed.refl updates b with enabled := absurd hnamed }
  have toLocal : c.Framed updates d := by
    refine Payload.related_of_whenGiven (.refl updates c) (fun hnamed v hset => ?_) hlocal
    cases hset
    exact { Framed.refl updates c with localOnly := absurd hnamed }
  have toAuth : d.Framed updates e := by
    refine Payload.related_of_whenGiven (.refl updates d) (fun hnamed v hset => ?_) hauth
    cases hset
    exact { Framed.refl updates d with requireAuth := absurd hnamed }
  have toSubdomain : e.Framed updates f := Payload.related_of_whenGiven (.refl updates e)
    (fun hnamed _ => framed_setSubdomain hnamed) hsubdomain
  have toCustom : f.Framed updates h' := Payload.related_of_whenGiven (.refl updates f)
    (fun hnamed _ => framed_setCustomDomain hnamed) hcustom
  exact ((((((toHost.trans toPort).trans toEnabled).trans toLocal).trans toAuth).trans
    toSubdomain).trans toCustom)

theorem Framed.stored (hframed : h.Framed updates h') : h.stored.Framed updates h'.stored :=
  { hframed with extra := congrArg kept hframed.extra }

end Host

/-- What an update of an environment leaves as it is. -/
structure Environment.Framed (updates : Json) (e e' : Environment) : Prop where
  id : e'.id = e.id
  extra : e'.extra = e.extra
  name : ¬ Names updates "name" → e'.name = e.name
  frontendPrefix : ¬ Names updates "prefix" → e'.frontendPrefix = e.frontendPrefix
  apiPrefix : ¬ Names updates "apiPrefix" → e'.apiPrefix = e.apiPrefix
  isDefault : ¬ Names updates "isDefault" → e'.isDefault = e.isDefault

namespace Environment

variable {updates : Json} {e e' : Environment}

theorem Framed.refl (updates : Json) (e : Environment) : e.Framed updates e :=
  ⟨rfl, rfl, fun _ => rfl, fun _ => rfl, fun _ => rfl, fun _ => rfl⟩

theorem Framed.trans {a b c : Environment} (hab : a.Framed updates b) (hbc : b.Framed updates c) :
    a.Framed updates c where
  id := hbc.id.trans hab.id
  extra := hbc.extra.trans hab.extra
  name hnot := (hbc.name hnot).trans (hab.name hnot)
  frontendPrefix hnot := (hbc.frontendPrefix hnot).trans (hab.frontendPrefix hnot)
  apiPrefix hnot := (hbc.apiPrefix hnot).trans (hab.apiPrefix hnot)
  isDefault hnot := (hbc.isDefault hnot).trans (hab.isDefault hnot)

theorem framed_setName (hnamed : Names updates "name") {v : Json} (hset : e.setName v = .ok e') :
    e.Framed updates e' := by
  obtain ⟨s, rfl⟩ := setName_eq_ok hset
  exact { Framed.refl updates e with name := absurd hnamed }

theorem framed_setFrontendPrefix (hnamed : Names updates "prefix") {v : Json}
    (hset : e.setFrontendPrefix v = .ok e') : e.Framed updates e' := by
  obtain ⟨labels, -, rfl⟩ := setFrontendPrefix_eq_ok hset
  exact { Framed.refl updates e with frontendPrefix := absurd hnamed }

theorem framed_setApiPrefix (hnamed : Names updates "apiPrefix") {v : Json}
    (hset : e.setApiPrefix v = .ok e') : e.Framed updates e' := by
  obtain ⟨labels, -, rfl⟩ := setApiPrefix_eq_ok hset
  exact { Framed.refl updates e with apiPrefix := absurd hnamed }

/-- An update of an environment stays within its frame. -/
theorem framed_update (hupdate : e.update updates = .ok e') : e.Framed updates e' := by
  simp only [update, bind_eq_ok] at hupdate
  obtain ⟨a, hname, b, hprefix, hapi⟩ := hupdate
  have toName : e.Framed updates a := Payload.related_of_whenGiven (.refl updates e)
    (fun hnamed _ => framed_setName hnamed) hname
  have toPrefix : a.Framed updates b := Payload.related_of_whenGiven (.refl updates a)
    (fun hnamed _ => framed_setFrontendPrefix hnamed) hprefix
  have toApi : b.Framed updates e' := Payload.related_of_whenGiven (.refl updates b)
    (fun hnamed _ => framed_setApiPrefix hnamed) hapi
  exact (toName.trans toPrefix).trans toApi

/-- Where the payload names the mark, it may be different before and after. -/
theorem Framed.marked (hframed : e.Framed updates e') (hnamed : Names updates "isDefault")
    (before after : Bool) :
    ({ e with isDefault := before } : Environment).Framed updates { e' with isDefault := after } :=
  { hframed with isDefault := absurd hnamed }

theorem Framed.stored (hframed : e.Framed updates e') : e.stored.Framed updates e'.stored :=
  { hframed with extra := congrArg kept hframed.extra }

end Environment

/-- An update of an application can change the endpoints of an environment: it lists it, and there is such
an environment. -/
def Payload.reroutes (environments : List Environment) (updates : Json) (environment : String) : Bool :=
  lists updates environment && environments.any (·.id == environment)

/-- What an update of an application leaves as it is, of the endpoints too. -/
structure Application.Framed (environments : List Environment) (updates : Json) (a a' : Application) :
    Prop where
  id : a'.id = a.id
  createdAt : a'.createdAt = a.createdAt
  extra : a'.extra = a.extra
  name : ¬ Names updates "name" → a'.name = a.name
  slug : ¬ Names updates "slug" → a'.slug = a.slug
  enabled : ¬ Names updates "enabled" → a'.enabled = a.enabled
  endpoints : a'.endpoints.filter (!Payload.reroutes environments updates ·.1) =
    a.endpoints.filter (!Payload.reroutes environments updates ·.1)

namespace Application

variable {environments : List Environment} {updates : Json} {a b : Application}

theorem Framed.refl (environments : List Environment) (updates : Json) (a : Application) :
    a.Framed environments updates a :=
  ⟨rfl, rfl, rfl, fun _ => rfl, fun _ => rfl, fun _ => rfl, rfl⟩

theorem Framed.trans {c : Application} (hab : a.Framed environments updates b)
    (hbc : b.Framed environments updates c) : a.Framed environments updates c where
  id := hbc.id.trans hab.id
  createdAt := hbc.createdAt.trans hab.createdAt
  extra := hbc.extra.trans hab.extra
  name hnot := (hbc.name hnot).trans (hab.name hnot)
  slug hnot := (hbc.slug hnot).trans (hab.slug hnot)
  enabled hnot := (hbc.enabled hnot).trans (hab.enabled hnot)
  endpoints := hbc.endpoints.trans hab.endpoints

theorem framed_renamed {v : Json} (hfield : Payload.field updates "name" = .ok v) (a : Application) :
    a.Framed environments updates (Registry.renamed v a) := by
  rcases Payload.names_or_null hfield with hnamed | rfl
  · obtain ⟨name, heq⟩ := Registry.renamed_eq v a
    rw [heq]
    exact { Framed.refl environments updates a with name := absurd hnamed }
  · exact .refl environments updates a

theorem framed_reslugged {r : Registry} {id : String} {v : Json}
    (hfield : Payload.field updates "slug" = .ok v) (h : r.reslugged id v a = .ok b) :
    a.Framed environments updates b := by
  rcases Payload.names_or_null hfield with hnamed | rfl
  · obtain ⟨slug, rfl, -⟩ := Registry.reslugged_eq_ok h
    exact { Framed.refl environments updates a with slug := absurd hnamed }
  · cases h
    exact .refl environments updates a

theorem framed_switched {v : Json} (hfield : Payload.field updates "enabled" = .ok v)
    (a : Application) : a.Framed environments updates (Registry.switched v a) := by
  rcases Payload.names_or_null hfield with hnamed | rfl
  · obtain ⟨enabled, heq⟩ := Registry.switched_eq v a
    rw [heq]
    exact { Framed.refl environments updates a with enabled := absurd hnamed }
  · exact .refl environments updates a

section Endpoints

variable {q : String → Bool}

theorem filter_putSet {environment : String} (hq : q environment = false)
    (sets : List (String × EndpointSet)) (set : EndpointSet) :
    (putSet sets environment set).filter (q ·.1) = sets.filter (q ·.1) := by
  induction sets with
  | nil => simp [putSet, hq]
  | cons p rest ih =>
      obtain ⟨k, s⟩ := p
      rw [putSet]
      split
      next hk =>
        have hnot : q k = false := (beq_iff_eq.mp hk) ▸ hq
        simp [hnot]
      · simp only [List.filter_cons, ih]

/-- The endpoints of environments that the payload does not list, or that are not there, stay as they are,
and in their order. -/
theorem filter_updateSets {sets read : List (String × EndpointSet)} {given : List (String × Json)}
    (hq : ∀ p ∈ given, environments.any (·.id == p.1) = true → q p.1 = false)
    (h : updateSets environments sets given = .ok read) :
    read.filter (q ·.1) = sets.filter (q ·.1) := by
  induction given generalizing sets with
  | nil =>
      cases h
      rfl
  | cons p rest ih =>
      obtain ⟨id, v⟩ := p
      rw [List.forall_mem_cons] at hq
      rw [updateSets] at h
      split at h
      next hdefined =>
        have hnot : q id = false := hq.1 hdefined
        split at h
        · rw [ih hq.2 h, List.filter_filter]
          refine List.filter_congr fun p _ => ?_
          by_cases hp : p.1 = id
          · simp [hp, hnot]
          · simp [hp]
        · simp only [bind_eq_ok] at h
          obtain ⟨set, -, h⟩ := h
          rw [ih hq.2 h, filter_putSet hnot]
      · exact ih hq.2 h

end Endpoints

theorem framed_rerouted {r : Registry} {v : Json} (hfield : Payload.field updates "endpoints" = .ok v)
    (h : r.rerouted v a = .ok b) : a.Framed r.environments updates b := by
  obtain ⟨sets, rfl, hsets⟩ := Registry.rerouted_eq_ok h
  have hendpoints : sets.filter (!Payload.reroutes r.environments updates ·.1) =
      a.endpoints.filter (!Payload.reroutes r.environments updates ·.1) := by
    rcases hsets with rfl | ⟨fields, rfl, hread⟩
    · rfl
    · refine filter_updateSets (q := fun k => !Payload.reroutes r.environments updates k) ?_ hread
      intro p hp hdefined
      have hlisted : Payload.lists updates p.1 = true := by
        have hkey : p.1 ∈ Fields.keys fields := Fields.mem_keys_of_mem hp
        simpa [Payload.lists, hfield, Fields.has, Option.isSome_iff_ne_none,
          Fields.get?_eq_none_iff] using hkey
      simp only [Payload.reroutes, hlisted, hdefined, Bool.and_self, Bool.not_true]
  exact { Framed.refl r.environments updates a with endpoints := hendpoints }

/-- The steps of an update of an application stay within its frame together. -/
theorem framed_steps {r : Registry} {id : String} {c : Application}
    {name slug enabled endpoints : Json} (hname : Payload.field updates "name" = .ok name)
    (hslug : Payload.field updates "slug" = .ok slug)
    (henabled : Payload.field updates "enabled" = .ok enabled)
    (hendpoints : Payload.field updates "endpoints" = .ok endpoints)
    (hb : r.reslugged id slug (Registry.renamed name a) = .ok b)
    (hc : r.rerouted endpoints (Registry.switched enabled b) = .ok c) :
    a.Framed r.environments updates c := by
  have toName : a.Framed r.environments updates (Registry.renamed name a) := framed_renamed hname a
  have toSlug : (Registry.renamed name a).Framed r.environments updates b := framed_reslugged hslug hb
  have toFlag : b.Framed r.environments updates (Registry.switched enabled b) :=
    framed_switched henabled b
  exact ((toName.trans toSlug).trans toFlag).trans (framed_rerouted hendpoints hc)

theorem reroutes_stored (environments : List Environment) (updates : Json) (environment : String) :
    Payload.reroutes (environments.map Environment.stored) updates environment =
      Payload.reroutes environments updates environment := by
  simp [Payload.reroutes, List.any_map, Function.comp_def, Environment.stored]

theorem Framed.stored (hframed : a.Framed environments updates b) :
    a.stored.Framed (environments.map Environment.stored) updates b.stored := by
  have hfilter : ∀ c : Application,
      c.stored.endpoints.filter (!Payload.reroutes environments updates ·.1) =
        (c.endpoints.filter (!Payload.reroutes environments updates ·.1)).map
          fun entry => (entry.1, entry.2.stored) :=
    fun c => List.filter_map
  refine { hframed with extra := congrArg kept hframed.extra, endpoints := ?_ }
  simp only [reroutes_stored]
  rw [hfilter, hfilter, hframed.endpoints]

end Application

end EdgeProxy
