import EdgeProxy.Proofs.Operation.BaseDomain
import EdgeProxy.Proofs.Operation.Coverage
import EdgeProxy.Proofs.Operation.Faults
import EdgeProxy.Proofs.Operation.Plain
import EdgeProxy.Proofs.Registry.Targets
import EdgeProxy.Proofs.Request.Targets
import EdgeProxy.Proofs.Route.Reading
/-!
Addresses that compiled routes dial.  Whatever operations are run, every target host that is stored is trimmed
and every target port is one; and as long as no request gives a blank text as a target host, none is empty.
A blank text passes, because it is only found to be empty before it is trimmed.
-/

namespace EdgeProxy

/-- No object in the payload gives a blank text as its target host. -/
def Operation.Aimed (op : Operation) : Prop :=
  ∀ data, op.payload? = some data → data.Everywhere fun fields =>
    ∀ s, fields.get? "targetHost" = some (.str s) → ¬ Text.IsBlankText s

/-- What an object gives as its target host is not empty once it is trimmed, unless it is a blank text. -/
theorem Fields.aims_of_clear {fields : Fields}
    (h : ∀ s, fields.get? "targetHost" = some (.str s) → ¬ Text.IsBlankText s) :
    fields.Aims (· ≠ "") := by
  intro hset
  refine Json.trim_plainText_ne_empty hset fun s hs => h s ?_
  rw [valueOf] at hs
  cases hget : Fields.get? fields "targetHost" with
  | none => simp [hget] at hs
  | some v => simpa [hget] using hs

theorem EndpointSet.Targets.stored {P : String → Prop} {s : EndpointSet} (h : s.Targets P) :
    s.stored.Targets P where
  frontend := by
    intro e' he'
    obtain ⟨e, he, rfl⟩ := Option.map_eq_some_iff.mp he'
    exact h.frontend e he
  apis := List.forall_mem_map.mpr h.apis

namespace Registry

/-- The target hosts of a registry have a property. -/
structure Targets (P : String → Prop) (r : Registry) : Prop where
  hosts : ∀ h ∈ r.hosts, P h.targetHost
  sets : ∀ a ∈ r.applications, ∀ p ∈ a.endpoints, p.2.Targets P

variable {P : String → Prop} {settings : Settings} {op : Operation} {r r' : Registry}

theorem targets_initial (P : String → Prop) : initial.Targets P where
  hosts := by simp [initial]
  sets := by simp [initial]

theorem Targets.updateHost (h : r.Targets P) {id : String} {updates : Json} {a b : Host}
    (hupdates : updates.Everywhere (Fields.Aims P)) (hfound : r.host? id = some a)
    (hupdate : a.update updates = .ok b) :
    ({ r with hosts := replaceFirst (·.id == id) b r.hosts } : Registry).Targets P :=
  { h with
    hosts := forall_replaceFirst h.hosts
      (Host.aims_update hupdates (h.hosts a (List.mem_of_find?_eq_some hfound)) hupdate) }

/-- The payload that switches something gives no target host. -/
theorem aims_switch (P : String → Prop) (enabled : Json) :
    (World.switch enabled).Everywhere (Fields.Aims P) := by
  intro fields hin
  cases hin with
  | self => exact fun hset => nomatch hset
  | field hmem hrest =>
      cases List.mem_singleton.mp hmem
      cases hrest

/-- The endpoints of a changed application are those that it had, or that the payload gives. -/
theorem targets_updated {a b c : Application} {id : String} {name slug enabled endpoints : Json}
    (hendpoints : endpoints.Everywhere (Fields.Aims P)) (hkept : ∀ p ∈ a.endpoints, p.2.Targets P)
    (hb : r.reslugged id slug (renamed name a) = .ok b)
    (hc : r.rerouted endpoints (switched enabled b) = .ok c) : ∀ p ∈ c.endpoints, p.2.Targets P := by
  have hsame : (switched enabled b).endpoints = a.endpoints := by
    rw [(parts_switched enabled b).2, (parts_reslugged hb).2, (parts_renamed name a).2]
  obtain ⟨sets, rfl, heq | ⟨fields, rfl, hsets⟩⟩ := rerouted_eq_ok hc
  · dsimp only
    rwa [heq, hsame]
  · rw [hsame] at hsets
    exact Application.forall_updateSets (fun _ _ _ _ => Application.targets_requestedSet)
      (fun p hp => hendpoints.field hp) hkept hsets

/-- What an operation leads to has target hosts that were there, or that its payload gives. -/
theorem Targets.effect (hop : ∀ data, op.payload? = some data → data.Everywhere (Fields.Aims P))
    (heffect : op.Effect settings r r') (h : r.Targets P) : r'.Targets P := by
  cases heffect with
  | setBaseDomain => exact { h with }
  | addHost hdraft =>
      have hnew := Host.aims_draft (hop _ rfl) hdraft
      exact { h with hosts := forall_append_singleton h.hosts hnew }
  | updateHost hfound hupdate => exact h.updateHost (hop _ rfl) hfound hupdate
  | toggleHost hfound hupdate => exact h.updateHost (aims_switch P _) hfound hupdate
  | deleteHost => exact { h with hosts := fun b hb => h.hosts b (List.mem_of_mem_eraseP hb) }
  | addEnvironment => exact { h with }
  | updateEnvironment => exact { h with }
  | @markEnvironment id updates v e e' =>
      cases v.truthy with
      | false => exact { h with }
      | true => exact { h with }
  | deleteEnvironment => exact { h with }
  | addApplication hdraft hsets =>
      obtain ⟨_, -, -, -, hfield⟩ := Application.draft_eq_ok hdraft
      obtain ⟨fields, rfl, hendpoints⟩ := Payload.field_eq_ok hfield
      have hgiven := (hop _ rfl).valueOf "endpoints"
      rw [← hendpoints] at hgiven
      have hnew := Application.forall_requestedSets (fun _ _ _ _ => Application.targets_requestedSet)
        (fun p hp => hgiven.field hp) (by simp) (requestedSets_of_newEndpoints hsets)
      exact { h with sets := forall_append_singleton h.sets hnew }
  | updateApplication hfound _ _ _ hendpoints hb hc =>
      obtain ⟨fields, rfl, rfl⟩ := Payload.field_eq_ok hendpoints
      have hkept := h.sets _ (List.mem_of_find?_eq_some hfound)
      have hnew := targets_updated ((hop _ rfl).valueOf "endpoints") hkept hb hc
      exact { h with sets := forall_replaceFirst h.sets hnew }
  | toggleApplication hfound =>
      have hkept := h.sets _ (List.mem_of_find?_eq_some hfound)
      exact { h with sets := forall_replaceFirst h.sets hkept }
  | deleteApplication => exact { h with sets := fun b hb => h.sets b (List.mem_of_mem_eraseP hb) }
  | switchProvider => exact { h with }

/-- An operation whose payload gives only target hosts with a property keeps it for all that are stored. -/
theorem preserves_targets (settings : Settings)
    (hop : ∀ data, op.payload? = some data → data.Everywhere (Fields.Aims P)) :
    op.Preserves settings (Targets P) where
  effect := by
    intro r r' heffect h
    rw [refreshPatterns_eq]
    exact { h.effect hop heffect with }
  stored := by
    intro r h
    refine ⟨List.forall_mem_map.mpr h.hosts, List.forall_mem_map.mpr fun a ha => ?_⟩
    exact List.forall_mem_map.mpr fun p hp => (h.sets a ha p hp).stored

/-- A backend of a host or of an endpoint. -/
inductive HasBackend (r : Registry) : Backend → Prop where
  | host {h : Host} (hmem : h ∈ r.hosts) : HasBackend r h.toBackend
  | frontend {a : Application} {id : String} {set : EndpointSet} {e : Endpoint} (happ : a ∈ r.applications)
      (hset : (id, set) ∈ a.endpoints) (he : set.frontend = some e) : HasBackend r e.toBackend
  | api {a : Application} {id : String} {set : EndpointSet} {api : Api} (happ : a ∈ r.applications)
      (hset : (id, set) ∈ a.endpoints) (hapi : api ∈ set.apis) : HasBackend r api.toBackend

theorem Targets.backend (h : r.Targets P) {b : Backend} (hb : r.HasBackend b) : P b.targetHost := by
  cases hb with
  | host hmem => exact h.hosts _ hmem
  | frontend happ hset he => exact (h.sets _ happ _ hset).frontend _ he
  | api happ hset hapi => exact (h.sets _ happ _ hset).apis _ hapi

theorem Plain.trimmed_backend (h : r.Plain) {b : Backend} (hb : r.HasBackend b) :
    Text.Trimmed b.targetHost := by
  cases hb with
  | host hmem => exact h.hosts _ hmem
  | frontend happ hset he => exact ((h.sets _ happ _ hset).frontend _ he).1
  | api happ hset hapi => exact ((h.sets _ happ _ hset).apis _ hapi).1

theorem hasBackend_of_target {t : Target} (ht : t ∈ r.targets) : r.HasBackend t.backend := by
  rcases mem_targets.mp ht with ⟨-, app, happ, -, e, kind, backend, hmem, rfl⟩ | ⟨h, hh, -, -, rfl⟩
  · obtain ⟨-, set, hset, hendpoint⟩ := Application.mem_endpointsIn.mp hmem
    obtain ⟨before, after, heq, -⟩ := List.lookup_eq_some_iff.mp hset
    have hin : (e.id, set) ∈ app.endpoints := by simp [heq]
    rcases EndpointSet.mem_endpoints.mp hendpoint with ⟨f, hf, -, rfl⟩ | ⟨a, ha, -, rfl⟩
    · exact .frontend happ hin hf
    · exact .api happ hin ha
  · exact .host hh

/-- A compiled route that is not the system's passes requests on to the address of a backend. -/
theorem dials_backend {route : Route} (hroute : route ∈ (r.compile settings).routes)
    (hsystem : route.system = false) :
    ∃ b a, r.HasBackend b ∧ route.Carries a ∧
      a.upstream = b.targetHost ++ ":" ++ Text.decimal b.targetPort.number := by
  have hroutes : route ∈ Route.systemRoutes settings r.baseDomain ++
      r.targets.map (Route.ofTarget settings r.baseDomain) := hroute
  rcases List.mem_append.mp hroutes with hmem | hmem
  · obtain ⟨⟨rule, domain⟩, -, rfl⟩ := List.mem_map.mp hmem
    cases hsystem
  · obtain ⟨t, ht, rfl⟩ := List.mem_map.mp hmem
    exact ⟨t.backend, _, hasBackend_of_target ht, Route.carries_make _ _ _ _ _ _ _ _ _, rfl⟩

end Registry

namespace World

/-- Wherever operations lead, every target host that is stored is trimmed and every target port is in range, and
compiled routes other than the system's dial them; no target host is empty if no payload gave a blank one. -/
theorem upstreams_are_dialable_without_blank_targets {path : Path} {w : World} (hreach : Reachable path w) :
    ∃ r : Registry, (∀ supply, Store.load supply w.files path = (.ok r, supply)) ∧
      (∀ b, r.HasBackend b →
        Text.Trimmed b.targetHost ∧ 1 ≤ b.targetPort.number ∧ b.targetPort.number ≤ 65535) ∧
      (ReachableBy Operation.Aimed path w → ∀ b, r.HasBackend b → b.targetHost ≠ "") ∧
      ∀ settings, ∀ route ∈ (r.compile settings).routes, route.system = false →
        ∃ b a, r.HasBackend b ∧ route.Carries a ∧
          a.upstream = b.targetHost ++ ":" ++ Text.decimal b.targetPort.number := by
  obtain ⟨r, hload, hplain⟩ := hreach.holds Registry.stable_plain Registry.plain_initial
  refine ⟨r, hload, fun b hb => ?_, fun haimed b hb => ?_, fun settings route => Registry.dials_backend⟩
  · exact ⟨hplain.trimmed_backend hb, b.targetPort.positive, b.targetPort.bounded⟩
  · let there : Settings := { Settings.standard with registryPath := path }
    have htargets : w.Holds there (Registry.Targets (· ≠ "")) := by
      refine haimed.holds (fun settings op hop => ?_) (Registry.targets_initial _) rfl
      refine Registry.preserves_targets settings fun data hdata fields hin => ?_
      exact Fields.aims_of_clear (hop data hdata fields hin)
    obtain ⟨r', hready, hr'⟩ := htargets
    have hsame := (hload w.supply).symm.trans (hready.load w.supply)
    cases hsame
    exact hr'.backend hb

/-- The payload of a host gives no blank target host. -/
theorem aimed_first : (Operation.addHost Twins.payload).Aimed := by
  intro data hdata fields hin s hs hblank
  cases hdata
  cases hin with
  | self =>
      cases hs
      exact absurd (hblank.2 '1' (by decide)) (by decide)
  | field hmem hrest =>
      simp only [List.mem_cons, Prod.mk.injEq, List.not_mem_nil, or_false] at hmem
      rcases hmem with ⟨-, rfl⟩ | ⟨-, rfl⟩ | ⟨-, rfl⟩ <;> cases hrest

/-- After one host is added. -/
theorem upstreams_are_dialable_without_blank_targets_first_host :
    Reachable Clash.shelf (Clash.start.history Clash.settings Twins.first) ∧
      ReachableBy Operation.Aimed Clash.shelf (Clash.start.history Clash.settings Twins.first) ∧
      ∃ r : Registry, (∀ supply, Store.load supply
          (Clash.start.history Clash.settings Twins.first).files Clash.shelf = (.ok r, supply)) ∧
        ∀ b, r.HasBackend b → b.targetHost ≠ "" := by
  have hempty : Reachable Clash.settings.registryPath Clash.start := .start rfl
  have hreach : Reachable Clash.shelf (Clash.start.history Clash.settings Twins.first) :=
    hempty.history Twins.first
  have haimed : ReachableBy Operation.Aimed Clash.shelf
      (Clash.start.history Clash.settings Twins.first) := by
    have hstart : ReachableBy Operation.Aimed Clash.shelf Clash.start := .start rfl
    rw [Twins.first, history_cons, history_nil]
    exact hstart.step rfl offline aimed_first
  obtain ⟨r, hload, -, hgiven, -⟩ := upstreams_are_dialable_without_blank_targets hreach
  exact ⟨hreach, haimed, r, hload, hgiven haimed⟩

/-- A frontend with a blank target host. -/
def blankEndpoints : Fields :=
  [("prod", .obj [("frontend", .obj [("targetHost", .str "  "), ("targetPort", .int 8090)])])]

/-- The payload of an application with that frontend. -/
def blankPayload : Json :=
  .obj [("name", .str "Shop"), ("slug", .str "shop"), ("endpoints", .obj blankEndpoints)]

/-- The base domain is set, and an application is added whose frontend has a blank target host. -/
def blankTarget : List (Surroundings × Operation) :=
  [(offline, .setBaseDomain (.str "example.org")), (offline, .addApplication blankPayload)]

/-- What is stored of the frontend. -/
def aimless : Backend := ⟨"", ⟨8090, by decide, by decide⟩, false, false⟩

/-- The application that is added. -/
def aimlessShop : Application :=
  ⟨(Clash.supply 0).name 0, "Shop", "shop", true, (Clash.supply 0).timestamp,
    [("prod", ⟨some ⟨aimless, []⟩, [], []⟩)], []⟩

theorem shelved_blankTarget :
    Clash.Shelved (Clash.registry 2 [] [aimlessShop]) 1
      (Clash.start.history Clash.settings blankTarget) := by
  have hrequest : Application.draft blankPayload = .ok ⟨.str "Shop", "shop", blankEndpoints⟩ := rfl
  have hedits := @Operation.Edits.addApplication Clash.settings (Clash.supply 0) _ _ hrequest
  have hvalid : (Clash.registry 1 [] [aimlessShop]).Valid :=
    ⟨by decide, by decide, by decide, by simp [Clash.registry], by decide⟩
  rw [blankTarget, history_cons, history_cons, history_nil]
  exact (Clash.shelved_domain Clash.shelved_start).changes (by decide) hedits rfl rfl hvalid

/-- A blank target host is stored as an empty one, and a compiled route dials a port of no host. -/
theorem blank_target_is_dialled :
    Reachable Clash.shelf (Clash.start.history Clash.settings blankTarget) ∧
      ∃ r : Registry, (∀ supply, Store.load supply
          (Clash.start.history Clash.settings blankTarget).files Clash.shelf = (.ok r, supply)) ∧
        ∃ route ∈ (r.compile Clash.settings).routes, route.system = false ∧
          ∃ a, route.Carries a ∧ a.upstream = ":8090" := by
  have hempty : Reachable Clash.settings.registryPath Clash.start := .start rfl
  let production : Environment := ⟨"prod", "Production", "", "api", true, []⟩
  let target := aimlessShop.target "example.org" production .frontend aimless
  have htarget : target ∈ (Clash.registry 2 [] [aimlessShop]).targets := by
    have happ : aimlessShop ∈ (Clash.registry 2 [] [aimlessShop]).applications := by simp [Clash.registry]
    refine Registry.mem_targets.mpr (.inl ⟨by decide, aimlessShop, happ, rfl, _, _, _, ?_, rfl⟩)
    exact Application.mem_endpointsIn.mpr ⟨by decide, _, rfl, by decide⟩
  refine ⟨hempty.history blankTarget, _, shelved_blankTarget.ready.load,
    Route.ofTarget Clash.settings "example.org" target, ?_, rfl, _,
    Route.carries_make _ _ _ _ _ _ _ _ _, ?_⟩
  · exact List.mem_append_right _ (List.mem_map_of_mem htarget)
  · have hport : Text.decimal 8090 = "8090" := by
      rw [Text.decimal, Text.digits_of_ge (by decide), Text.digits_of_ge (by decide),
        Text.digits_of_ge (by decide), Text.digits_of_lt (by decide)]
      rfl
    exact congrArg ("" ++ ":" ++ ·) hport

end World

end EdgeProxy
