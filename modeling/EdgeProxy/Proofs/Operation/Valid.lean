import EdgeProxy.Proofs.Operation.Change
import EdgeProxy.Proofs.Operation.History
import EdgeProxy.Proofs.Registry.Validity
import Mathlib.Data.List.Flatten
/-!
The stored registry stays valid.  Whatever operations are run, with whatever payloads and in whatever
surroundings, the file is read, and what is read has no violation.  A change is checked on the
registry in memory; that the check still holds of what is read back rests on the round trip through
the file, and on validity being a matter of the outline alone.
-/

namespace EdgeProxy

namespace Registry

theorem Valid.of_stored {r : Registry} (h : r.Valid) : r.stored.Valid :=
  h.of_outline_eq r.outline_stored

theorem valid_initial : initial.Valid where
  environments := by decide
  defaults := by decide
  slugs := List.nodup_nil
  hosts := by simp [initial]
  names := by simp [claims, initial, systemDomains, allTargets]

/-- Every enabled target is a target. -/
theorem targets_sublist (r : Registry) : r.targets.Sublist r.allTargets := by
  rw [targets, allTargets]
  apply List.Sublist.append
  · split
    · exact List.Sublist.refl _
    · exact List.Sublist.flatMap List.filter_sublist _
  · apply List.Sublist.map
    apply List.monotone_filter_right
    intro h hnamed
    simp only [Bool.and_eq_true] at hnamed
    exact hnamed.2

/-- The names of the system routes and of everything that can be named, enabled or not. -/
def names (r : Registry) : List String :=
  (systemDomains r.baseDomain).map Prod.snd ++ r.allTargets.map Target.domain

theorem lower_names (r : Registry) : r.names.map Text.lower = r.claims.map Prod.fst := by
  simp [names, claims, Function.comp_def]

/-- The compiled routes are named by names of the registry. -/
theorem domains_routes_sublist (r : Registry) (settings : Settings) :
    ((r.compile settings).routes.map Route.domain).Sublist r.names := by
  have hsystem : (Route.systemRoutes settings r.baseDomain).map Route.domain =
      (systemDomains r.baseDomain).map Prod.snd := by
    rw [Route.systemRoutes, List.map_map]
    rfl
  have htargets : (r.targets.map (Route.ofTarget settings r.baseDomain)).map Route.domain =
      r.targets.map Target.domain := by
    rw [List.map_map]
    rfl
  have hroutes : (r.compile settings).routes.map Route.domain =
      (systemDomains r.baseDomain).map Prod.snd ++ r.targets.map Target.domain := by
    rw [← hsystem, ← htargets, ← List.map_append]
    rfl
  rw [hroutes, names]
  exact List.Sublist.append (List.Sublist.refl _) (r.targets_sublist.map _)

/-- What holds of a stored registry.  No two names are equal ignoring case, those of entities that are
switched off and of the system routes included, and these are the names of the compiled routes. -/
structure InOrder (settings : Settings) (r : Registry) : Prop where
  violations : r.violations = []
  names : (r.names.map Text.lower).Nodup
  routes : ((r.compile settings).routes.map Route.domain).Sublist r.names
  environments : (r.environments.map (·.id)).Nodup
  slugs : (r.applications.map (·.slug)).Nodup
  defaults : (r.environments.filter (·.isDefault)).length ≤ 1
  hosts : ∀ h ∈ r.hosts, isGiven h.subdomain ≠ isGiven h.customDomain

theorem Valid.inOrder {r : Registry} (h : r.Valid) (settings : Settings) : r.InOrder settings where
  violations := (violations_eq_nil_iff r).mpr h
  names := r.lower_names ▸ h.names
  routes := r.domains_routes_sublist settings
  environments := h.environments
  slugs := h.slugs
  defaults := h.defaults
  hosts := h.hosts

end Registry

namespace World

/-- Whatever supply there is, the file is read as a valid registry. -/
def StoredValid (settings : Settings) (w : World) : Prop :=
  ∀ supply, ∃ r left,
    Store.load supply w.files settings.registryPath = (.ok r, left) ∧ r.Valid

variable {settings : Settings} {w w' : World}

theorem StoredValid.of_content_eq (h : w.StoredValid settings)
    (heq : w'.files.content? settings.registryPath = w.files.content? settings.registryPath) :
    w'.StoredValid settings := by
  intro supply
  obtain ⟨r, left, hload, hvalid⟩ := h supply
  refine ⟨r, left, ?_, hvalid⟩
  rw [Store.load_congr heq, hload]

theorem storedValid_of_none (h : w.files.content? settings.registryPath = none) :
    w.StoredValid settings := by
  intro supply
  refine ⟨.initial, supply, ?_, Registry.valid_initial⟩
  simp only [Store.load, Store.document, h]

theorem storedValid_of_load {supply left : Supply} {r : Registry}
    (hload : Store.load supply w.files settings.registryPath = (.ok r, left)) (hvalid : r.Valid) :
    w.StoredValid settings := by
  intro supply'
  obtain ⟨r', left', hload', -, houtline⟩ := Store.load_of_load hload supply'
  exact ⟨r', left', hload', hvalid.of_outline_eq houtline⟩

theorem storedValid_of_stores {r : Registry} (hwell : r.WellFormed) (hvalid : r.Valid)
    (h : w.Stores settings r) : w.StoredValid settings := by
  intro supply
  exact ⟨r.stored, supply, Store.load_of_written supply hwell h.writable h.bytes, hvalid.of_stored⟩

/-- What an edit of an operation writes is valid. -/
theorem storedValid_of_saved {edit : Edit} (hsound : edit.Sound)
    (h : w.Saved settings edit w') : w'.StoredValid settings := by
  obtain ⟨loaded, left, r, subject, hload, hchanged, hstores⟩ := h
  have hloaded : loaded.WellFormed := Store.wellFormed_of_load hload
  obtain ⟨hkeeps, hviolations⟩ := changed_ok hsound hloaded hchanged
  have hvalid : r.Valid := (Registry.violations_eq_nil_iff r).mp hviolations
  apply storedValid_of_stores (Store.advance_wellFormed hkeeps.wellFormed) _ hstores
  exact hvalid.of_outline_eq rfl

/-- An operation preserves the validity of what is stored. -/
theorem StoredValid.run (op : Operation) (h : w.StoredValid settings) :
    (op.run settings w).2.StoredValid settings := by
  rcases op.runs settings w with hkept | ⟨edit, read, hedits, hread, hsaved⟩
  · exact h.of_content_eq (hkept.files _)
  · exact storedValid_of_saved hedits.sound hsaved

theorem StoredValid.history (h : w.StoredValid settings)
    (steps : List (Surroundings × Operation)) :
    (w.history settings steps).StoredValid settings := by
  apply history_invariant _ _ steps h
  · intro s w hw
    exact hw.of_content_eq (content?_within s w _)
  · intro op w hw
    exact hw.run op

/-- After any history of operations, the file is read and what is read is in order. -/
theorem stored_registry_is_in_order
    (hstart : w.files.content? settings.registryPath = none ∨ ∃ supply r left,
      Store.load supply w.files settings.registryPath = (.ok r, left) ∧ r.violations = [])
    (steps : List (Surroundings × Operation)) (supply : Supply) :
    ∃ r left, Store.load supply (w.history settings steps).files settings.registryPath =
      (.ok r, left) ∧ r.InOrder settings := by
  have hvalid : w.StoredValid settings := by
    rcases hstart with hnone | ⟨supply, r, left, hload, hviolations⟩
    · exact storedValid_of_none hnone
    · exact storedValid_of_load hload ((Registry.violations_eq_nil_iff r).mp hviolations)
  obtain ⟨r, left, hload, hr⟩ := hvalid.history steps supply
  exact ⟨r, left, hload, hr.inOrder settings⟩

/-- Nothing is stored, and the supply counts. -/
def empty : World :=
  ⟨.empty, ⟨.fresh, fun _ => .found [], .safe, []⟩, fun _ => .refused, [],
    ⟨fun n => "entity-" ++ Text.decimal n, 0, ⟨0⟩⟩⟩

/-- The proxy cannot be reached. -/
def offline : Surroundings :=
  ⟨⟨{ Proxy.fresh with onPush := .straight (.unreachable "refused") }, fun _ => .found [], .safe, []⟩,
    fun _ => .refused, ⟨0⟩, fun _ => none⟩

/-- From nothing, the base domain is set, and then a host without a target is asked for, while the proxy
cannot be reached. -/
theorem stored_registry_is_in_order_offline :
    empty.files.content? Settings.standard.registryPath = none ∧
      ∃ r left, Store.load empty.supply (empty.history .standard
          [(offline, .setBaseDomain (.str "example.org")), (offline, .addHost (.obj []))]).files
        Settings.standard.registryPath = (.ok r, left) ∧ r.InOrder .standard := by
  have hnone : empty.files.content? Settings.standard.registryPath = none := rfl
  exact ⟨hnone, stored_registry_is_in_order (Or.inl hnone) _ _⟩

end World

end EdgeProxy
