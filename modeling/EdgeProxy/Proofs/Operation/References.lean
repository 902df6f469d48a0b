import EdgeProxy.Proofs.Operation.Admitted
import EdgeProxy.Proofs.Operation.Coverage
import EdgeProxy.Proofs.Registry.References
/-!
No reference in the stored registry dangles.  An operation adds endpoints only for environments that are
there, and drops an environment only while nothing refers to it; so whatever operations are run, an
environment can be deleted exactly while no application gives endpoints for it.
-/

namespace EdgeProxy

/-- An application refers to what it referred to before, or to environments that are there. -/
theorem Application.From.mem_references {r : Registry} {a : Application} (hfrom : From r a)
    (hkept : ∀ a ∈ r.applications, ∀ id ∈ a.references, id ∈ r.environments.map (·.id)) :
    ∀ id ∈ a.references, id ∈ r.environments.map (·.id) := by
  intro id hid
  cases hfrom with
  | kept hmem => exact hkept a hmem id hid
  | made _ hsets =>
      have hread := mem_keys_requestedSets (Registry.requestedSets_of_newEndpoints hsets) hid
      exact hread.resolve_left (by simp)
  | @updated before middle _ hmem _ name slug enabled endpoints hslug hroutes =>
      have hsame : (Registry.switched enabled middle).endpoints = before.endpoints := by
        rw [(Registry.parts_switched enabled middle).2, (Registry.parts_reslugged hslug).2,
          (Registry.parts_renamed name before).2]
      rcases (Registry.parts_rerouted hroutes).2 with heq | ⟨fields, hsets⟩
      · rw [references, heq, hsame] at hid
        exact hkept before hmem id hid
      · rw [hsame] at hsets
        exact (mem_keys_updateSets hsets hid).elim (hkept before hmem id) fun hknown => hknown

namespace Registry

theorem ReferencesHold.changes {settings : Settings} {r r' : Registry}
    (hchanges : r.Changes settings r') (h : r.ReferencesHold) : r'.ReferencesHold := by
  cases hchanges with
  | baseDomain | hosts => exact ⟨h.environments, h.sets⟩
  | environments _ hdropped =>
      refine ⟨fun a ha id hid => ?_, h.sets⟩
      obtain ⟨e, he, rfl⟩ := List.mem_map.mp (h.environments a ha id hid)
      exact (hdropped e he).resolve_right fun hnone => applicationsUsing_eq_nil_iff.mp hnone a ha hid
  | applications hfrom =>
      refine ⟨fun a ha => (hfrom a ha).mem_references h.environments, fun a ha => ?_⟩
      exact (hfrom a ha).forall_sets (fun _ _ _ _ _ => Application.inOrder_requestedSet) h.sets
  | provider _ hswitch =>
      rw [(switchProvider_eq_ok hswitch).2]
      exact ⟨h.environments, h.sets⟩

theorem stable_referencesHold (settings : Settings) : Stable settings ReferencesHold where
  changes := by
    intro r r' hchanges h
    rw [refreshPatterns_eq]
    exact ⟨(h.changes hchanges).environments, (h.changes hchanges).sets⟩
  stored := by
    intro r h
    constructor
    all_goals simp only [Store.advance, stored, List.forall_mem_map, List.map_map]
    · intro a ha id hid
      rw [Application.references_stored] at hid
      exact h.environments a ha id hid
    · intro a ha
      simp only [Application.stored, List.forall_mem_map]
      exact fun p hp => (h.sets a ha p hp).stored

theorem environment?_of_mem {r : Registry} {e : Environment} (he : e ∈ r.environments) :
    ∃ found, r.environment? e.id = some found :=
  Option.isSome_iff_exists.mp (List.find?_isSome.mpr ⟨e, he, beq_self_eq_true _⟩)

/-- The registry without the first environment that has an identifier. -/
def withoutEnvironment (r : Registry) (id : String) : Registry :=
  { r with environments := r.environments.eraseP (·.id == id) }

theorem deleteEnvironment_of_unused {r : Registry} {e : Environment} (he : e ∈ r.environments)
    (hunused : ∀ a ∈ r.applications, e.id ∉ a.references) :
    ∃ deleted, r.deleteEnvironment e.id = .ok (r.withoutEnvironment e.id, deleted) := by
  obtain ⟨found, hfound⟩ := environment?_of_mem he
  refine ⟨found, ?_⟩
  rw [deleteEnvironment, hfound, applicationsUsing_eq_nil_iff.mpr hunused]
  rfl

theorem deleteEnvironment_of_used {r : Registry} {e : Environment} (he : e ∈ r.environments)
    (hused : ∃ a ∈ r.applications, e.id ∈ a.references) :
    r.deleteEnvironment e.id =
      reject (.environmentInUse (r.applications.countP (e.id ∈ ·.references))) := by
  obtain ⟨found, hfound⟩ := environment?_of_mem he
  obtain ⟨a, ha, hid⟩ := hused
  rw [deleteEnvironment, hfound, ← length_applicationsUsing]
  cases husers : r.applicationsUsing e.id with
  | nil => exact absurd hid (applicationsUsing_eq_nil_iff.mp husers a ha)
  | cons user rest => rfl

/-- What is stored after the deletion of an environment has all other identifiers. -/
theorem ids_withoutEnvironment (r : Registry) (id : String) :
    (Store.advance (r.withoutEnvironment id).refreshPatterns).stored.environments.map (·.id) =
      (r.environments.map (·.id)).erase id := by
  rw [refreshPatterns_eq, List.erase_eq_eraseP', List.eraseP_map]
  simp only [Store.advance, stored, withoutEnvironment, List.map_map]
  rfl

end Registry

namespace World

/-- How the deletion of a stored environment ends: with success exactly if no application refers to it,
and then it is gone; otherwise the applications that refer to it are counted, and nothing happens. -/
structure DeletesUnused (settings : Settings) (r : Registry) (e : Environment) (w : World) : Prop where
  succeeds : w.Admits settings r.version → ((Operation.deleteEnvironment e.id).Succeeds settings w ↔
    ∀ a ∈ r.applications, e.id ∉ a.references)
  unused : w.Admits settings r.version → (∀ a ∈ r.applications, e.id ∉ a.references) →
    ∃ answer w' r', (Operation.deleteEnvironment e.id).run settings w = (.ok answer, w') ∧
      answer.isSuccess = true ∧ w'.Ready settings r' ∧
      r'.environments.map (·.id) = (r.environments.map (·.id)).erase e.id
  used : (∃ a ∈ r.applications, e.id ∈ a.references) →
    ∃ answer w', (Operation.deleteEnvironment e.id).run settings w = (.ok answer, w') ∧
      answer.isSuccess = false ∧ Fields.get? answer.fields "references" =
        some (.int (r.applications.countP (e.id ∈ ·.references))) ∧ w.Untouched w'

section Deletion

variable {settings : Settings} {w : World} {r : Registry} {e : Environment}
  (hready : w.Ready settings r) (he : e ∈ r.environments)

include hready he

theorem Ready.delete_unused (hvalid : r.Valid) (hadmits : w.Admits settings r.version)
    (hunused : ∀ a ∈ r.applications, e.id ∉ a.references) :
    ∃ answer w' r', (Operation.deleteEnvironment e.id).run settings w = (.ok answer, w') ∧
      answer.isSuccess = true ∧ w'.Ready settings r' ∧
      r'.environments.map (·.id) = (r.environments.map (·.id)).erase e.id := by
  have hedits := @Operation.Edits.deleteEnvironment settings w.supply e.id
  obtain ⟨deleted, hdelete⟩ := Registry.deleteEnvironment_of_unused he hunused
  have hleft : (r.withoutEnvironment e.id).Valid := hvalid.of_sublist List.eraseP_sublist
  obtain ⟨answer, w', hrun, hsuccess, hready'⟩ :=
    hedits.succeeds hready hadmits (by rw [Edit.ofChange, hdelete]; rfl) hleft
  exact ⟨answer, w', _, hrun, hsuccess, hready', r.ids_withoutEnvironment e.id⟩

theorem Ready.delete_used (hused : ∃ a ∈ r.applications, e.id ∈ a.references) :
    ∃ answer w', (Operation.deleteEnvironment e.id).run settings w = (.ok answer, w') ∧
      answer.isSuccess = false ∧ Fields.get? answer.fields "references" =
        some (.int (r.applications.countP (e.id ∈ ·.references))) ∧ w.Untouched w' := by
  have hedits := @Operation.Edits.deleteEnvironment settings w.supply e.id
  have hdelete := Registry.deleteEnvironment_of_used he hused
  obtain ⟨w', hrun, huntouched⟩ : ∃ w', (Operation.deleteEnvironment e.id).run settings w =
      (.ok (.refused (.rejected
        (.environmentInUse (r.applications.countP (e.id ∈ ·.references))))), w') ∧ w.Untouched w' :=
    hedits.refused hready (by rw [changed, Edit.ofChange, hdelete]; rfl)
  exact ⟨_, w', hrun, rfl, rfl, huntouched⟩

theorem Ready.deletesUnused (hvalid : r.Valid) : w.DeletesUnused settings r e := by
  refine ⟨fun hadmits => ⟨?_, fun hunused => ?_⟩, hready.delete_unused he hvalid,
    hready.delete_used he⟩
  · rintro ⟨answer, w', hrun, hsuccess⟩ a ha hid
    obtain ⟨refusal, w'', hrefused, hfailure, -⟩ := hready.delete_used he ⟨a, ha, hid⟩
    rw [hrun] at hrefused
    cases hrefused
    rw [hsuccess] at hfailure
    cases hfailure
  · obtain ⟨answer, w', -, hrun, hsuccess, -⟩ := hready.delete_unused he hvalid hadmits hunused
    exact ⟨answer, w', hrun, hsuccess⟩

end Deletion

/-- Wherever operations lead, under any settings, no reference in what is stored dangles, and a stored
environment can be deleted exactly if no application gives endpoints for it. -/
theorem references_hold_and_guard_deletion {path : Path} {w : World} (hreach : Reachable path w) :
    ∃ r : Registry, (∀ supply, Store.load supply w.files path = (.ok r, supply)) ∧
      r.ReferencesHold ∧
      ∀ (settings : Settings) (s : Surroundings), settings.registryPath = path →
        ∀ e ∈ r.environments, (w.within s).DeletesUnused settings r e := by
  obtain ⟨r, hload, hready, hvalid, hrefs⟩ :=
    hreach.ready Registry.stable_referencesHold Registry.referencesHold_initial
  refine ⟨r, hload, hrefs, ?_⟩
  intro settings s hpath e he
  have hwithin := (hready settings hpath).of_content_eq (content?_within s w _)
  exact hwithin.deletesUnused he hvalid

theorem reachable_start (steps : List (Surroundings × Operation)) :
    Reachable Clash.shelf (Clash.start.history Clash.settings steps) := by
  have hstart : Reachable Clash.settings.registryPath Clash.start := .start rfl
  exact hstart.history steps

/-- Of the environments at the clash, the one that is not used can be deleted, and one that is used
cannot. -/
theorem references_hold_and_guard_deletion_at_clash :
    Reachable Clash.shelf (Clash.start.history Clash.settings Clash.steps) ∧
      ∃ r : Registry, r.ReferencesHold ∧
        (Operation.deleteEnvironment "prod").Succeeds Clash.settings
          ((Clash.start.history Clash.settings Clash.steps).within offline) ∧
        ∃ answer w', (Operation.deleteEnvironment "dev").run Clash.settings
            ((Clash.start.history Clash.settings Clash.steps).within offline) = (.ok answer, w') ∧
          answer.isSuccess = false ∧ Fields.get? answer.fields "references" = some (.int 1) := by
  have hreach := reachable_start Clash.steps
  obtain ⟨r, hload, hrefs, hdeletes⟩ := references_hold_and_guard_deletion hreach
  obtain rfl := Clash.shelved_history.ready.unique hload
  have hadmits := Clash.shelved_history.admits (by decide)
  have hprod := hdeletes Clash.settings offline rfl
    ⟨"prod", "Production", "", "api", true, []⟩ (by decide)
  have hdev := hdeletes Clash.settings offline rfl
    ⟨"dev", "Development", "dev", "api.dev", false, []⟩ (by decide)
  obtain ⟨answer, w', hrun, hfailure, hcount, -⟩ := hdev.used
    ⟨Clash.application, List.mem_singleton_self _, by decide⟩
  exact ⟨hreach, _, hrefs, (hprod.succeeds hadmits).mpr (by decide), answer, w', hrun, hfailure,
    hcount⟩

end World

end EdgeProxy
