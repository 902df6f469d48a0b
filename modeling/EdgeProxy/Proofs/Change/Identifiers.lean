import EdgeProxy.Proofs.Change.Keeping
import Mathlib.Data.List.Perm.Basic
/-!
What changes do to the identifiers of applications and hosts.  An addition adds one, a deletion drops
one, and every other change leaves them as they are.
-/

namespace EdgeProxy

theorem map_replaceFirst {α β : Type} {p : α → Bool} {f : α → β} {b : α} {l : List α}
    (h : ∀ a, l.find? p = some a → f b = f a) : (replaceFirst p b l).map f = l.map f := by
  induction l with
  | nil => rfl
  | cons a rest ih =>
      by_cases ha : p a = true
      · rw [replaceFirst, if_pos ha, List.map_cons, List.map_cons, h a (by simp [ha])]
      · rw [replaceFirst, if_neg ha, List.map_cons, List.map_cons, ih]
        intro c hc
        exact h c (by simpa [ha] using hc)

namespace Registry

def ids (r : Registry) : List String := r.applications.map (·.id) ++ r.hosts.map (·.id)

variable {r r' : Registry}

theorem ids_addApplication (r : Registry) (a : Application) :
    (r.addApplication a).ids.Perm (a.id :: r.ids) := by
  have happlications : (r.addApplication a).ids =
      r.applications.map (·.id) ++ a.id :: r.hosts.map (·.id) := by
    simp [ids, addApplication]
  rw [happlications]
  exact List.perm_middle

theorem ids_addHost (r : Registry) (h : Host) : (r.addHost h).ids.Perm (h.id :: r.ids) := by
  have hhosts : (r.addHost h).ids = r.ids ++ [h.id] := by
    simp [ids, addHost]
  rw [hhosts]
  exact List.perm_append_singleton _ _

theorem ids_updateHost {id : String} {updates : Json} {a : Host}
    (h : r.updateHost id updates = .ok (r', a)) : r'.ids = r.ids := by
  obtain ⟨present, hpresent, hchanged, rfl⟩ := updateHost_eq_ok h
  have hids : (replaceFirst (·.id == id) a r.hosts).map (·.id) = r.hosts.map (·.id) := by
    apply map_replaceFirst
    intro b hb
    rw [← host?, hpresent] at hb
    cases hb
    exact (Host.remains_update hchanged).id
  rw [ids, ids, hids]

theorem ids_deleteHost {id : String} {a : Host} (h : r.deleteHost id = .ok (r', a)) :
    r'.ids.Sublist r.ids := by
  obtain ⟨-, rfl⟩ := deleteHost_eq_ok h
  exact List.Sublist.append (List.Sublist.refl _) (List.eraseP_sublist.map _)

theorem ids_updateApplication {id : String} {updates : Json} {a : Application}
    (h : r.updateApplication id updates = .ok (r', a)) : r'.ids = r.ids := by
  obtain ⟨present, withSlug, name, slug, enabled, endpoints, hpresent, hname, hslug, henabled,
    hendpoints, hreslugged, hrerouted, rfl⟩ := updateApplication_eq_ok h
  have hframed := Application.framed_steps hname hslug henabled hendpoints hreslugged hrerouted
  have hids : (replaceFirst (·.id == id) a r.applications).map (·.id) =
      r.applications.map (·.id) := by
    apply map_replaceFirst
    intro b hb
    rw [← application?, hpresent] at hb
    cases hb
    exact hframed.id
  rw [ids, ids, hids]

theorem ids_deleteApplication {id : String} {a : Application}
    (h : r.deleteApplication id = .ok (r', a)) : r'.ids.Sublist r.ids := by
  obtain ⟨-, rfl⟩ := deleteApplication_eq_ok h
  exact List.Sublist.append (List.eraseP_sublist.map _) (List.Sublist.refl _)

theorem ids_addEnvironment {e : Environment} (h : r.addEnvironment e = .ok r') :
    r'.ids = r.ids := by
  obtain rfl := addEnvironment_eq_ok h
  rfl

theorem ids_updateEnvironment {id : String} {updates : Json} {e : Environment}
    (h : r.updateEnvironment id updates = .ok (r', e)) : r'.ids = r.ids := by
  obtain ⟨before, after, -, -, ⟨-, rfl⟩ | ⟨v, -, rfl⟩⟩ := updateEnvironment_eq_ok h
  · rfl
  · split <;> rfl

theorem ids_deleteEnvironment {id : String} {e : Environment}
    (h : r.deleteEnvironment id = .ok (r', e)) : r'.ids = r.ids := by
  obtain ⟨-, -, rfl⟩ := deleteEnvironment_eq_ok h
  rfl

theorem ids_switchProvider {enabled : Bool} (h : r.switchProvider enabled = .ok r') :
    r'.ids = r.ids := by
  obtain ⟨-, rfl⟩ := switchProvider_eq_ok h
  rfl

theorem ids_refreshPatterns (r : Registry) : r.refreshPatterns.ids = r.ids := by
  rw [refreshPatterns]
  split <;> rfl

theorem ids_stored (r : Registry) : r.stored.ids = r.ids := by
  simp [ids, stored, Function.comp_def, Application.stored, Host.stored]

end Registry

end EdgeProxy
