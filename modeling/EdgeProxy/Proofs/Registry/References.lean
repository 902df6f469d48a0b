import EdgeProxy.Proofs.Change.Keeping
import EdgeProxy.Proofs.Registry.Validity
import Mathlib.Data.List.Flatten
import Mathlib.Data.List.Perm.Subperm
/-!
References between the entities of a registry.  Applications give endpoints for environments, by their
identifiers.  What requests lead to refers to known environments only, has an endpoint in every set, and
tells the APIs of a set apart by their slugs.
-/

namespace EdgeProxy

section EraseDups

theorem eraseDups_sublist : ∀ l : List String, l.eraseDups.Sublist l
  | [] => List.Sublist.refl _
  | a :: rest => by
      rw [List.eraseDups_cons, List.cons_sublist_cons]
      exact (eraseDups_sublist _).trans List.filter_sublist
termination_by l => l.length
decreasing_by exact Nat.lt_succ_of_le (List.length_filter_le _ _)

theorem nodup_eraseDups : ∀ l : List String, l.eraseDups.Nodup
  | [] => List.nodup_nil
  | a :: rest => by
      rw [List.eraseDups_cons, List.nodup_cons]
      exact ⟨by simp, nodup_eraseDups _⟩
termination_by l => l.length
decreasing_by exact Nat.lt_succ_of_le (List.length_filter_le _ _)

/-- Nothing is dropped from a list exactly if nothing is in it twice. -/
theorem length_eraseDups_eq_iff {l : List String} : l.eraseDups.length = l.length ↔ l.Nodup := by
  constructor
  · intro hlength
    exact (eraseDups_sublist l).eq_of_length hlength ▸ nodup_eraseDups l
  · intro hnodup
    have hsubset : l ⊆ l.eraseDups := fun a ha => List.mem_eraseDups.mpr ha
    exact Nat.le_antisymm (eraseDups_sublist l).length_le (hnodup.subperm hsubset).length_le

end EraseDups

theorem Request.distinctSlugs_iff {apis : List Api} :
    distinctSlugs apis = true ↔ (apis.map (·.slug)).Nodup := by
  rw [distinctSlugs, beq_iff_eq]
  exact length_eraseDups_eq_iff

/-- A set of endpoints that can be stored: there is an endpoint, and the slugs of its APIs tell them
apart. -/
structure EndpointSet.InOrder (s : EndpointSet) : Prop where
  inUse : s.inUse = true
  slugs : (s.apis.map (·.slug)).Nodup

theorem EndpointSet.InOrder.stored {s : EndpointSet} (h : s.InOrder) : s.stored.InOrder where
  inUse := by
    have hsame : s.stored.inUse = s.inUse := by
      simp only [EndpointSet.inUse, EndpointSet.stored, Option.isSome_map, List.isEmpty_map]
    rw [hsame]
    exact h.inUse
  slugs := by
    have hsame : s.stored.apis.map (·.slug) = s.apis.map (·.slug) := by
      simp only [EndpointSet.stored, List.map_map, Function.comp_def, Api.stored]
    rw [hsame]
    exact h.slugs

/-- The environments that an application gives endpoints for. -/
def Application.references (a : Application) : List String := a.endpoints.map Prod.fst

namespace Application

theorem isSome_endpointSet?_iff {a : Application} {id : String} :
    (a.endpointSet? id).isSome = true ↔ id ∈ a.references := by
  rw [endpointSet?, references, Option.isSome_iff_ne_none, Ne, List.lookup_eq_none_iff, List.mem_map]
  simp

theorem references_stored (a : Application) : a.stored.references = a.references := by
  simp only [references, Application.stored, List.map_map, Function.comp_def]

theorem mem_keys_putSet {sets : List (String × EndpointSet)} {environment id : String}
    {set : EndpointSet} (h : id ∈ (putSet sets environment set).map Prod.fst) :
    id = environment ∨ id ∈ sets.map Prod.fst := by
  induction sets with
  | nil => exact .inl (by simpa [putSet] using h)
  | cons p rest ih =>
      obtain ⟨k, s⟩ := p
      rw [putSet] at h
      split at h
      · exact .inr h
      · rw [List.map_cons, List.mem_cons] at h ⊢
        rcases h with h | h
        · exact .inr (.inl h)
        · exact (ih h).imp_right .inr

theorem mem_ids_of_any {environments : List Environment} {id : String}
    (h : environments.any (·.id == id) = true) : id ∈ environments.map (·.id) := by
  obtain ⟨e, he, hid⟩ := List.any_eq_true.mp h
  exact List.mem_map.mpr ⟨e, he, by simpa using hid⟩

/-- Endpoints that are put for a known environment add no key but its own. -/
theorem mem_keys_put_known {environments : List Environment} {sets : List (String × EndpointSet)}
    {environment id : String} {set : EndpointSet}
    (hknown : environments.any (·.id == environment) = true)
    (h : id ∈ (putSet sets environment set).map Prod.fst ∨ id ∈ environments.map (·.id)) :
    id ∈ sets.map Prod.fst ∨ id ∈ environments.map (·.id) := by
  rcases h with hput | henvironment
  · rcases mem_keys_putSet hput with rfl | hmem
    · exact .inr (mem_ids_of_any hknown)
    · exact .inl hmem
  · exact .inr henvironment

/-- The endpoints that are asked for are those of known environments. -/
theorem mem_keys_requestedSets {environments : List Environment}
    {sets read : List (String × EndpointSet)} {given : List (String × Json)} {id : String}
    (h : requestedSets environments sets given = .ok read) (hid : id ∈ read.map Prod.fst) :
    id ∈ sets.map Prod.fst ∨ id ∈ environments.map (·.id) := by
  induction given generalizing sets with
  | nil =>
      rw [requestedSets, Except.ok.injEq] at h
      exact .inl (h ▸ hid)
  | cons p rest ih =>
      obtain ⟨key, v⟩ := p
      rw [requestedSets] at h
      split at h
      next hknown =>
        simp only [bind_eq_ok] at h
        obtain ⟨set, -, h⟩ := h
        exact mem_keys_put_known hknown (ih h)
      · exact ih h

theorem mem_keys_updateSets {environments : List Environment}
    {sets read : List (String × EndpointSet)} {given : List (String × Json)} {id : String}
    (h : updateSets environments sets given = .ok read) (hid : id ∈ read.map Prod.fst) :
    id ∈ sets.map Prod.fst ∨ id ∈ environments.map (·.id) := by
  induction given generalizing sets with
  | nil =>
      rw [updateSets, Except.ok.injEq] at h
      exact .inl (h ▸ hid)
  | cons p rest ih =>
      obtain ⟨key, v⟩ := p
      rw [updateSets] at h
      split at h
      next hknown =>
        split at h
        · refine (ih h).imp_left fun hmem => ?_
          exact (List.filter_sublist.map Prod.fst).subset hmem
        · simp only [bind_eq_ok] at h
          obtain ⟨set, -, h⟩ := h
          exact mem_keys_put_known hknown (ih h)
      · exact ih h

/-- A set of endpoints that is asked for is in order, whatever was there before. -/
theorem inOrder_requestedSet {v : Json} {environment : String} {present : Option EndpointSet}
    {set : EndpointSet} (h : requestedSet v environment present = .ok set) : set.InOrder := by
  obtain ⟨hread, hinUse⟩ := requestedSet_eq_ok.mp h
  obtain ⟨-, -, -, -, hdistinct, -⟩ := Request.endpointSet_eq_ok.mp hread
  exact ⟨hinUse, Request.distinctSlugs_iff.mp hdistinct⟩

end Application

namespace Registry

/-- No reference dangles: applications give endpoints only for environments that are there, and every set
of endpoints is in order. -/
structure ReferencesHold (r : Registry) : Prop where
  environments : ∀ a ∈ r.applications, ∀ id ∈ a.references, id ∈ r.environments.map (·.id)
  sets : ∀ a ∈ r.applications, ∀ p ∈ a.endpoints, p.2.InOrder

theorem referencesHold_initial : initial.ReferencesHold where
  environments := by simp [initial]
  sets := by simp [initial]

/-- The applications that use an environment are those that refer to it. -/
theorem mem_applicationsUsing {r : Registry} {id : String} {a : Application} :
    a ∈ r.applicationsUsing id ↔ a ∈ r.applications ∧ id ∈ a.references := by
  rw [applicationsUsing, List.mem_filter, Application.isSome_endpointSet?_iff]

theorem applicationsUsing_eq_nil_iff {r : Registry} {id : String} :
    r.applicationsUsing id = [] ↔ ∀ a ∈ r.applications, id ∉ a.references := by
  simp only [List.eq_nil_iff_forall_not_mem, mem_applicationsUsing, not_and]

theorem length_applicationsUsing (r : Registry) (id : String) :
    (r.applicationsUsing id).length = r.applications.countP (id ∈ ·.references) := by
  rw [applicationsUsing, ← List.countP_eq_length_filter]
  exact List.countP_congr fun a _ => by simp [Application.isSome_endpointSet?_iff]

/-- A registry stays valid when environments are dropped. -/
theorem Valid.of_sublist {r : Registry} (h : r.Valid) {environments : List Environment}
    (hsublist : environments.Sublist r.environments) :
    Valid { r with environments := environments } where
  environments := h.environments.sublist (hsublist.map _)
  defaults := Nat.le_trans (hsublist.filter _).length_le h.defaults
  slugs := h.slugs
  hosts := h.hosts
  names := by
    have htargets : ∀ app ∈ r.applications, (app.targets environments r.baseDomain).Sublist
        (app.targets r.environments r.baseDomain) :=
      fun app _ => (hsublist.flatMap _).map _
    have hall : (allTargets { r with environments := environments }).Sublist r.allTargets := by
      rw [allTargets, allTargets]
      apply List.Sublist.append_right
      dsimp only
      split
      · exact List.Sublist.refl _
      · exact List.Sublist.flatMap_right _ htargets
    exact h.names.sublist (((List.Sublist.refl _).append (hall.map _)).map _)

end Registry

end EdgeProxy
