import Mathlib.Data.List.Nodup
/-!
Lists of pairs that are read by their keys.
-/

namespace EdgeProxy

variable {κ α : Type} [BEq κ] [LawfulBEq κ] {l : List (κ × α)} {a b : κ}

/-- A list that has no key twice holds what it lists. -/
theorem lookup_of_mem_of_nodup (h : (l.map Prod.fst).Nodup) {x : α} (hmem : (a, x) ∈ l) :
    l.lookup a = some x := by
  induction l with
  | nil => simp at hmem
  | cons p rest ih =>
      obtain ⟨k, y⟩ := p
      rw [List.map_cons, List.nodup_cons] at h
      rcases List.mem_cons.mp hmem with heq | hrest
      · cases heq
        simp
      · have hne : a ≠ k := by
          rintro rfl
          exact h.1 (List.mem_map.mpr ⟨(a, x), hrest, rfl⟩)
        rw [List.lookup_cons, beq_false_of_ne hne]
        exact ih h.2 hrest

theorem lookup_without_self (l : List (κ × α)) (a : κ) : (l.filter (·.1 != a)).lookup a = none := by
  rw [List.lookup_eq_none_iff]
  intro p hp
  have hne := (List.mem_filter.mp hp).2
  simpa [bne_comm] using hne

theorem lookup_without_of_ne (h : b ≠ a) (l : List (κ × α)) :
    (l.filter (·.1 != a)).lookup b = l.lookup b := by
  induction l with
  | nil => rfl
  | cons p rest ih =>
      obtain ⟨k, x⟩ := p
      by_cases hk : k = a
      · subst hk
        simpa [List.lookup_cons, beq_false_of_ne h] using ih
      · simp [hk, List.lookup_cons, ih]

/-- A list is as it was without a key that it does not have. -/
theorem filter_of_lookup_eq_none (h : l.lookup a = none) : l.filter (·.1 != a) = l := by
  rw [List.filter_eq_self]
  intro p hp
  have hne := List.lookup_eq_none_iff.mp h p hp
  simpa [bne_comm] using hne

end EdgeProxy
