import EdgeProxy.Json.Writer
import EdgeProxy.Proofs.Json.Distinct
/-!
Values all of whose numbers are finite.  What is left of a value without its numbers that are not finite
is one, with the keys that the value has; a value that is one already is left as it is.
-/

namespace EdgeProxy.Json

mutual
/-- Every number within a value is finite. -/
def Finite : Json → Prop
  | float x => x.isFinite = true
  | arr items => FiniteItems items
  | obj fields => FiniteFields fields
  | _ => True

/-- Every number within the items is finite. -/
def FiniteItems : List Json → Prop
  | [] => True
  | v :: rest => v.Finite ∧ FiniteItems rest

/-- Every number within the values of the fields is finite. -/
def FiniteFields : List (String × Json) → Prop
  | [] => True
  | (_, v) :: rest => v.Finite ∧ FiniteFields rest
end

theorem finiteItems_iff {items : List Json} : FiniteItems items ↔ ∀ v ∈ items, v.Finite := by
  induction items with
  | nil => simp [FiniteItems]
  | cons v rest ih => simp [FiniteItems, ih]

theorem finiteFields_iff {fields : List (String × Json)} :
    FiniteFields fields ↔ ∀ p ∈ fields, p.2.Finite := by
  induction fields with
  | nil => simp [FiniteFields]
  | cons p rest ih =>
      obtain ⟨k, v⟩ := p
      simp only [FiniteFields, ih, List.forall_mem_cons]

/-- That each key is given once and every number is finite passes to the parts of a value. -/
theorem hereditary_distinct_finite : Hereditary fun v => v.Distinct ∧ v.Finite where
  of_null := ⟨trivial, trivial⟩
  of_bool _ := ⟨trivial, trivial⟩
  of_int _ _ := ⟨trivial, trivial⟩
  of_str _ := ⟨trivial, trivial⟩
  arr_iff := by simp only [distinct_arr, Finite, finiteItems_iff, imp_and, forall_and, implies_true]
  obj_iff := by
    simp only [distinct_obj, Finite, finiteFields_iff, imp_and, forall_and, and_assoc, implies_true]

theorem keys_finiteFields (fields : List (String × Json)) :
    Fields.keys (finiteFields fields) = Fields.keys fields := by
  induction fields with
  | nil => rfl
  | cons p rest ih =>
      obtain ⟨k, v⟩ := p
      simp [finiteFields, ih]

mutual
theorem Distinct.finiteOnly : ∀ {v : Json}, v.Distinct → v.finiteOnly.Distinct
  | .float x, _ => by
      rw [Json.finiteOnly]
      split <;> trivial
  | .arr items, h => DistinctItems.finiteItems h
  | .obj fields, h => ⟨by
      rw [keys_finiteFields]
      exact h.1, DistinctFields.finiteFields h.2⟩
  | .null, _ | .bool _, _ | .int _, _ | .str _, _ => trivial

theorem DistinctItems.finiteItems : ∀ {items : List Json}, DistinctItems items →
    DistinctItems (finiteItems items)
  | [], _ => trivial
  | _ :: _, h => ⟨h.1.finiteOnly, DistinctItems.finiteItems h.2⟩

theorem DistinctFields.finiteFields : ∀ {fields : List (String × Json)}, DistinctFields fields →
    DistinctFields (finiteFields fields)
  | [], _ => trivial
  | (_, _) :: _, h => ⟨h.1.finiteOnly, DistinctFields.finiteFields h.2⟩
end

mutual
theorem finite_finiteOnly : ∀ v : Json, v.finiteOnly.Finite
  | .float x => by
      by_cases hx : x.isFinite = true
      · simp [finiteOnly, hx, Finite]
      · simp [finiteOnly, hx, Finite]
  | .arr items => finite_finiteItems items
  | .obj fields => finite_finiteFields fields
  | .null | .bool _ | .int _ | .str _ => trivial

theorem finite_finiteItems : ∀ items : List Json, FiniteItems (finiteItems items)
  | [] => trivial
  | v :: rest => ⟨finite_finiteOnly v, finite_finiteItems rest⟩

theorem finite_finiteFields :
    ∀ fields : List (String × Json), FiniteFields (finiteFields fields)
  | [] => trivial
  | (_, v) :: rest => ⟨finite_finiteOnly v, finite_finiteFields rest⟩
end

mutual
/-- A value all of whose numbers are finite loses nothing. -/
theorem Finite.finiteOnly_eq : ∀ {v : Json}, v.Finite → v.finiteOnly = v
  | .float x, h => by
      have hx : x.isFinite = true := h
      simp [finiteOnly, hx]
  | .arr _, h => congrArg arr (FiniteItems.finiteItems_eq h)
  | .obj _, h => congrArg obj (FiniteFields.finiteFields_eq h)
  | .null, _ | .bool _, _ | .int _, _ | .str _, _ => rfl

theorem FiniteItems.finiteItems_eq :
    ∀ {items : List Json}, FiniteItems items → finiteItems items = items
  | [], _ => rfl
  | _ :: _, h => by rw [finiteItems, h.1.finiteOnly_eq, FiniteItems.finiteItems_eq h.2]

theorem FiniteFields.finiteFields_eq :
    ∀ {fields : List (String × Json)}, FiniteFields fields → finiteFields fields = fields
  | [], _ => rfl
  | (_, _) :: _, h => by rw [finiteFields, h.1.finiteOnly_eq, FiniteFields.finiteFields_eq h.2]
end

end EdgeProxy.Json
