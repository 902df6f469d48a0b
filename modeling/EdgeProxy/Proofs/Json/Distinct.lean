import EdgeProxy.Json.Reader
import EdgeProxy.Proofs.Json.Fields
/-!
Values in which every object has each key once.  Every value that is read is one, whatever keys the
text repeats.
-/

namespace EdgeProxy.Json

mutual
/-- Every object within a value has each key once. -/
def Distinct : Json → Prop
  | arr items => DistinctItems items
  | obj fields => (Fields.keys fields).Nodup ∧ DistinctFields fields
  | _ => True

/-- Every item has each key once. -/
def DistinctItems : List Json → Prop
  | [] => True
  | v :: rest => v.Distinct ∧ DistinctItems rest

/-- Every field's value has each key once. -/
def DistinctFields : List (String × Json) → Prop
  | [] => True
  | (_, v) :: rest => v.Distinct ∧ DistinctFields rest
end

theorem distinctItems_iff {items : List Json} :
    DistinctItems items ↔ ∀ v ∈ items, v.Distinct := by
  induction items with
  | nil => simp [DistinctItems]
  | cons v rest ih => simp [DistinctItems, ih]

theorem distinctFields_iff {fields : List (String × Json)} :
    DistinctFields fields ↔ ∀ p ∈ fields, p.2.Distinct := by
  induction fields with
  | nil => simp [DistinctFields]
  | cons p rest ih =>
      obtain ⟨k, v⟩ := p
      simp only [DistinctFields, ih, List.forall_mem_cons]

theorem distinct_arr {items : List Json} : (arr items).Distinct ↔ ∀ v ∈ items, v.Distinct := by
  rw [Distinct, distinctItems_iff]

theorem distinct_obj {fields : Fields} :
    (obj fields).Distinct ↔ fields.keys.Nodup ∧ ∀ p ∈ fields, p.2.Distinct := by
  rw [Distinct, distinctFields_iff]

/-- A property of values that passes to their parts: texts, flags, small integers and null have it, a list
has it if its items do, an object if its keys are distinct and its values have it. -/
structure Hereditary (P : Json → Prop) : Prop where
  of_null : P null
  of_bool : ∀ b, P (bool b)
  of_int : ∀ n : Int, n.natAbs < 10000 → P (int n)
  of_str : ∀ s, P (str s)
  arr_iff : ∀ {items : List Json}, P (arr items) ↔ ∀ v ∈ items, P v
  obj_iff : ∀ {fields : Fields}, P (obj fields) ↔ fields.keys.Nodup ∧ ∀ p ∈ fields, P p.2

theorem hereditary_distinct : Hereditary Distinct :=
  ⟨trivial, fun _ => trivial, fun _ _ => trivial, fun _ => trivial, distinct_arr, distinct_obj⟩

namespace Hereditary

variable {P : Json → Prop} (hP : Hereditary P) {fields : Fields}

include hP

theorem get? (h : P (obj fields)) {key : String} {v : Json} (hv : fields.get? key = some v) : P v :=
  (hP.obj_iff.mp h).2 _ (Fields.mem_of_get? hv)

theorem valueOf (h : P (obj fields)) (key : String) : P (fields.valueOf key) := by
  rw [Fields.valueOf]
  cases hget : fields.get? key with
  | none => exact hP.of_null
  | some v => exact hP.get? h hget

theorem set (h : P (obj fields)) (key : String) {v : Json} (hv : P v) :
    P (obj (fields.set key v)) := by
  rw [hP.obj_iff] at h ⊢
  refine ⟨Fields.nodup_keys_set h.1 key v, ?_⟩
  intro p hp
  rcases Fields.mem_set hp with heq | hmem
  · exact heq ▸ hv
  · exact h.2 p hmem

theorem drop (h : P (obj fields)) (names : List String) : P (obj (fields.drop names)) := by
  rw [hP.obj_iff] at h ⊢
  exact ⟨Fields.nodup_keys_drop h.1 names, fun p hp => h.2 p (Fields.mem_drop.mp hp).1⟩

theorem ofPairs {pairs : Fields} (h : ∀ p ∈ pairs, P p.2) : P (obj (Fields.ofPairs pairs)) := by
  rw [hP.obj_iff]
  refine ⟨Fields.nodup_keys_ofPairs pairs, ?_⟩
  intro p hp
  obtain ⟨q, hq, heq⟩ := Fields.exists_mem_of_mem_ofPairs hp
  exact heq ▸ h q hq

end Hereditary

/-- A property that every number has that a text is read as. -/
structure OfNumbers (P : Json → Prop) : Prop where
  of_magnitude : ∀ {negative : Bool} {cs rest : List Char} {v : Json},
    readMagnitude negative cs = .ok (v, rest) → P v
  of_infinite : ∀ negative, P (float (.infinite negative))
  of_nan : P (float .nan)

section Read

variable {P : Json → Prop} (hP : Hereditary P) (hnumbers : OfNumbers P)

include hP hnumbers

/-- What is read has a hereditary property of numbers: by induction on the fuel for values, items and
pairs at once. -/
theorem of_read_all (fuel : Nat) :
    (∀ cs v rest, readValue fuel cs = .ok (v, rest) → P v) ∧
      (∀ cs items rest, readItems fuel cs = .ok (items, rest) → ∀ v ∈ items, P v) ∧
      ∀ cs pairs rest, readPairs fuel cs = .ok (pairs, rest) → ∀ p ∈ pairs, P p.2 := by
  induction fuel with
  | zero =>
      refine ⟨?_, ?_, ?_⟩
      · intro cs v rest h
        simp [readValue] at h
      · intro cs items rest h
        simp [readItems] at h
      · intro cs pairs rest h
        simp [readPairs] at h
  | succ fuel ih =>
      obtain ⟨ihValue, ihItems, ihPairs⟩ := ih
      refine ⟨?_, ?_, ?_⟩
      · intro cs v rest h
        rw [readValue.eq_def] at h
        dsimp only at h
        repeat' split at h
        -- A list and an object are read by the items and pairs; all else holds no object.
        all_goals first
          | contradiction
          | exact hnumbers.of_magnitude h
          | (cases h
             first
               | exact hP.arr_iff.mpr (ihItems _ _ _ ‹_›)
               | exact hP.ofPairs (ihPairs _ _ _ ‹_›)
               | exact hnumbers.of_infinite _
               | exact hnumbers.of_nan
               | exact hP.of_null
               | exact hP.of_bool _
               | exact hP.of_str _
               | exact hP.arr_iff.mpr (by simp)
               | exact hP.obj_iff.mpr (by simp))
      · intro cs items rest h
        rw [readItems.eq_def] at h
        dsimp only at h
        repeat' split at h
        all_goals try contradiction
        next hvalue _ _ _ =>
          cases h
          simpa using ihValue _ _ _ hvalue
        next hvalue _ _ _ _ _ _ hitems =>
          cases h
          exact List.forall_mem_cons.mpr ⟨ihValue _ _ _ hvalue, ihItems _ _ _ hitems⟩
      · intro cs pairs rest h
        rw [readPairs.eq_def] at h
        dsimp only at h
        repeat' split at h
        all_goals try contradiction
        next hvalue _ _ _ =>
          cases h
          simpa using ihValue _ _ _ hvalue
        next hvalue _ _ _ _ _ _ hpairs =>
          cases h
          exact List.forall_mem_cons.mpr ⟨ihValue _ _ _ hvalue, ihPairs _ _ _ hpairs⟩

theorem of_read {text : String} {v : Json} (h : read text = .ok v) : P v := by
  rw [read] at h
  split at h
  · contradiction
  next hvalue =>
    split at h
    · cases h
      exact (of_read_all hP hnumbers _).1 _ _ _ hvalue
    · contradiction

end Read

/-- A number that is read is an integer of not too many digits, or a floating-point number. -/
theorem numberOf_eq_ok {negative : Bool} {whole : List Char} {fraction : Option (List Char)}
    {exponent : Option Int} {v : Json} (h : numberOf negative whole fraction exponent = .ok v) :
    (∃ n : Int, v = int n ∧ whole.length ≤ Text.maxIntegerDigits ∧
        n.natAbs = digitsValue whole) ∨ ∃ x, v = float x := by
  unfold numberOf at h
  split at h
  · split at h
    · simp at h
    next hlength =>
      simp only [Except.ok.injEq] at h
      refine Or.inl ⟨_, h.symm, Nat.le_of_not_lt hlength, ?_⟩
      split <;> simp
  · simp only [Except.ok.injEq] at h
    exact Or.inr ⟨_, h.symm⟩

/-- A number that is read is that of its whole part, its fraction and its exponent. -/
theorem numberOf_of_readMagnitude {negative : Bool} {cs rest : List Char} {v : Json}
    (h : readMagnitude negative cs = .ok (v, rest)) :
    ∃ whole fraction exponent, numberOf negative whole fraction exponent = .ok v := by
  unfold readMagnitude at h
  dsimp only at h
  split at h
  · simp at h
  · split at h
    next hnumber =>
      simp only [Except.ok.injEq, Prod.mk.injEq] at h
      exact ⟨_, _, _, h.1 ▸ hnumber⟩
    next => simp at h

theorem ofNumbers_distinct : OfNumbers Distinct where
  of_magnitude h := by
    obtain ⟨whole, fraction, exponent, hnumber⟩ := numberOf_of_readMagnitude h
    rcases numberOf_eq_ok hnumber with ⟨n, rfl, -⟩ | ⟨x, rfl⟩ <;> trivial
  of_infinite _ := trivial
  of_nan := trivial

/-- What a text is read as has each key once. -/
theorem distinct_of_read {text : String} {v : Json} (h : read text = .ok v) : v.Distinct :=
  of_read hereditary_distinct ofNumbers_distinct h

end EdgeProxy.Json
