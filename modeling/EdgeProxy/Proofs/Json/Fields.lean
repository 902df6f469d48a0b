import EdgeProxy.Json.Basic
/-!
The laws of object fields.  Looking up, setting and dropping are described by the keys; the fields of
a list of pairs have each key once, and pairs with distinct keys are their own fields.
-/

namespace EdgeProxy.Fields

def keys (fields : Fields) : List String := fields.map Prod.fst

@[simp] theorem keys_nil : keys [] = [] := rfl

@[simp] theorem keys_cons (p : String × Json) (fields : Fields) :
    keys (p :: fields) = p.1 :: keys fields := rfl

@[simp] theorem keys_append (a b : Fields) : keys (a ++ b) = keys a ++ keys b := List.map_append

theorem mem_keys_of_mem {fields : Fields} {p : String × Json} (h : p ∈ fields) :
    p.1 ∈ keys fields := List.mem_map_of_mem h

theorem get?_eq_none_iff {fields : Fields} {key : String} :
    fields.get? key = none ↔ key ∉ fields.keys := by
  induction fields with
  | nil => simp [get?]
  | cons p rest ih =>
      by_cases hkey : p.1 = key
      · simp [get?, hkey]
      · simp [get?, hkey, Ne.symm hkey, ih]

theorem mem_of_get? {fields : Fields} {key : String} {v : Json} (h : fields.get? key = some v) :
    (key, v) ∈ fields := by
  induction fields with
  | nil => simp [get?] at h
  | cons p rest ih =>
      obtain ⟨k, w⟩ := p
      by_cases hkey : k = key
      · subst hkey
        simp only [get?, beq_self_eq_true, ↓reduceIte, Option.some.injEq] at h
        subst h
        exact List.mem_cons_self
      · simp only [get?, beq_iff_eq, hkey, ↓reduceIte] at h
        exact List.mem_cons_of_mem _ (ih h)

theorem get?_append (a b : Fields) (key : String) :
    get? (a ++ b) key = (a.get? key).or (b.get? key) := by
  induction a with
  | nil => simp [get?]
  | cons p rest ih =>
      by_cases hkey : p.1 = key
      · simp [get?, hkey]
      · simpa [get?, hkey] using ih

theorem get?_set_self (fields : Fields) (key : String) (v : Json) :
    (fields.set key v).get? key = some v := by
  induction fields with
  | nil => simp [set, get?]
  | cons p rest ih =>
      by_cases hkey : p.1 = key
      · simp [set, get?, hkey]
      · simpa [set, get?, hkey] using ih

theorem get?_set_of_ne {key other : String} (h : other ≠ key) (fields : Fields) (v : Json) :
    (fields.set key v).get? other = fields.get? other := by
  induction fields with
  | nil => simp [set, get?, h.symm]
  | cons p rest ih =>
      by_cases hkey : p.1 = key
      · simp [set, get?, hkey, h.symm]
      · by_cases hother : p.1 = other
        · subst hother
          simp [set, get?, hkey]
        · simpa [set, get?, hkey, hother] using ih

theorem set_of_get? {fields : Fields} {key : String} {v : Json} (h : fields.get? key = some v) :
    fields.set key v = fields := by
  induction fields with
  | nil => simp [get?] at h
  | cons p rest ih =>
      obtain ⟨k, w⟩ := p
      by_cases hkey : k = key
      · simp only [get?, beq_iff_eq, hkey, ↓reduceIte, Option.some.injEq] at h
        simp [set, hkey, h]
      · simp only [get?, beq_iff_eq, hkey, ↓reduceIte] at h
        simp [set, hkey, ih h]

theorem set_of_not_mem {fields : Fields} {key : String} (h : key ∉ fields.keys) (v : Json) :
    fields.set key v = fields ++ [(key, v)] := by
  induction fields with
  | nil => rfl
  | cons p rest ih =>
      simp only [keys_cons, List.mem_cons, not_or] at h
      simp [set, Ne.symm h.1, ih h.2]

theorem keys_set_of_mem {fields : Fields} {key : String} (h : key ∈ fields.keys) (v : Json) :
    (fields.set key v).keys = fields.keys := by
  induction fields with
  | nil => simp at h
  | cons p rest ih =>
      by_cases hkey : p.1 = key
      · simp [set, hkey]
      · have hrest : key ∈ keys rest := by
          simpa [Ne.symm hkey] using h
        simpa [set, hkey] using ih hrest

theorem mem_keys_set {fields : Fields} {key other : String} {v : Json} :
    other ∈ (fields.set key v).keys ↔ other = key ∨ other ∈ fields.keys := by
  by_cases hkey : key ∈ fields.keys
  · rw [keys_set_of_mem hkey]
    constructor
    · exact Or.inr
    · rintro (rfl | h)
      · exact hkey
      · exact h
  · rw [set_of_not_mem hkey]
    simp [or_comm]

theorem nodup_keys_set {fields : Fields} (h : fields.keys.Nodup) (key : String) (v : Json) :
    (fields.set key v).keys.Nodup := by
  by_cases hkey : key ∈ fields.keys
  · rw [keys_set_of_mem hkey]
    exact h
  · rw [set_of_not_mem hkey, keys_append, List.nodup_append]
    refine ⟨h, by simp, ?_⟩
    intro k hk k' hk'
    simp only [keys_cons, keys_nil, List.mem_singleton] at hk'
    subst hk'
    rintro rfl
    exact hkey hk

theorem mem_set {fields : Fields} {key : String} {v : Json} {p : String × Json}
    (h : p ∈ fields.set key v) : p.2 = v ∨ p ∈ fields := by
  induction fields with
  | nil =>
      simp only [set, List.mem_singleton] at h
      exact Or.inl (h ▸ rfl)
  | cons q rest ih =>
      by_cases hkey : q.1 = key
      · simp only [set, beq_iff_eq, hkey, ↓reduceIte, List.mem_cons] at h
        rcases h with rfl | h
        · exact Or.inl rfl
        · exact Or.inr (List.mem_cons_of_mem q h)
      · simp only [set, beq_iff_eq, hkey, ↓reduceIte, List.mem_cons] at h
        rcases h with rfl | h
        · exact Or.inr List.mem_cons_self
        · rcases ih h with h | h
          · exact Or.inl h
          · exact Or.inr (List.mem_cons_of_mem q h)

theorem mem_drop {fields : Fields} {names : List String} {p : String × Json} :
    p ∈ fields.drop names ↔ p ∈ fields ∧ p.1 ∉ names := by
  simp [drop, List.mem_filter]

theorem keys_drop (fields : Fields) (names : List String) :
    (fields.drop names).keys = fields.keys.filter fun k => !names.contains k := by
  induction fields with
  | nil => rfl
  | cons p rest ih =>
      simp only [drop] at ih ⊢
      by_cases hp : p.1 ∈ names
      · simpa [hp, List.filter_cons] using ih
      · simpa [hp, List.filter_cons] using ih

theorem nodup_keys_drop {fields : Fields} (h : fields.keys.Nodup) (names : List String) :
    (fields.drop names).keys.Nodup := by
  rw [keys_drop]
  exact h.filter _

theorem drop_append (a b : Fields) (names : List String) :
    drop (a ++ b) names = a.drop names ++ b.drop names := List.filter_append ..

theorem drop_eq_nil {fields : Fields} {names : List String} (h : ∀ k ∈ fields.keys, k ∈ names) :
    fields.drop names = [] := by
  rw [drop, List.filter_eq_nil_iff]
  intro p hp
  simpa using h p.1 (mem_keys_of_mem hp)

theorem drop_eq_self {fields : Fields} {names : List String} (h : ∀ k ∈ names, k ∉ fields.keys) :
    fields.drop names = fields := by
  rw [drop, List.filter_eq_self]
  intro p hp
  simp only [Bool.not_eq_true', List.contains_eq_mem, decide_eq_false_iff_not]
  intro hmem
  exact h p.1 hmem (mem_keys_of_mem hp)

theorem drop_congr {fields : Fields} {names names' : List String}
    (h : ∀ k ∈ fields.keys, k ∈ names ↔ k ∈ names') : fields.drop names = fields.drop names' := by
  rw [drop, drop]
  apply List.filter_congr
  intro p hp
  simp [h p.1 (mem_keys_of_mem hp)]

theorem drop_cons (key : String) (v : Json) (rest : Fields) (names : List String) :
    drop ((key, v) :: rest) names =
      if key ∈ names then rest.drop names else (key, v) :: rest.drop names := by
  by_cases h : key ∈ names <;> simp [drop, h]

/-- What a key that is dropped was given has no part in what is left. -/
theorem drop_set {names : List String} {key : String} (h : key ∈ names) (fields : Fields)
    (v : Json) : (fields.set key v).drop names = fields.drop names := by
  induction fields with
  | nil => simp [set, drop, h]
  | cons p rest ih =>
      obtain ⟨k, w⟩ := p
      by_cases hk : k = key
      · subst hk
        simp [set, drop_cons, h]
      · simp only [set, beq_iff_eq, hk, ↓reduceIte, drop_cons, ih]

theorem drop_drop (fields : Fields) (names names' : List String) :
    (fields.drop names).drop names' = (fields.drop names').drop names := by
  simp only [drop, List.filter_filter, Bool.and_comm]

theorem get?_drop {names : List String} {key : String} (h : key ∉ names) (fields : Fields) :
    (fields.drop names).get? key = fields.get? key := by
  induction fields with
  | nil => rfl
  | cons p rest ih =>
      obtain ⟨k, w⟩ := p
      by_cases hk : k = key
      · subst hk
        simp [drop_cons, h, get?]
      · by_cases hmem : k ∈ names <;> simp [drop_cons, hmem, get?, hk, ih]

/-- Pairs put one after the other to fields that share no key with them. -/
theorem foldl_set_of_nodup (fields : Fields) {pairs : Fields} (h : (fields ++ pairs).keys.Nodup) :
    pairs.foldl (fun fields (k, v) => set fields k v) fields = fields ++ pairs := by
  induction pairs generalizing fields with
  | nil => simp
  | cons p rest ih =>
      obtain ⟨k, v⟩ := p
      have hfresh : k ∉ fields.keys := by
        rw [keys_append, List.nodup_append] at h
        intro hmem
        exact h.2.2 k hmem k List.mem_cons_self rfl
      rw [List.foldl_cons]
      dsimp only
      rw [set_of_not_mem hfresh, ih _ (by simpa using h)]
      simp

theorem ofPairs_of_nodup {pairs : Fields} (h : pairs.keys.Nodup) : ofPairs pairs = pairs :=
  foldl_set_of_nodup [] h

theorem nodup_keys_ofPairs (pairs : Fields) : (ofPairs pairs).keys.Nodup := by
  suffices h : ∀ fields : Fields, fields.keys.Nodup →
      (pairs.foldl (fun fields (k, v) => set fields k v) fields).keys.Nodup from
    h [] List.nodup_nil
  induction pairs with
  | nil => exact fun _ h => h
  | cons p rest ih => exact fun fields h => ih _ (nodup_keys_set h p.1 p.2)

/-- Every value of the fields of a list of pairs is one of the pairs' values. -/
theorem exists_mem_of_mem_ofPairs {pairs : Fields} {p : String × Json} (h : p ∈ ofPairs pairs) :
    ∃ q ∈ pairs, q.2 = p.2 := by
  suffices hfold : ∀ fields : Fields,
      p ∈ pairs.foldl (fun fields (k, v) => set fields k v) fields →
        p ∈ fields ∨ ∃ q ∈ pairs, q.2 = p.2 by
    rcases hfold [] h with hnil | hpair
    · simp at hnil
    · exact hpair
  clear h
  induction pairs with
  | nil => exact fun fields h => Or.inl h
  | cons q rest ih =>
      intro fields h
      rcases ih _ h with hset | ⟨q', hq', heq⟩
      · rcases mem_set hset with hvalue | hmem
        · exact Or.inr ⟨q, List.mem_cons_self, hvalue.symm⟩
        · exact Or.inl hmem
      · exact Or.inr ⟨q', List.mem_cons_of_mem q hq', heq⟩

end EdgeProxy.Fields
