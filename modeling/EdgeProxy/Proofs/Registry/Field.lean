import EdgeProxy.Registry.Encode
import EdgeProxy.Proofs.Json.Finite
import Mathlib.Data.List.Basic
/-!
Reading the fields of a record.  What a record keeps beside its known fields has each key once and
none of their names, so the fields that are written are read back each as it was.
-/

namespace EdgeProxy

namespace Checked

@[simp] theorem map_valid {α β : Type} (f : α → β) (a : α) :
    (f <$> valid a : Checked β) = valid (f a) := rfl

@[simp] theorem seq_valid {α β : Type} (f : α → β) (a : α) :
    (valid f <*> valid a : Checked β) = valid (f a) := rfl

@[simp] theorem under_valid {α : Type} (step : String) (a : α) :
    (valid a).under step = valid a := rfl

theorem items_valid {α β γ : Type} {check : γ → Checked β} {write : α → γ} {read : α → β}
    {l : List α} (h : ∀ a ∈ l, check (write a) = valid (read a)) (position : Nat) :
    items check position (l.map write) = valid (l.map read) := by
  induction l generalizing position with
  | nil => rfl
  | cons a rest ih =>
      have ha := h a List.mem_cons_self
      have hrest := ih (fun b hb => h b (List.mem_cons_of_mem a hb)) (position + 1)
      rw [List.map_cons, items, ha, hrest]
      rfl

theorem entries_valid {α β γ : Type} {check : γ → Checked β} {write : α → γ} {read : α → β}
    {l : List (String × α)} (h : ∀ p ∈ l, check (write p.2) = valid (read p.2)) :
    entries check (l.map fun (k, a) => (k, write a)) = valid (l.map fun (k, a) => (k, read a)) := by
  induction l with
  | nil => rfl
  | cons p rest ih =>
      obtain ⟨k, a⟩ := p
      have ha := h (k, a) List.mem_cons_self
      have hrest := ih fun q hq => h q (List.mem_cons_of_mem _ hq)
      rw [List.map_cons, entries, ha, hrest]
      rfl

end Checked

/-- Fields that can stand beside the named ones: each key once, and none of the names. -/
structure Beside (names : List FieldName) (extra : Fields) : Prop where
  distinct : (Json.obj extra).Distinct
  other : ∀ field ∈ names, field.name ∉ extra.keys

theorem beside_nil (names : List FieldName) : Beside names [] :=
  ⟨Json.distinct_obj.mpr ⟨List.nodup_nil, by simp⟩, by simp⟩

theorem Beside.kept {names : List FieldName} {extra : Fields} (h : Beside names extra) :
    Beside names (kept extra) := by
  refine ⟨h.distinct.finiteOnly, ?_⟩
  intro field hfield
  rw [EdgeProxy.kept, Json.keys_finiteFields]
  exact h.other field hfield

/-- What is left of a document can stand beside the fields that were taken. -/
theorem beside_others (names : List FieldName) {fields : Fields}
    (h : (Json.obj fields).Distinct) : Beside names (Field.others names fields) := by
  refine ⟨Json.hereditary_distinct.drop h _, ?_⟩
  intro field hfield hmem
  simp only [Field.others, Fields.keys_drop, List.mem_filter, Bool.not_eq_true',
    List.contains_eq_mem, decide_eq_false_iff_not, List.mem_filterMap, not_exists, not_and] at hmem
  obtain ⟨hkey, hnot⟩ := hmem
  apply hnot field hfield
  have hhas : fields.has field.name = true := by
    rw [Fields.has, Option.isSome_iff_ne_none, Ne, Fields.get?_eq_none_iff]
    exact fun hn => hn hkey
  simp [FieldName.spelling?, hhas]

theorem spelling?_of_get? {field : FieldName} {fields : Fields} {v : Json}
    (h : fields.get? field.name = some v) : field.spelling? fields = some field.name := by
  simp [FieldName.spelling?, Fields.has, h]

theorem required_of_get? {α : Type} {field : FieldName} {check : Json → Checked α}
    {fields : Fields} {v : Json} {a : α} (h : fields.get? field.name = some v)
    (hcheck : check v = .valid a) : field.required check fields = .valid a := by
  rw [FieldName.required, spelling?_of_get? h]
  simp [Fields.valueOf, h, hcheck]

theorem orElse_of_get? {α : Type} {field : FieldName} {check : Json → Checked α} {value : α}
    {fields : Fields} {v : Json} {a : α} (h : fields.get? field.name = some v)
    (hcheck : check v = .valid a) : field.orElse check value fields = .valid a := by
  rw [FieldName.orElse, spelling?_of_get? h]
  simp [Fields.valueOf, h, hcheck]

theorem get?_append_of_some {known extra : Fields} {key : String} {v : Json}
    (h : known.get? key = some v) : Fields.get? (known ++ extra) key = some v := by
  rw [Fields.get?_append, h]
  rfl

/-- Of the known fields followed by others, the others are left. -/
theorem others_append {names : List FieldName} {known extra : Fields} (h : Beside names extra)
    (hknown : known.keys = names.map FieldName.name) :
    Field.others names (known ++ extra) = extra := by
  have hspelling : names.filterMap (·.spelling? (known ++ extra)) = names.map FieldName.name := by
    apply List.filterMap_eq_map_iff_forall_eq_some.mpr
    intro field hfield
    have hmem : field.name ∈ known.keys := by
      rw [hknown]
      exact List.mem_map_of_mem hfield
    cases hget : known.get? field.name with
    | none => exact absurd hmem (Fields.get?_eq_none_iff.mp hget)
    | some v => exact spelling?_of_get? (get?_append_of_some hget)
  rw [Field.others, hspelling, Fields.drop_append, Fields.drop_eq_nil, List.nil_append,
    Fields.drop_eq_self]
  · intro key hkey
    obtain ⟨field, hfield, rfl⟩ := List.mem_map.mp hkey
    exact h.other field hfield
  · intro key hkey
    exact hknown ▸ hkey

/-- Known fields followed by fields beside them have each key once. -/
theorem distinct_append {names : List FieldName} {known extra : Fields} (h : Beside names extra)
    (hknown : known.keys = names.map FieldName.name) (hnodup : (names.map FieldName.name).Nodup)
    (hvalues : ∀ p ∈ known, p.2.Distinct) : (Json.obj (known ++ extra)).Distinct := by
  have hextra := Json.distinct_obj.mp h.distinct
  rw [Json.distinct_obj, Fields.keys_append, List.nodup_append]
  refine ⟨⟨hknown ▸ hnodup, hextra.1, ?_⟩, ?_⟩
  · intro key hkey key' hkey' heq
    rw [hknown] at hkey
    obtain ⟨field, hfield, rfl⟩ := List.mem_map.mp hkey
    exact h.other field hfield (heq ▸ hkey')
  · intro p hp
    rcases List.mem_append.mp hp with hp | hp
    · exact hvalues p hp
    · exact hextra.2 p hp

end EdgeProxy
