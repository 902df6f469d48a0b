import EdgeProxy.Proofs.Registry.Decoded
import EdgeProxy.Proofs.Registry.RoundTrip
/-!
Giving entities an identifier and a time of creation.  The document stays clean, and a document in
which every entity has both stays as it is.
-/

namespace EdgeProxy.Registry

open Migration

section Hereditary

variable {P : Json → Prop} (hP : Json.Hereditary P)

include hP

theorem hereditary_markEntity (supply : Supply) {fields : Fields} (h : P (.obj fields)) :
    P (.obj (markEntity supply fields).1) := by
  have hid : ∀ s : String, P (.obj (fields.set Field.id.name (.str s))) :=
    fun s => hP.set h _ (hP.of_str s)
  rw [markEntity]
  cases hidKey : Field.id.spelling? fields with
  | some key =>
      dsimp only
      split
      · exact h
      · exact hP.set h _ (hP.of_str _)
  | none =>
      dsimp only
      split
      · exact hid _
      · exact hP.set (hid _) _ (hP.of_str _)

theorem hereditary_markEntities (supply : Supply) {items : List Json} (h : ∀ v ∈ items, P v) :
    ∀ v ∈ (markEntities supply items).1, P v := by
  induction items generalizing supply with
  | nil => simp [markEntities]
  | cons v rest ih =>
      rw [List.forall_mem_cons] at h
      cases v with
      | obj fields =>
          simp only [markEntities, List.forall_mem_cons]
          exact ⟨hereditary_markEntity hP supply h.1, ih _ h.2⟩
      | null | bool b | int n | float x | str s | arr items =>
          simp only [markEntities, List.forall_mem_cons]
          exact ⟨h.1, ih _ h.2⟩

theorem clean_markUnder {key : String} (hkey : key ∉ deprecatedKeys) (supply : Supply)
    {doc : Fields} (h : Clean P doc) : Clean P (markUnder key supply doc).1 := by
  rw [markUnder]
  split
  next items hget =>
    have hitems := hereditary_markEntities hP supply (hP.arr_iff.mp (hP.get? h.values hget))
    exact clean_set hP h hkey (hP.arr_iff.mpr hitems)
  · exact h

end Hereditary

theorem marked_markUnder {key : String} (hkey : "schemaVersion" ≠ key) (supply : Supply)
    {doc : Fields} (h : Marked doc) : Marked (markUnder key supply doc).1 := by
  rw [markUnder]
  split
  · rw [Marked, Fields.get?_set_of_ne hkey]
    exact h
  · exact h

theorem mark_spec {P : Json → Prop} (hP : Json.Hereditary P) (supply : Supply) {doc : Fields}
    (hclean : Clean P doc) (hmarked : Marked doc) :
    Clean P (mark supply doc).1 ∧ Marked (mark supply doc).1 := by
  refine ⟨?_, ?_⟩
  · exact clean_markUnder hP (by decide) _ (clean_markUnder hP (by decide) supply hclean)
  · exact marked_markUnder (by decide) _ (marked_markUnder (by decide) supply hmarked)

/-- Where there is an object, it has an identifier and a time of creation. -/
def Identified (v : Json) : Prop :=
  ∀ fields, v = .obj fields → (Field.id.spelling? fields).isSome = true ∧
    (Field.createdAt.spelling? fields).isSome = true

theorem markEntities_of_identified (supply : Supply) {items : List Json} (h : ∀ v ∈ items, Identified v) :
    markEntities supply items = (items, supply) := by
  induction items with
  | nil => rfl
  | cons v rest ih =>
      rw [List.forall_mem_cons] at h
      cases v with
      | obj fields =>
          obtain ⟨hid, hcreated⟩ := h.1 fields rfl
          obtain ⟨idKey, hidKey⟩ := Option.isSome_iff_exists.mp hid
          obtain ⟨createdKey, hcreatedKey⟩ := Option.isSome_iff_exists.mp hcreated
          have hmark : markEntity supply fields = (fields, supply) := by
            simp only [markEntity, hidKey, hcreatedKey]
          simp only [markEntities, hmark, ih h.2]
      | null | bool b | int n | float x | str s | arr items => simp only [markEntities, ih h.2]

theorem markUnder_of_identified (supply : Supply) {key : String} {doc : Fields}
    (h : ∀ items, doc.get? key = some (.arr items) → ∀ v ∈ items, Identified v) :
    markUnder key supply doc = (doc, supply) := by
  rw [markUnder]
  split
  next items hget => simp only [markEntities_of_identified supply (h items hget), Fields.set_of_get? hget]
  · rfl

theorem isSome_spelling?_of_get? {field : FieldName} {fields : Fields} {v : Json}
    (h : fields.get? field.name = some v) : (field.spelling? fields).isSome = true :=
  Option.isSome_of_eq_some (spelling?_of_get? h)

theorem identified_application (a : Application) : Identified a.encode := by
  rintro fields ⟨⟩
  exact ⟨isSome_spelling?_of_get? (get?_append_of_some rfl),
    isSome_spelling?_of_get? (get?_append_of_some rfl)⟩

theorem identified_host (h : Host) : Identified h.encode := by
  rintro fields ⟨⟩
  exact ⟨isSome_spelling?_of_get? (get?_append_of_some rfl),
    isSome_spelling?_of_get? (get?_append_of_some rfl)⟩

/-- Every application and every host of a document has an identifier and a time of creation. -/
def EntitiesIdentified (doc : Fields) : Prop :=
  ∀ key ∈ [Field.applications.name, Field.hosts.name], ∀ items, doc.get? key = some (.arr items) →
    ∀ v ∈ items, Identified v

theorem mark_of_entitiesIdentified (supply : Supply) {doc : Fields} (h : EntitiesIdentified doc) :
    mark supply doc = (doc, supply) := by
  have happlications := markUnder_of_identified supply (h Field.applications.name (by simp))
  have hhosts := markUnder_of_identified supply (h Field.hosts.name (by simp))
  simp only [mark, happlications, hhosts]

theorem entitiesIdentified_encodeFields (r : Registry) : EntitiesIdentified r.encodeFields := by
  have happlications : r.encodeFields.get? Field.applications.name =
      some (.arr (r.applications.map Application.encode)) := get?_append_of_some rfl
  have hhosts : r.encodeFields.get? Field.hosts.name = some (.arr (r.hosts.map Host.encode)) :=
    get?_append_of_some rfl
  intro key hkey items hget v hv
  simp only [List.mem_cons, List.not_mem_nil, or_false] at hkey
  rcases hkey with rfl | rfl
  · rw [happlications] at hget
    cases hget
    obtain ⟨a, -, rfl⟩ := List.mem_map.mp hv
    exact identified_application a
  · rw [hhosts] at hget
    cases hget
    obtain ⟨h, -, rfl⟩ := List.mem_map.mp hv
    exact identified_host h

theorem mark_encodeFields (supply : Supply) (r : Registry) :
    mark supply r.encodeFields = (r.encodeFields, supply) :=
  mark_of_entitiesIdentified supply (entitiesIdentified_encodeFields r)

theorem WellFormed.clean {r : Registry} (h : r.WellFormed) :
    Clean Json.Distinct r.encodeFields := by
  refine ⟨distinct_encode h, ?_⟩
  intro key hkey hmem
  rw [encodeFields, Fields.keys_append, List.mem_append] at hmem
  rcases hmem with hknown | hextra
  · have hnames : key ∈ Field.registry.map FieldName.name := hknown
    have hdisjoint : ∀ key ∈ deprecatedKeys, key ∉ Field.registry.map FieldName.name := by decide
    exact hdisjoint key hkey hnames
  · rw [kept, Json.keys_finiteFields] at hextra
    exact h.deprecated key hkey hextra

theorem WellFormed.marked {r : Registry} (h : r.WellFormed) : Marked r.encodeFields := by
  have hget : r.encodeFields.get? "schemaVersion" = some (.int r.schemaVersion) :=
    get?_append_of_some rfl
  rw [Marked, hget, h.schema]

end EdgeProxy.Registry
