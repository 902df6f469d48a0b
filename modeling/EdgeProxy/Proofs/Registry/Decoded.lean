import EdgeProxy.Proofs.Registry.Migration
import EdgeProxy.Proofs.Registry.WellFormed
import Mathlib.Data.List.Forall2
/-!
What a document that is read looks like, and what is kept of it.  A property of values that passes to
their parts passes to everything that the records keep; so what is read from a document with distinct
keys is well formed.
-/

namespace EdgeProxy

namespace Checked

variable {α β : Type}

theorem map_eq_valid {f : α → β} {c : Checked α} {b : β} :
    (f <$> c) = valid b ↔ ∃ a, c = valid a ∧ f a = b := by
  cases c with
  | valid a => simp
  | invalid issues =>
      constructor
      · intro h
        cases h
      · rintro ⟨a, h, -⟩
        cases h

theorem seq_eq_valid {f : Checked (α → β)} {c : Checked α} {b : β} :
    (f <*> c) = valid b ↔ ∃ g a, f = valid g ∧ c = valid a ∧ g a = b := by
  cases f with
  | valid g =>
      cases c with
      | valid a => simp
      | invalid issues =>
          constructor
          · intro h
            cases h
          · rintro ⟨g', a, -, h, -⟩
            cases h
  | invalid issues =>
      constructor
      · intro h
        cases c <;> cases h
      · rintro ⟨g, a, h, -⟩
        cases h

theorem under_eq_valid {c : Checked α} {step : String} {a : α} :
    c.under step = valid a ↔ c = valid a := by
  cases c <;> simp [under]

theorem exists_of_forall₂ {R : α → β → Prop} {l : List α} {read : List β}
    (h : List.Forall₂ R l read) : ∀ b ∈ read, ∃ a ∈ l, R a b := by
  induction h with
  | nil => simp
  | cons hab hrest ih =>
      rw [List.forall_mem_cons]
      refine ⟨⟨_, List.mem_cons_self, hab⟩, ?_⟩
      intro b hb
      obtain ⟨a, ha, hrel⟩ := ih b hb
      exact ⟨a, List.mem_cons_of_mem _ ha, hrel⟩

/-- Items that are read match the items of the list one by one. -/
theorem items_eq_valid {check : α → Checked β} {l : List α} {position : Nat} {read : List β}
    (h : items check position l = valid read) :
    List.Forall₂ (fun a b => check a = valid b) l read := by
  induction l generalizing position read with
  | nil =>
      cases h
      exact .nil
  | cons a rest ih =>
      simp only [items] at h
      obtain ⟨g, more, hg, hmore, heq⟩ := seq_eq_valid.mp h
      obtain ⟨b, hb, rfl⟩ := map_eq_valid.mp hg
      subst heq
      exact .cons (under_eq_valid.mp hb) (ih hmore)

/-- Entries that are read match the entries of the map one by one. -/
theorem entries_eq_valid {check : α → Checked β} {l : List (String × α)}
    {read : List (String × β)} (h : entries check l = valid read) :
    List.Forall₂ (fun p q => p.1 = q.1 ∧ check p.2 = valid q.2) l read := by
  induction l generalizing read with
  | nil =>
      cases h
      exact .nil
  | cons p rest ih =>
      obtain ⟨k, a⟩ := p
      simp only [entries] at h
      obtain ⟨g, more, hg, hmore, heq⟩ := seq_eq_valid.mp h
      obtain ⟨b, hb, rfl⟩ := map_eq_valid.mp hg
      subst heq
      exact .cons ⟨rfl, under_eq_valid.mp hb⟩ (ih hmore)

end Checked

/-- A field that is read comes from a value of the document, or is the value for when it is not
given. -/
theorem orElse_eq_valid {α : Type} {field : FieldName} {check : Json → Checked α} {value a : α}
    {fields : Fields} (h : field.orElse check value fields = .valid a) :
    field.spelling? fields = none ∧ a = value ∨
      ∃ key, field.spelling? fields = some key ∧ check (fields.valueOf key) = .valid a := by
  rw [FieldName.orElse] at h
  split at h
  next hkey =>
    cases h
    exact Or.inl ⟨hkey, rfl⟩
  next key hkey => exact Or.inr ⟨key, hkey, Checked.under_eq_valid.mp h⟩

theorem spelling?_word (name : String) (fields : Fields) :
    (FieldName.word name).spelling? fields = (fields.get? name).map fun _ => name := by
  cases hget : fields.get? name <;> simp [FieldName.spelling?, FieldName.word, Fields.has, hget]

/-- A field with one spelling that is read comes from the value of its key. -/
theorem orElse_word_eq_valid {α : Type} {name : String} {check : Json → Checked α} {value a : α}
    {fields : Fields} (h : (FieldName.word name).orElse check value fields = .valid a) :
    fields.get? name = none ∧ a = value ∨
      ∃ v, fields.get? name = some v ∧ check v = .valid a := by
  rcases orElse_eq_valid h with ⟨hnone, rfl⟩ | ⟨key, hkey, hcheck⟩
  · rw [spelling?_word, Option.map_eq_none_iff] at hnone
    exact Or.inl ⟨hnone, rfl⟩
  · rw [spelling?_word] at hkey
    obtain ⟨v, hget, rfl⟩ := Option.map_eq_some_iff.mp hkey
    rw [Fields.valueOf, hget] at hcheck
    exact Or.inr ⟨v, hget, hcheck⟩

theorem record_eq_valid {α : Type} {check : Fields → Checked α} {v : Json} {a : α}
    (h : Scalar.record check v = .valid a) : ∃ fields, v = .obj fields ∧ check fields = .valid a := by
  cases v with
  | obj fields => exact ⟨fields, rfl, h⟩
  | null | bool b | int n | float x | str s | arr items => cases h

theorem list_eq_valid {α : Type} {check : Json → Checked α} {v : Json} {read : List α}
    (h : Scalar.list check v = .valid read) :
    ∃ items, v = .arr items ∧ List.Forall₂ (fun w a => check w = .valid a) items read := by
  cases v with
  | arr items => exact ⟨items, rfl, Checked.items_eq_valid h⟩
  | null | bool b | int n | float x | str s | obj fields => cases h

theorem map_eq_valid {α : Type} {check : Json → Checked α} {v : Json} {read : List (String × α)}
    (h : Scalar.map check v = .valid read) :
    ∃ fields, v = .obj fields ∧
      List.Forall₂ (fun p q => p.1 = q.1 ∧ check p.2 = .valid q.2) fields read := by
  cases v with
  | obj fields => exact ⟨fields, rfl, Checked.entries_eq_valid h⟩
  | null | bool b | int n | float x | str s | arr items => cases h

theorem optional_eq_valid {α : Type} {check : Json → Checked α} {v : Json} {read : Option α}
    (h : Scalar.optional check v = .valid read) :
    v = .null ∧ read = none ∨ ∃ a, read = some a ∧ check v = .valid a := by
  rw [Scalar.optional.eq_def] at h
  split at h
  · cases h
    exact Or.inl ⟨rfl, rfl⟩
  · cases hcheck : check v with
    | valid b =>
        rw [hcheck] at h
        cases h
        exact Or.inr ⟨b, rfl, rfl⟩
    | invalid issues =>
        rw [hcheck] at h
        cases h

section Extra

/-! A record that is read keeps what is left of its fields. -/

theorem Endpoint.extra_of_decode (fields : Fields) (e : Endpoint)
    (h : Endpoint.decode fields = .valid e) : e.extra = Field.others Field.backend fields := by
  obtain ⟨b, -, rfl⟩ := Checked.map_eq_valid.mp h
  rfl

theorem Api.extra_of_decode (fields : Fields) (a : Api) (h : Api.decode fields = .valid a) :
    a.extra = Field.others Field.api fields := by
  obtain ⟨g, slug, hg, -, rfl⟩ := Checked.seq_eq_valid.mp h
  obtain ⟨b, -, rfl⟩ := Checked.map_eq_valid.mp hg
  rfl

theorem Environment.extra_of_decode (fields : Fields) (e : Environment)
    (h : Environment.decode fields = .valid e) :
    e.extra = Field.others Field.environment fields := by
  simp only [Environment.decode, Checked.seq_eq_valid, Checked.map_eq_valid] at h
  obtain ⟨_, _, ⟨_, _, ⟨_, _, ⟨_, _, ⟨_, _, rfl⟩, _, rfl⟩, _, rfl⟩, _, rfl⟩, _, rfl⟩ := h
  rfl

theorem Host.extra_of_decode (fields : Fields) (a : Host) (h : Host.decode fields = .valid a) :
    a.extra = Field.others Field.host fields := by
  simp only [Host.decode, Checked.seq_eq_valid, Checked.map_eq_valid] at h
  obtain ⟨_, _, ⟨_, _, ⟨_, _, ⟨_, _, ⟨_, _, ⟨_, _, rfl⟩, _, rfl⟩, _, rfl⟩, _, rfl⟩, _, rfl⟩, _,
    rfl⟩ := h
  rfl

theorem WildcardProvider.extra_of_decode (fields : Fields) (p : WildcardProvider)
    (h : WildcardProvider.decode fields = .valid p) :
    p.extra = Field.others Field.wildcardProvider fields := by
  obtain ⟨g, domains, hg, -, rfl⟩ := Checked.seq_eq_valid.mp h
  obtain ⟨enabled, -, rfl⟩ := Checked.map_eq_valid.mp hg
  rfl

theorem Registry.extra_of_decode {doc : Fields} {r : Registry}
    (h : Registry.decode doc = .valid r) : r.extra = Field.others Field.registry doc := by
  obtain ⟨_, _, hg, -, rfl⟩ := Checked.seq_eq_valid.mp h
  simp only [Checked.seq_eq_valid, Checked.map_eq_valid] at hg
  obtain ⟨_, _, ⟨_, _, ⟨_, _, ⟨_, _, ⟨_, _, ⟨_, _, rfl⟩, _, rfl⟩, _, rfl⟩, _, rfl⟩, _, rfl⟩, _,
    rfl⟩ := hg
  rfl

end Extra

section Keeping

variable {P : Json → Prop} (hP : Json.Hereditary P) {Q : Requirement}
  (hQ : ∀ names fields, P (.obj fields) → Q names (Field.others names fields))

/-- The records of a list have a property if every record that is read has it. -/
theorem records_of_orElse (hP : Json.Hereditary P) {α : Type} {field : FieldName}
    {check : Fields → Checked α} {good : α → Prop}
    (hcheck : ∀ fields a, P (.obj fields) → check fields = .valid a → good a)
    {value read : List α} (hvalue : ∀ a ∈ value, good a) {fields : Fields}
    (hfields : P (.obj fields))
    (h : field.orElse (Scalar.list (Scalar.record check)) value fields = .valid read) :
    ∀ a ∈ read, good a := by
  rcases orElse_eq_valid h with ⟨-, rfl⟩ | ⟨key, -, hread⟩
  · exact hvalue
  · obtain ⟨items, hitems, hmatch⟩ := list_eq_valid hread
    have hvalues := hP.arr_iff.mp (hitems ▸ hP.valueOf hfields key)
    intro a ha
    obtain ⟨w, hw, hrecord⟩ := Checked.exists_of_forall₂ hmatch a ha
    obtain ⟨inner, rfl, hchecked⟩ := record_eq_valid hrecord
    exact hcheck inner a (hvalues _ hw) hchecked

include hQ

theorem Endpoint.keeping_of_decode (fields : Fields) (e : Endpoint) (hfields : P (.obj fields))
    (h : Endpoint.decode fields = .valid e) : e.Keeping Q := by
  rw [Keeping, extra_of_decode fields e h]
  exact hQ _ _ hfields

theorem Api.keeping_of_decode (fields : Fields) (a : Api) (hfields : P (.obj fields))
    (h : Api.decode fields = .valid a) : a.Keeping Q := by
  rw [Keeping, extra_of_decode fields a h]
  exact hQ _ _ hfields

theorem Environment.keeping_of_decode (fields : Fields) (e : Environment)
    (hfields : P (.obj fields)) (h : Environment.decode fields = .valid e) : e.Keeping Q := by
  rw [Keeping, extra_of_decode fields e h]
  exact hQ _ _ hfields

theorem Host.keeping_of_decode (fields : Fields) (a : Host) (hfields : P (.obj fields))
    (h : Host.decode fields = .valid a) : a.Keeping Q := by
  rw [Keeping, extra_of_decode fields a h]
  exact hQ _ _ hfields

theorem WildcardProvider.keeping_of_decode (fields : Fields) (p : WildcardProvider)
    (hfields : P (.obj fields)) (h : WildcardProvider.decode fields = .valid p) :
    p.Keeping Q := by
  rw [Keeping, extra_of_decode fields p h]
  exact hQ _ _ hfields

include hP

theorem EndpointSet.keeping_of_decode (fields : Fields) (s : EndpointSet)
    (hfields : P (.obj fields)) (h : EndpointSet.decode fields = .valid s) : s.Keeping Q := by
  obtain ⟨g, apis, hg, hapis, rfl⟩ := Checked.seq_eq_valid.mp h
  obtain ⟨frontend, hfrontend, rfl⟩ := Checked.map_eq_valid.mp hg
  refine ⟨?_, ?_, hQ _ _ hfields⟩
  · intro e he
    change frontend = some e at he
    rcases orElse_eq_valid hfrontend with ⟨-, rfl⟩ | ⟨key, -, hread⟩
    · cases he
    · rcases optional_eq_valid hread with ⟨-, rfl⟩ | ⟨e', rfl, hrecord⟩
      · cases he
      · cases he
        obtain ⟨inner, hinner, hchecked⟩ := record_eq_valid hrecord
        exact Endpoint.keeping_of_decode hQ inner e (hinner ▸ hP.valueOf hfields key) hchecked
  · exact records_of_orElse hP (Api.keeping_of_decode hQ) (by simp) hfields hapis

theorem Application.keeping_of_decode (fields : Fields) (a : Application)
    (hfields : P (.obj fields)) (h : Application.decode fields = .valid a) : a.Keeping Q := by
  obtain ⟨g, endpoints, hg, hendpoints, rfl⟩ := Checked.seq_eq_valid.mp h
  simp only [Checked.seq_eq_valid, Checked.map_eq_valid] at hg
  obtain ⟨_, _, ⟨_, _, ⟨_, _, ⟨_, _, ⟨_, _, rfl⟩, _, rfl⟩, _, rfl⟩, _, rfl⟩, _, rfl⟩ := hg
  have hmap : (endpoints.map Prod.fst).Nodup ∧ ∀ p ∈ endpoints, p.2.Keeping Q := by
    rcases orElse_eq_valid hendpoints with ⟨-, rfl⟩ | ⟨key, -, hread⟩
    · simp
    · obtain ⟨sets, hsets, hmatch⟩ := map_eq_valid hread
      have hvalues := hP.obj_iff.mp (hsets ▸ hP.valueOf hfields key)
      refine ⟨?_, ?_⟩
      · have hkeys : sets.map Prod.fst = endpoints.map Prod.fst :=
          List.forall₂_eq_eq_eq ▸ List.forall₂_map_left_iff.mpr
            (List.forall₂_map_right_iff.mpr (hmatch.imp fun _ _ h => h.1))
        exact hkeys ▸ hvalues.1
      · intro p hp
        obtain ⟨q, hq, -, hrecord⟩ := Checked.exists_of_forall₂ hmatch p hp
        obtain ⟨inner, hinner, hchecked⟩ := record_eq_valid hrecord
        exact EndpointSet.keeping_of_decode hP hQ inner p.2 (hinner ▸ hvalues.2 q hq) hchecked
  exact ⟨hmap.1, hmap.2, hQ _ _ hfields⟩

/-- What is read keeps only what is left of the fields of its records. -/
theorem Registry.keeping_of_decode (hnone : ∀ names, Q names []) {doc : Fields} {r : Registry}
    (hdoc : P (.obj doc)) (h : Registry.decode doc = .valid r) : r.Keeping Q := by
  simp only [Registry.decode, Checked.seq_eq_valid, Checked.map_eq_valid] at h
  obtain ⟨_, provider, ⟨_, hosts, ⟨_, applications, ⟨_, environments, ⟨_, _, ⟨_, _,
    ⟨_, -, rfl⟩, -, rfl⟩, -, rfl⟩, henvironments, rfl⟩, happlications, rfl⟩, hhosts, rfl⟩,
    hprovider, rfl⟩ := h
  refine ⟨?_, ?_, ?_, ?_, hQ _ _ hdoc⟩
  · exact records_of_orElse hP (Environment.keeping_of_decode hQ)
      (initial_keeping hnone).environments hdoc henvironments
  · exact records_of_orElse hP (Application.keeping_of_decode hP hQ) (by simp) hdoc happlications
  · exact records_of_orElse hP (Host.keeping_of_decode hQ) (by simp) hdoc hhosts
  · rcases orElse_eq_valid hprovider with ⟨-, rfl⟩ | ⟨key, -, hread⟩
    · exact hnone _
    · obtain ⟨inner, hinner, hchecked⟩ := record_eq_valid hread
      exact WildcardProvider.keeping_of_decode hQ inner _ (hinner ▸ hP.valueOf hdoc key) hchecked

end Keeping

/-- What is left of a document all of whose numbers are finite is stored as it is. -/
theorem lasting_others (names : List FieldName) {fields : Fields}
    (h : (Json.obj fields).Distinct ∧ (Json.obj fields).Finite) :
    Lasting names (Field.others names fields) :=
  (Json.hereditary_distinct_finite.drop h _).2.finiteFields_eq

namespace Registry

open Migration

theorem keys_others (names : List FieldName) {fields : Fields} {key : String}
    (h : key ∈ (Field.others names fields).keys) : key ∈ fields.keys := by
  rw [Field.others, Fields.keys_drop] at h
  exact List.mem_of_mem_filter h

/-- What is read from a document in the current layout is in the current layout. -/
theorem schemaVersion_of_decode {doc : Fields} {r : Registry} (hmarked : Marked doc)
    (h : Registry.decode doc = .valid r) : r.schemaVersion = currentSchema := by
  simp only [Registry.decode, Checked.seq_eq_valid, Checked.map_eq_valid] at h
  obtain ⟨_, _, ⟨_, _, ⟨_, _, ⟨_, _, ⟨_, _, ⟨_, _, ⟨schemaVersion, hschema, rfl⟩, _, rfl⟩, _, rfl⟩,
    _, rfl⟩, _, rfl⟩, _, rfl⟩, _, rfl⟩ := h
  have hread : Field.schemaVersion.orElse Scalar.integer currentSchema doc =
      .valid currentSchema := orElse_of_get? hmarked rfl
  rw [hread] at hschema
  cases hschema
  rfl

/-- What is read from a clean document in the current layout is well formed. -/
theorem wellFormed_of_decode {doc : Fields} {r : Registry} (hclean : Clean Json.Distinct doc)
    (hmarked : Marked doc) (h : Registry.decode doc = .valid r) : r.WellFormed := by
  have hkeeping : r.Keeping Beside := keeping_of_decode Json.hereditary_distinct
    (fun names fields => beside_others names) beside_nil hclean.values h
  refine wellFormed_iff.mpr ⟨schemaVersion_of_decode hmarked h, hkeeping, ?_⟩
  intro key hkey hmem
  rw [extra_of_decode h] at hmem
  exact hclean.deprecated key hkey (keys_others _ hmem)

end Registry

end EdgeProxy
