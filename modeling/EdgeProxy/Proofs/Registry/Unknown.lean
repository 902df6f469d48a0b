import EdgeProxy.Proofs.Registry.Supply
/-!
The unknown fields of a document: at every record, the fields that are left when the known ones are
taken, each with the keys and positions that lead to it.  A registry that is read keeps exactly the
unknown fields of its document, in their order and at their places; marking the entities leaves them as
they are, and a document of the current layout loses the keys of an earlier release at the top and no
other.
-/

namespace EdgeProxy

/-- Values, each with the keys and positions that lead to it. -/
abbrev Places := List (List String × Json)

namespace Places

/-- The fields of a record, each led to by its key. -/
def ofFields (fields : Fields) : Places := fields.map fun (k, v) => ([k], v)

/-- The places one level further out. -/
def under (step : String) (l : Places) : Places := l.map fun (place, v) => (step :: place, v)

/-- The places within what is given. -/
def ofOption {α : Type} (inner : α → Places) : Option α → Places
  | none => []
  | some a => inner a

/-- The places within every item of a list; an item's step is its position. -/
def items {α : Type} (inner : α → Places) (position : Nat) : List α → Places
  | [] => []
  | a :: rest => (inner a).under (Text.decimal position) ++ items inner (position + 1) rest

/-- The places within every value of a map; a value's step is its key. -/
def entries {α : Type} (inner : α → Places) (l : List (String × α)) : Places :=
  l.flatMap fun (k, a) => (inner a).under k

/-- The places with what is stored of their values. -/
def stored (l : Places) : Places := l.map fun (place, v) => (place, v.finiteOnly)

/-- The places but for fields at the top with the given keys. -/
def without (keys : List String) (l : Places) : Places :=
  l.filter fun (place, _) => !(keys.map fun key => [key]).contains place

end Places

/-! ## In a document -/

namespace Unknown

/-- The fields of a record that are left when the named ones are taken. -/
def own (names : List FieldName) (fields : Fields) : Places :=
  .ofFields (Field.others names fields)

def record (inner : Fields → Places) : Json → Places
  | .obj fields => inner fields
  | _ => []

def list (inner : Json → Places) : Json → Places
  | .arr items => .items inner 0 items
  | _ => []

def map (inner : Json → Places) : Json → Places
  | .obj fields => .entries inner fields
  | _ => []

/-- The unknown fields within the value of a key. -/
def within (key : String) (inner : Json → Places) (fields : Fields) : Places :=
  match fields.get? key with
  | none => []
  | some v => (inner v).under key

/-- The unknown fields of the endpoints of one environment. -/
def endpointSet (fields : Fields) : Places :=
  within Field.frontend.name (record (own Field.backend)) fields ++
    within Field.apis.name (list (record (own Field.api))) fields ++ own Field.endpointSet fields

def application (fields : Fields) : Places :=
  within Field.endpoints.name (map (record endpointSet)) fields ++ own Field.application fields

def registry (doc : Fields) : Places :=
  within Field.environments.name (list (record (own Field.environment))) doc ++
    within Field.applications.name (list (record application)) doc ++
    within Field.hosts.name (list (record (own Field.host))) doc ++
    within Field.provider.name (record (own Field.wildcardProvider)) doc ++ own Field.registry doc

end Unknown

/-! ## In a registry -/

def Endpoint.unknown (e : Endpoint) : Places := .ofFields e.extra

/-- What the endpoint keeps. -/
def Api.unknown (a : Api) : Places := .ofFields a.extra

def EndpointSet.unknown (s : EndpointSet) : Places :=
  (Places.ofOption Endpoint.unknown s.frontend).under Field.frontend.name ++
    (Places.items Api.unknown 0 s.apis).under Field.apis.name ++ .ofFields s.extra

def Environment.unknown (e : Environment) : Places := .ofFields e.extra

def Application.unknown (a : Application) : Places :=
  (Places.entries EndpointSet.unknown a.endpoints).under Field.endpoints.name ++ .ofFields a.extra

def Host.unknown (h : Host) : Places := .ofFields h.extra

def WildcardProvider.unknown (p : WildcardProvider) : Places := .ofFields p.extra

def Registry.unknown (r : Registry) : Places :=
  (Places.items Environment.unknown 0 r.environments).under Field.environments.name ++
    (Places.items Application.unknown 0 r.applications).under Field.applications.name ++
    (Places.items Host.unknown 0 r.hosts).under Field.hosts.name ++
    r.provider.unknown.under Field.provider.name ++ .ofFields r.extra

/-! ## What is read -/

namespace Places

theorem items_congr {α β : Type} {R : α → β → Prop} {inner : α → Places} {inner' : β → Places}
    (hinner : ∀ a b, R a b → inner a = inner' b) {l : List α} {l' : List β}
    (h : List.Forall₂ R l l') (position : Nat) : items inner position l = items inner' position l' := by
  induction h generalizing position with
  | nil => rfl
  | cons hab hrest ih => rw [items, items, hinner _ _ hab, ih]

theorem entries_congr {α β : Type} {R : α → β → Prop} {inner : α → Places} {inner' : β → Places}
    (hinner : ∀ a b, R a b → inner a = inner' b) {l : List (String × α)} {l' : List (String × β)}
    (h : List.Forall₂ (fun p q => p.1 = q.1 ∧ R p.2 q.2) l l') :
    entries inner l = entries inner' l' := by
  induction h with
  | nil => rfl
  | @cons p q rest rest' hpq hrest ih =>
      obtain ⟨hkey, hvalue⟩ := hpq
      simp only [entries, List.flatMap_cons] at ih ⊢
      rw [hinner _ _ hvalue, hkey, ih]

end Places

namespace Unknown

theorem record_of_valid {α : Type} {check : Fields → Checked α} {inner : Fields → Places}
    {inner' : α → Places} (hinner : ∀ fields a, check fields = .valid a → inner fields = inner' a)
    (v : Json) (a : α) (h : Scalar.record check v = .valid a) : record inner v = inner' a := by
  obtain ⟨fields, rfl, hcheck⟩ := record_eq_valid h
  exact hinner fields a hcheck

theorem list_of_valid {α : Type} {check : Json → Checked α} {inner : Json → Places}
    {inner' : α → Places} (hinner : ∀ v a, check v = .valid a → inner v = inner' a) (v : Json)
    (read : List α) (h : Scalar.list check v = .valid read) :
    list inner v = .items inner' 0 read := by
  obtain ⟨items, rfl, hmatch⟩ := list_eq_valid h
  exact Places.items_congr hinner hmatch 0

theorem map_of_valid {α : Type} {check : Json → Checked α} {inner : Json → Places}
    {inner' : α → Places} (hinner : ∀ v a, check v = .valid a → inner v = inner' a) (v : Json)
    (read : List (String × α)) (h : Scalar.map check v = .valid read) :
    map inner v = .entries inner' read := by
  obtain ⟨fields, rfl, hmatch⟩ := map_eq_valid h
  exact Places.entries_congr hinner hmatch

theorem optional_of_valid {α : Type} {check : Fields → Checked α} {inner : Fields → Places}
    {inner' : α → Places} (hinner : ∀ fields a, check fields = .valid a → inner fields = inner' a)
    (v : Json) (read : Option α) (h : Scalar.optional (Scalar.record check) v = .valid read) :
    record inner v = .ofOption inner' read := by
  rcases optional_eq_valid h with ⟨rfl, rfl⟩ | ⟨a, rfl, hrecord⟩
  · rfl
  · exact record_of_valid hinner v a hrecord

/-- A field with one spelling that is read has the unknown fields of its value, or of the value for when
it is not given. -/
theorem within_of_valid {α : Type} {field : FieldName} (hfield : field = .word field.name)
    {check : Json → Checked α} {inner : Json → Places} {inner' : α → Places}
    (hinner : ∀ v a, check v = .valid a → inner v = inner' a) {value a : α}
    (hvalue : inner' value = []) {fields : Fields}
    (h : field.orElse check value fields = .valid a) :
    within field.name inner fields = (inner' a).under field.name := by
  rw [hfield] at h
  rcases orElse_word_eq_valid h with ⟨hget, rfl⟩ | ⟨v, hget, hcheck⟩
  · simp only [within, hget, hvalue]
    rfl
  · simp only [within, hget, hinner v a hcheck]

end Unknown

section Decode

/-! Every record keeps the unknown fields that it was read from. -/

theorem Endpoint.unknown_of_decode (fields : Fields) (e : Endpoint)
    (h : Endpoint.decode fields = .valid e) : Unknown.own Field.backend fields = e.unknown :=
  congrArg Places.ofFields (extra_of_decode fields e h).symm

theorem Api.unknown_of_decode (fields : Fields) (a : Api) (h : Api.decode fields = .valid a) :
    Unknown.own Field.api fields = a.unknown :=
  congrArg Places.ofFields (extra_of_decode fields a h).symm

theorem Environment.unknown_of_decode (fields : Fields) (e : Environment)
    (h : Environment.decode fields = .valid e) :
    Unknown.own Field.environment fields = e.unknown :=
  congrArg Places.ofFields (extra_of_decode fields e h).symm

theorem Host.unknown_of_decode (fields : Fields) (a : Host) (h : Host.decode fields = .valid a) :
    Unknown.own Field.host fields = a.unknown :=
  congrArg Places.ofFields (extra_of_decode fields a h).symm

theorem WildcardProvider.unknown_of_decode (fields : Fields) (p : WildcardProvider)
    (h : WildcardProvider.decode fields = .valid p) :
    Unknown.own Field.wildcardProvider fields = p.unknown :=
  congrArg Places.ofFields (extra_of_decode fields p h).symm

theorem EndpointSet.unknown_of_decode (fields : Fields) (s : EndpointSet)
    (h : EndpointSet.decode fields = .valid s) : Unknown.endpointSet fields = s.unknown := by
  obtain ⟨g, apis, hg, hapis, rfl⟩ := Checked.seq_eq_valid.mp h
  obtain ⟨frontend, hfrontend, rfl⟩ := Checked.map_eq_valid.mp hg
  rw [Unknown.endpointSet,
    Unknown.within_of_valid rfl (Unknown.optional_of_valid Endpoint.unknown_of_decode) rfl
      hfrontend,
    Unknown.within_of_valid rfl
      (Unknown.list_of_valid (Unknown.record_of_valid Api.unknown_of_decode)) rfl hapis]
  rfl

theorem Application.unknown_of_decode (fields : Fields) (a : Application)
    (h : Application.decode fields = .valid a) : Unknown.application fields = a.unknown := by
  obtain ⟨g, endpoints, hg, hendpoints, rfl⟩ := Checked.seq_eq_valid.mp h
  simp only [Checked.seq_eq_valid, Checked.map_eq_valid] at hg
  obtain ⟨_, _, ⟨_, _, ⟨_, _, ⟨_, _, ⟨_, _, rfl⟩, _, rfl⟩, _, rfl⟩, _, rfl⟩, _, rfl⟩ := hg
  rw [Unknown.application, Unknown.within_of_valid rfl
    (Unknown.map_of_valid (Unknown.record_of_valid EndpointSet.unknown_of_decode)) rfl hendpoints]
  rfl

/-- A registry keeps the unknown fields of the document that it was read from. -/
theorem Registry.unknown_of_decode {doc : Fields} {r : Registry}
    (h : Registry.decode doc = .valid r) : Unknown.registry doc = r.unknown := by
  simp only [Registry.decode, Checked.seq_eq_valid, Checked.map_eq_valid] at h
  obtain ⟨_, provider, ⟨_, hosts, ⟨_, applications, ⟨_, environments, ⟨_, _, ⟨_, _,
    ⟨_, -, rfl⟩, -, rfl⟩, -, rfl⟩, henvironments, rfl⟩, happlications, rfl⟩, hhosts, rfl⟩,
    hprovider, rfl⟩ := h
  rw [Unknown.registry,
    Unknown.within_of_valid rfl
      (Unknown.list_of_valid (Unknown.record_of_valid Environment.unknown_of_decode)) rfl
      henvironments,
    Unknown.within_of_valid rfl
      (Unknown.list_of_valid (Unknown.record_of_valid Application.unknown_of_decode)) rfl
      happlications,
    Unknown.within_of_valid rfl
      (Unknown.list_of_valid (Unknown.record_of_valid Host.unknown_of_decode)) rfl hhosts,
    Unknown.within_of_valid rfl (Unknown.record_of_valid WildcardProvider.unknown_of_decode) rfl
      hprovider]
  rfl

end Decode

/-! ## What is stored -/

namespace Places

@[simp] theorem stored_append (a b : Places) : (a ++ b).stored = a.stored ++ b.stored :=
  List.map_append

@[simp] theorem stored_under (step : String) (l : Places) :
    (l.under step).stored = l.stored.under step := by
  simp only [stored, under, List.map_map, Function.comp_def]

theorem ofFields_kept (extra : Fields) : ofFields (kept extra) = (ofFields extra).stored := by
  induction extra with
  | nil => rfl
  | cons p rest ih =>
      obtain ⟨k, v⟩ := p
      exact congrArg (([k], v.finiteOnly) :: ·) ih

theorem items_stored {α : Type} {inner : α → Places} {f : α → α}
    (h : ∀ a, inner (f a) = (inner a).stored) (position : Nat) (l : List α) :
    items inner position (l.map f) = (items inner position l).stored := by
  induction l generalizing position with
  | nil => rfl
  | cons a rest ih => rw [List.map_cons, items, items, h, ih, stored_append, stored_under]

theorem entries_stored {α : Type} {inner : α → Places} {f : α → α}
    (h : ∀ a, inner (f a) = (inner a).stored) (l : List (String × α)) :
    entries inner (l.map fun (k, a) => (k, f a)) = (entries inner l).stored := by
  induction l with
  | nil => rfl
  | cons p rest ih =>
      obtain ⟨k, a⟩ := p
      simp only [entries, List.map_cons, List.flatMap_cons, stored_append, stored_under] at ih ⊢
      rw [h, ih]

end Places

theorem Endpoint.unknown_stored (e : Endpoint) : e.stored.unknown = e.unknown.stored :=
  Places.ofFields_kept e.extra

theorem Api.unknown_stored (a : Api) : a.stored.unknown = a.unknown.stored :=
  Places.ofFields_kept a.extra

theorem EndpointSet.unknown_stored (s : EndpointSet) : s.stored.unknown = s.unknown.stored := by
  have hfrontend : Places.ofOption Endpoint.unknown (s.frontend.map Endpoint.stored) =
      (Places.ofOption Endpoint.unknown s.frontend).stored := by
    cases s.frontend with
    | none => rfl
    | some e => exact e.unknown_stored
  have hapis := Places.items_stored Api.unknown_stored 0 s.apis
  simp only [unknown, stored, hfrontend, hapis, Places.ofFields_kept, Places.stored_append,
    Places.stored_under]

theorem Environment.unknown_stored (e : Environment) : e.stored.unknown = e.unknown.stored :=
  Places.ofFields_kept e.extra

theorem Application.unknown_stored (a : Application) : a.stored.unknown = a.unknown.stored := by
  have hendpoints := Places.entries_stored EndpointSet.unknown_stored a.endpoints
  simp only [unknown, stored, hendpoints, Places.ofFields_kept, Places.stored_append,
    Places.stored_under]

theorem Host.unknown_stored (h : Host) : h.stored.unknown = h.unknown.stored :=
  Places.ofFields_kept h.extra

theorem WildcardProvider.unknown_stored (p : WildcardProvider) :
    p.stored.unknown = p.unknown.stored :=
  Places.ofFields_kept p.extra

/-- What is stored of a registry is what is stored of everything that it keeps. -/
theorem Registry.unknown_stored (r : Registry) : r.stored.unknown = r.unknown.stored := by
  have henvironments := Places.items_stored Environment.unknown_stored 0 r.environments
  have happlications := Places.items_stored Application.unknown_stored 0 r.applications
  have hhosts := Places.items_stored Host.unknown_stored 0 r.hosts
  simp only [unknown, stored, henvironments, happlications, hhosts,
    WildcardProvider.unknown_stored, Places.ofFields_kept, Places.stored_append,
    Places.stored_under]

/-! ## Marking the entities -/

instance : DecidableEq FieldName := fun a b =>
  decidable_of_iff (a.name = b.name ∧ a.underscored = b.underscored) (by cases a; cases b; simp)

/-- The value of another field has no part in how a field is spelled. -/
theorem spelling?_set_of_ne {field : FieldName} {key : String} (hname : field.name ≠ key)
    (hunderscored : field.underscored ≠ key) (fields : Fields) (v : Json) :
    field.spelling? (fields.set key v) = field.spelling? fields :=
  spelling?_congr (Fields.get?_set_of_ne hname fields v)
    (Fields.get?_set_of_ne hunderscored fields v)

namespace Unknown

theorem within_set_of_ne {key other : String} (h : key ≠ other) (inner : Json → Places)
    (fields : Fields) (v : Json) :
    within key inner (fields.set other v) = within key inner fields := by
  rw [within, within, Fields.get?_set_of_ne h]

/-- A known field that is not given can be given: what is left of the fields stays as it is. -/
theorem own_set_of_none {names : List FieldName} {field : FieldName} (hmem : field ∈ names)
    (hother : ∀ g ∈ names, g = field ∨ g.name ≠ field.name ∧ g.underscored ≠ field.name)
    {fields : Fields} (hnone : field.spelling? fields = none) (v : Json) :
    own names (fields.set field.name v) = own names fields := by
  have habsent : field.name ∉ fields.keys := by
    intro hin
    obtain ⟨w, hw⟩ := Option.ne_none_iff_exists'.mp (mt Fields.get?_eq_none_iff.mp (not_not.mpr hin))
    rw [spelling?_of_get? hw] at hnone
    cases hnone
  have htaken : field.name ∈ names.filterMap (·.spelling? (fields.set field.name v)) :=
    List.mem_filterMap.mpr ⟨field, hmem, spelling?_of_get? (Fields.get?_set_self _ _ _)⟩
  rw [own, own, Field.others, Field.others, Fields.drop_set htaken]
  congr 1
  apply Fields.drop_congr
  intro k hk
  have hne : field.name ≠ k := fun h => habsent (h ▸ hk)
  rw [List.mem_filterMap, List.mem_filterMap]
  refine exists_congr fun g => and_congr_right fun hg => ?_
  rcases hother g hg with rfl | ⟨hname, hunderscored⟩
  · rw [hnone, spelling?_of_get? (Fields.get?_set_self _ _ _)]
    simp [hne]
  · rw [spelling?_set_of_ne hname hunderscored]

/-- A known field that is given can be given another value. -/
theorem own_set_of_mem {names : List FieldName} {field : FieldName} (hmem : field ∈ names)
    {fields : Fields} {w : Json} (hget : fields.get? field.name = some w) (v : Json) :
    own names (fields.set field.name v) = own names fields := by
  have hhas : ∀ key, (fields.set field.name v).has key = fields.has key := by
    intro key
    by_cases hkey : key = field.name
    · rw [Fields.has, Fields.has, hkey, Fields.get?_set_self, hget]
      rfl
    · rw [Fields.has, Fields.has, Fields.get?_set_of_ne hkey]
  have hspelling : ∀ g : FieldName, g.spelling? (fields.set field.name v) = g.spelling? fields := by
    intro g
    rw [FieldName.spelling?, FieldName.spelling?, hhas, hhas]
  have htaken : field.name ∈ names.filterMap (·.spelling? fields) :=
    List.mem_filterMap.mpr ⟨field, hmem, spelling?_of_get? hget⟩
  simp only [own, Field.others, hspelling, Fields.drop_set htaken]

/-- Marking an entity leaves its unknown fields as they are, if giving it an identifier or a time of
creation that it lacks does. -/
theorem markEntity_of_set {inner : Fields → Places}
    (hid : ∀ fields v, Field.id.spelling? fields = none →
      inner (fields.set Field.id.name v) = inner fields)
    (hcreatedAt : ∀ fields v, Field.createdAt.spelling? fields = none →
      inner (fields.set Field.createdAt.name v) = inner fields)
    (supply : Supply) (fields : Fields) :
    inner (Registry.markEntity supply fields).1 = inner fields := by
  rw [Registry.markEntity]
  cases hidKey : Field.id.spelling? fields with
  | some key =>
      dsimp only
      split
      · rfl
      next hcreated => exact hcreatedAt _ _ hcreated
  | none =>
      dsimp only
      split
      · exact hid _ _ hidKey
      next hcreated => rw [hcreatedAt _ _ hcreated, hid _ _ hidKey]

theorem host_markEntity (supply : Supply) (fields : Fields) :
    own Field.host (Registry.markEntity supply fields).1 = own Field.host fields := by
  apply markEntity_of_set
  · exact fun fields v hnone => own_set_of_none (by decide) (by decide) hnone v
  · exact fun fields v hnone => own_set_of_none (by decide) (by decide) hnone v

theorem application_markEntity (supply : Supply) (fields : Fields) :
    application (Registry.markEntity supply fields).1 = application fields := by
  apply markEntity_of_set
  · intro fields v hnone
    rw [application, application, within_set_of_ne (by decide),
      own_set_of_none (by decide) (by decide) hnone]
  · intro fields v hnone
    rw [application, application, within_set_of_ne (by decide),
      own_set_of_none (by decide) (by decide) hnone]

theorem items_markEntities {inner : Fields → Places}
    (hinner : ∀ supply fields, inner (Registry.markEntity supply fields).1 = inner fields)
    (supply : Supply) (position : Nat) (items : List Json) :
    Places.items (record inner) position (Registry.markEntities supply items).1 =
      Places.items (record inner) position items := by
  induction items generalizing supply position with
  | nil => rfl
  | cons v rest ih =>
      cases v with
      | obj fields => simp only [Registry.markEntities, Places.items, record, hinner, ih]
      | null | bool b | int n | float x | str s | arr items =>
          simp only [Registry.markEntities, Places.items, ih]

theorem within_markUnder {inner : Fields → Places}
    (hinner : ∀ supply fields, inner (Registry.markEntity supply fields).1 = inner fields)
    (key : String) (supply : Supply) (doc : Fields) :
    within key (list (record inner)) (Registry.markUnder key supply doc).1 =
      within key (list (record inner)) doc := by
  rw [Registry.markUnder]
  split
  next items hget =>
    simp only [within, Fields.get?_set_self, hget, list, items_markEntities hinner]
  · rfl

theorem within_markUnder_of_ne {key other : String} (h : key ≠ other) (inner : Json → Places)
    (supply : Supply) (doc : Fields) :
    within key inner (Registry.markUnder other supply doc).1 = within key inner doc := by
  rw [within, within, Registry.get?_markUnder_of_ne h]

theorem own_markUnder {names : List FieldName} {field : FieldName} (hmem : field ∈ names)
    (supply : Supply) (doc : Fields) :
    own names (Registry.markUnder field.name supply doc).1 = own names doc := by
  rw [Registry.markUnder]
  split
  next items hget => exact own_set_of_mem hmem hget _
  · rfl

/-- Marking the entities of a document leaves its unknown fields as they are. -/
theorem registry_mark (supply : Supply) (doc : Fields) :
    registry (Registry.mark supply doc).1 = registry doc := by
  simp only [registry, Registry.mark]
  rw [own_markUnder (by decide), own_markUnder (by decide),
    within_markUnder host_markEntity, within_markUnder_of_ne (by decide),
    within_markUnder_of_ne (by decide), within_markUnder_of_ne (by decide),
    within_markUnder application_markEntity, within_markUnder_of_ne (by decide),
    within_markUnder_of_ne (by decide), within_markUnder_of_ne (by decide)]

end Unknown

/-! ## Keys of an earlier release -/

namespace Places

@[simp] theorem without_append (keys : List String) (a b : Places) :
    (a ++ b).without keys = a.without keys ++ b.without keys :=
  List.filter_append ..

/-- What is led to by another key stays. -/
theorem without_under {keys : List String} {step : String} (h : step ∉ keys) (l : Places) :
    (l.under step).without keys = l.under step := by
  rw [without, List.filter_eq_self]
  intro p hp
  obtain ⟨q, -, rfl⟩ := List.mem_map.mp hp
  simp [h]

theorem ofFields_drop (fields : Fields) (keys : List String) :
    ofFields (fields.drop keys) = (ofFields fields).without keys := by
  rw [ofFields, ofFields, without, Fields.drop, List.filter_map]
  congr 1
  apply List.filter_congr
  intro p hp
  simp

end Places

namespace Unknown

theorem within_drop {keys : List String} {key : String} (h : key ∉ keys) (inner : Json → Places)
    (doc : Fields) : within key inner (doc.drop keys) = (within key inner doc).without keys := by
  rw [within, within, Fields.get?_drop h]
  cases doc.get? key with
  | none => rfl
  | some v => exact (Places.without_under h _).symm

/-- Of what is left of the fields, what is left without keys that are not known. -/
theorem own_drop {names : List FieldName} {keys : List String}
    (h : ∀ g ∈ names, g.name ∉ keys ∧ g.underscored ∉ keys) (fields : Fields) :
    own names (fields.drop keys) = (own names fields).without keys := by
  have hspelling : names.filterMap (·.spelling? (fields.drop keys)) =
      names.filterMap (·.spelling? fields) := by
    apply List.filterMap_congr
    intro g hg
    exact spelling?_congr (Fields.get?_drop (h g hg).1 fields) (Fields.get?_drop (h g hg).2 fields)
  rw [own, own, Field.others, Field.others, hspelling, Fields.drop_drop, Places.ofFields_drop]

/-- A document without the keys of an earlier release has the same unknown fields but for these. -/
theorem registry_stripDeprecated (doc : Fields) :
    registry (Migration.stripDeprecated doc) = (registry doc).without Migration.deprecatedKeys := by
  simp only [registry, Migration.stripDeprecated, Places.without_append]
  rw [own_drop (by decide), within_drop (by decide), within_drop (by decide),
    within_drop (by decide), within_drop (by decide)]

end Unknown

end EdgeProxy
