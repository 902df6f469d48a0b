import EdgeProxy.Proofs.Registry.Mark
import EdgeProxy.Proofs.Registry.Outline
/-!
The supply of identifiers has no part in whether a document is read.  Two readings of one document
differ at most in the identifiers and times of creation that the document lacks, so they have one version and one outline.
-/

namespace EdgeProxy

/-- The value of a field is read alike from fields that agree on its two spellings. -/
theorem spelling?_congr {field : FieldName} {fields fields' : Fields}
    (hname : fields.get? field.name = fields'.get? field.name)
    (hunderscored : fields.get? field.underscored = fields'.get? field.underscored) :
    field.spelling? fields = field.spelling? fields' := by
  unfold FieldName.spelling? Fields.has
  rw [hname, hunderscored]

theorem get?_spelling?_congr {field : FieldName} {fields fields' : Fields}
    (hname : fields.get? field.name = fields'.get? field.name)
    (hunderscored : fields.get? field.underscored = fields'.get? field.underscored) {key : String}
    (h : field.spelling? fields = some key) : fields.valueOf key = fields'.valueOf key := by
  have hkey : key = field.name ∨ key = field.underscored := by
    rw [FieldName.spelling?] at h
    split at h
    · cases h
      exact Or.inl rfl
    · split at h
      · cases h
        exact Or.inr rfl
      · cases h
  rcases hkey with rfl | rfl
  · rw [Fields.valueOf, Fields.valueOf, hname]
  · rw [Fields.valueOf, Fields.valueOf, hunderscored]

theorem required_congr {α : Type} {field : FieldName} {check : Json → Checked α}
    {fields fields' : Fields} (hname : fields.get? field.name = fields'.get? field.name)
    (hunderscored : fields.get? field.underscored = fields'.get? field.underscored) :
    field.required check fields = field.required check fields' := by
  have hspelling := spelling?_congr hname hunderscored
  rw [FieldName.required, FieldName.required, ← hspelling]
  cases hkey : field.spelling? fields with
  | none => rfl
  | some key => simp only [get?_spelling?_congr hname hunderscored hkey]

theorem orElse_congr {α : Type} {field : FieldName} {check : Json → Checked α} {value : α}
    {fields fields' : Fields} (hname : fields.get? field.name = fields'.get? field.name)
    (hunderscored : fields.get? field.underscored = fields'.get? field.underscored) :
    field.orElse check value fields = field.orElse check value fields' := by
  have hspelling := spelling?_congr hname hunderscored
  rw [FieldName.orElse, FieldName.orElse, ← hspelling]
  cases hkey : field.spelling? fields with
  | none => rfl
  | some key => simp only [get?_spelling?_congr hname hunderscored hkey]

theorem backend_congr {fields fields' : Fields}
    (h : ∀ field ∈ Field.backend, fields.get? field.name = fields'.get? field.name ∧
      fields.get? field.underscored = fields'.get? field.underscored) :
    Backend.decode fields = Backend.decode fields' := by
  simp only [Field.backend, List.forall_mem_cons] at h
  obtain ⟨hhost, hport, hlocal, hauth, -⟩ := h
  rw [Backend.decode, Backend.decode, required_congr hhost.1 hhost.2,
    required_congr hport.1 hport.2, orElse_congr hlocal.1 hlocal.2, orElse_congr hauth.1 hauth.2]

namespace Registry

theorem get?_markEntity (supply : Supply) (fields : Fields) {key : String} (hid : key ≠ "id")
    (hcreated : key ≠ "createdAt") : (markEntity supply fields).1.get? key = fields.get? key := by
  have hset : ∀ fields : Fields, ∀ v, (fields.set Field.id.name v).get? key = fields.get? key :=
    fun fields v => Fields.get?_set_of_ne hid fields v
  have hset' : ∀ fields : Fields, ∀ v,
      (fields.set Field.createdAt.name v).get? key = fields.get? key :=
    fun fields v => Fields.get?_set_of_ne hcreated fields v
  rw [markEntity]
  cases Field.id.spelling? fields with
  | some _ =>
      dsimp only
      split
      · rfl
      · exact hset' _ _
  | none =>
      dsimp only
      split
      · exact hset _ _
      · rw [hset', hset]

/-- Whether an identifier is read after marking does not depend on the supply. -/
theorem required_id_markEntity (supply : Supply) (fields : Fields) :
    (∃ id, Field.id.required Scalar.text (markEntity supply fields).1 = .valid id) ↔
      Field.id.spelling? fields = none ∨ ∃ id, Field.id.required Scalar.text fields = .valid id := by
  have hset : ∀ fields : Fields, ∀ v,
      (fields.set Field.createdAt.name v).get? Field.id.name = fields.get? Field.id.name :=
    fun fields v => Fields.get?_set_of_ne (by decide) fields v
  cases hid : Field.id.spelling? fields with
  | some key =>
      have hget : (markEntity supply fields).1.get? Field.id.name = fields.get? Field.id.name := by
        simp only [markEntity, hid]
        split
        · rfl
        · exact hset _ _
      rw [required_congr hget hget]
      simp
  | none =>
      have hget : (markEntity supply fields).1.get? Field.id.name = some (.str supply.draw.1) := by
        simp only [markEntity, hid]
        split
        · exact Fields.get?_set_self _ _ _
        · rw [hset]
          exact Fields.get?_set_self _ _ _
      simp only [true_or, iff_true]
      exact ⟨_, required_of_get? hget rfl⟩

/-- Whether a time of creation is read after marking does not depend on the supply. -/
theorem required_createdAt_markEntity (supply : Supply) (fields : Fields) :
    (∃ time, Field.createdAt.required Scalar.text (markEntity supply fields).1 = .valid time) ↔
      Field.createdAt.spelling? fields = none ∨
        ∃ time, Field.createdAt.required Scalar.text fields = .valid time := by
  have hname : ∀ fields : Fields, ∀ v,
      (fields.set Field.id.name v).get? Field.createdAt.name =
        fields.get? Field.createdAt.name :=
    fun fields v => Fields.get?_set_of_ne (by decide) fields v
  have hunderscored : ∀ fields : Fields, ∀ v,
      (fields.set Field.id.name v).get? Field.createdAt.underscored =
        fields.get? Field.createdAt.underscored :=
    fun fields v => Fields.get?_set_of_ne (by decide) fields v
  have hspelling : ∀ fields : Fields, ∀ v,
      Field.createdAt.spelling? (fields.set Field.id.name v) = Field.createdAt.spelling? fields :=
    fun fields v => spelling?_congr (hname fields v) (hunderscored fields v)
  have hrequired : ∀ fields : Fields, ∀ v,
      Field.createdAt.required Scalar.text (fields.set Field.id.name v) =
        Field.createdAt.required Scalar.text fields :=
    fun fields v => required_congr (hname fields v) (hunderscored fields v)
  cases hcreated : Field.createdAt.spelling? fields with
  | some key =>
      have hsame : Field.createdAt.required Scalar.text (markEntity supply fields).1 =
          Field.createdAt.required Scalar.text fields := by
        rw [markEntity]
        cases Field.id.spelling? fields with
        | some _ => simp only [hcreated]
        | none => simp only [hspelling, hcreated, hrequired]
      rw [hsame]
      simp
  | none =>
      have hget : (markEntity supply fields).1.get? Field.createdAt.name =
          some (.str supply.timestamp) := by
        rw [markEntity]
        cases Field.id.spelling? fields with
        | some _ =>
            simp only [hcreated]
            exact Fields.get?_set_self _ _ _
        | none =>
            simp only [hspelling, hcreated]
            exact Fields.get?_set_self _ _ _
      simp only [true_or, iff_true]
      exact ⟨_, required_of_get? hget rfl⟩

theorem decode_application_markEntity (supply supply' : Supply) (fields : Fields) {a : Application}
    (h : Application.decode (markEntity supply fields).1 = .valid a) :
    ∃ a', Application.decode (markEntity supply' fields).1 = .valid a' ∧
      a'.outline = a.outline := by
  simp only [Application.decode, Checked.seq_eq_valid, Checked.map_eq_valid] at h
  obtain ⟨_, endpoints, ⟨_, createdAt, ⟨_, enabled, ⟨_, slug, ⟨_, name, ⟨id, hid, rfl⟩, hname, rfl⟩,
    hslug, rfl⟩, henabled, rfl⟩, hcreated, rfl⟩, hendpoints, rfl⟩ := h
  obtain ⟨id', hid'⟩ := (required_id_markEntity supply' fields).mpr
    ((required_id_markEntity supply fields).mp ⟨id, hid⟩)
  obtain ⟨createdAt', hcreated'⟩ := (required_createdAt_markEntity supply' fields).mpr
    ((required_createdAt_markEntity supply fields).mp ⟨createdAt, hcreated⟩)
  have hget : ∀ key, key ≠ "id" → key ≠ "createdAt" →
      (markEntity supply fields).1.get? key = (markEntity supply' fields).1.get? key :=
    fun key h h' => (get?_markEntity supply fields h h').trans
      (get?_markEntity supply' fields h h').symm
  rw [orElse_congr (hget "name" (by decide) (by decide)) (hget _ (by decide) (by decide))]
    at hname
  rw [required_congr (hget "slug" (by decide) (by decide)) (hget _ (by decide) (by decide))]
    at hslug
  rw [orElse_congr (hget "enabled" (by decide) (by decide)) (hget _ (by decide) (by decide))]
    at henabled
  rw [orElse_congr (hget "endpoints" (by decide) (by decide)) (hget _ (by decide) (by decide))]
    at hendpoints
  refine ⟨⟨id', name, slug, enabled, createdAt', endpoints,
    Field.others Field.application (markEntity supply' fields).1⟩, ?_, rfl⟩
  rw [Application.decode, hid', hname, hslug, henabled, hcreated', hendpoints]
  rfl

theorem decode_host_markEntity (supply supply' : Supply) (fields : Fields) {a : Host}
    (h : Host.decode (markEntity supply fields).1 = .valid a) :
    ∃ a', Host.decode (markEntity supply' fields).1 = .valid a' ∧ a'.outline = a.outline := by
  simp only [Host.decode, Checked.seq_eq_valid, Checked.map_eq_valid] at h
  obtain ⟨_, createdAt, ⟨_, enabled, ⟨_, backend, ⟨_, customDomain, ⟨_, subdomain, ⟨id, hid, rfl⟩,
    hsubdomain, rfl⟩, hcustom, rfl⟩, hbackend, rfl⟩, henabled, rfl⟩, hcreated, rfl⟩ := h
  obtain ⟨id', hid'⟩ := (required_id_markEntity supply' fields).mpr
    ((required_id_markEntity supply fields).mp ⟨id, hid⟩)
  obtain ⟨createdAt', hcreated'⟩ := (required_createdAt_markEntity supply' fields).mpr
    ((required_createdAt_markEntity supply fields).mp ⟨createdAt, hcreated⟩)
  have hget : ∀ key, key ≠ "id" → key ≠ "createdAt" →
      (markEntity supply fields).1.get? key = (markEntity supply' fields).1.get? key :=
    fun key h h' => (get?_markEntity supply fields h h').trans
      (get?_markEntity supply' fields h h').symm
  rw [orElse_congr (hget "subdomain" (by decide) (by decide)) (hget _ (by decide) (by decide))]
    at hsubdomain
  rw [orElse_congr (hget "customDomain" (by decide) (by decide))
    (hget "custom_domain" (by decide) (by decide))] at hcustom
  rw [orElse_congr (hget "enabled" (by decide) (by decide)) (hget _ (by decide) (by decide))]
    at henabled
  have hsame : Backend.decode (markEntity supply fields).1 =
      Backend.decode (markEntity supply' fields).1 := by
    apply backend_congr
    intro field hfield
    have hnames : ∀ field ∈ Field.backend, (field.name ≠ "id" ∧ field.name ≠ "createdAt") ∧
        field.underscored ≠ "id" ∧ field.underscored ≠ "createdAt" := by decide
    obtain ⟨⟨hid, hcreated⟩, hid', hcreated'⟩ := hnames field hfield
    exact ⟨hget _ hid hcreated, hget _ hid' hcreated'⟩
  rw [hsame] at hbackend
  refine ⟨⟨backend, id', subdomain, customDomain, enabled, createdAt',
    Field.others Field.host (markEntity supply' fields).1⟩, ?_, rfl⟩
  rw [Host.decode, hid', hsubdomain, hcustom, hbackend, henabled, hcreated']
  rfl

theorem items_markEntities {α β : Type} {check : Fields → Checked α} {outline : α → β}
    (hcheck : ∀ supply supply' fields a, check (markEntity supply fields).1 = .valid a →
      ∃ a', check (markEntity supply' fields).1 = .valid a' ∧ outline a' = outline a)
    (supply supply' : Supply) {position : Nat} {items : List Json} {read : List α}
    (h : Checked.items (Scalar.record check) position (markEntities supply items).1 =
      .valid read) :
    ∃ read', Checked.items (Scalar.record check) position (markEntities supply' items).1 =
      .valid read' ∧ read'.map outline = read.map outline := by
  induction items generalizing supply supply' position read with
  | nil => exact ⟨read, h, rfl⟩
  | cons v rest ih =>
      cases v with
      | obj fields =>
          simp only [markEntities, Checked.items] at h
          obtain ⟨g, more, hg, hmore, rfl⟩ := Checked.seq_eq_valid.mp h
          obtain ⟨a, ha, rfl⟩ := Checked.map_eq_valid.mp hg
          obtain ⟨a', ha', hout⟩ := hcheck supply supply' fields a
            (Checked.under_eq_valid.mp ha)
          obtain ⟨more', hmore', hrest⟩ := ih _ (markEntity supply' fields).2 hmore
          refine ⟨a' :: more', ?_, by simp [hout, hrest]⟩
          simp only [markEntities, Checked.items, Scalar.record, ha', hmore']
          rfl
      | null | bool b | int n | float x | str s | arr inner =>
          simp only [markEntities, Checked.items] at h
          obtain ⟨g, more, hg, hmore, rfl⟩ := Checked.seq_eq_valid.mp h
          obtain ⟨a, ha, rfl⟩ := Checked.map_eq_valid.mp hg
          cases ha

theorem get?_markUnder_of_ne {key other : String} (h : other ≠ key) (supply : Supply)
    (doc : Fields) : (markUnder key supply doc).1.get? other = doc.get? other := by
  rw [markUnder]
  split
  · exact Fields.get?_set_of_ne h _ _
  · rfl

/-- The value of a key after the entities under it are marked. -/
theorem get?_markUnder_self (key : String) (supply : Supply) (doc : Fields) :
    (markUnder key supply doc).1.get? key =
      (doc.get? key).map fun v => match v with
        | .arr items => .arr (markEntities supply items).1
        | v => v := by
  rw [markUnder.eq_def]
  split
  next items hget =>
    rw [Fields.get?_set_self, hget]
    rfl
  next hother =>
    cases hget : doc.get? key with
    | none => rfl
    | some v =>
        cases v with
        | arr items => exact absurd hget (hother items)
        | null | bool b | int n | float x | str s | obj fields => rfl

/-- A list of entities is read alike, whatever supply marks them. -/
theorem orElse_marked {α β : Type} {field : FieldName} (hfield : field.underscored = field.name)
    {check : Fields → Checked α} {outline : α → β}
    (hcheck : ∀ supply supply' fields a, check (markEntity supply fields).1 = .valid a →
      ∃ a', check (markEntity supply' fields).1 = .valid a' ∧ outline a' = outline a)
    {supply supply' : Supply} {doc marked marked' : Fields}
    (hmarked : marked.get? field.name = (markUnder field.name supply doc).1.get? field.name)
    (hmarked' : marked'.get? field.name = (markUnder field.name supply' doc).1.get? field.name)
    {value read : List α}
    (h : field.orElse (Scalar.list (Scalar.record check)) value marked = .valid read) :
    ∃ read', field.orElse (Scalar.list (Scalar.record check)) value marked' = .valid read' ∧
      read'.map outline = read.map outline := by
  rw [get?_markUnder_self] at hmarked hmarked'
  cases hget : doc.get? field.name with
  | none =>
      rw [hget] at hmarked hmarked'
      have hsame : marked.get? field.name = marked'.get? field.name := hmarked.trans hmarked'.symm
      rw [orElse_congr hsame (hfield ▸ hsame)] at h
      exact ⟨read, h, rfl⟩
  | some v =>
      rw [hget] at hmarked hmarked'
      by_cases hitems : ∃ items, v = .arr items
      · obtain ⟨items, rfl⟩ := hitems
        have hread : ∀ {fields w}, fields.get? field.name = some w →
            field.orElse (Scalar.list (Scalar.record check)) value fields =
              (Scalar.list (Scalar.record check) w).under field.name := by
          intro fields w hw
          rw [FieldName.orElse, spelling?_of_get? hw]
          simp only [Fields.valueOf, hw, Option.getD_some]
        rw [hread hmarked, Checked.under_eq_valid] at h
        obtain ⟨read', hread', hout⟩ := items_markEntities hcheck supply supply' h
        refine ⟨read', ?_, hout⟩
        rw [hread hmarked', Checked.under_eq_valid]
        exact hread'
      · have hsame : marked.get? field.name = marked'.get? field.name := by
          rw [hmarked, hmarked']
          cases v with
          | arr items => exact absurd ⟨items, rfl⟩ hitems
          | null | bool b | int n | float x | str s | obj fields => rfl
        rw [orElse_congr hsame (hfield ▸ hsame)] at h
        exact ⟨read, h, rfl⟩

/-- A marked document is read alike, whatever supply it was marked from. -/
theorem decode_mark (supply supply' : Supply) {doc : Fields} {r : Registry}
    (h : Registry.decode (mark supply doc).1 = .valid r) :
    ∃ r', Registry.decode (mark supply' doc).1 = .valid r' ∧ r'.version = r.version ∧
      r'.outline = r.outline := by
  simp only [Registry.decode, Checked.seq_eq_valid, Checked.map_eq_valid] at h
  obtain ⟨_, provider, ⟨_, hosts, ⟨_, applications, ⟨_, environments, ⟨_, baseDomain, ⟨_, version,
    ⟨schemaVersion, hschema, rfl⟩, hversion, rfl⟩, hdomain, rfl⟩, henvironments, rfl⟩,
    happlications, rfl⟩, hhosts, rfl⟩, hprovider, rfl⟩ := h
  have hget : ∀ key, key ≠ Field.applications.name → key ≠ Field.hosts.name →
      (mark supply doc).1.get? key = (mark supply' doc).1.get? key := by
    intro key happ hhost
    simp only [mark]
    rw [get?_markUnder_of_ne hhost, get?_markUnder_of_ne happ, get?_markUnder_of_ne hhost,
      get?_markUnder_of_ne happ]
  have happ : ∀ supply, (mark supply doc).1.get? Field.applications.name =
      (markUnder Field.applications.name supply doc).1.get? Field.applications.name :=
    fun supply => get?_markUnder_of_ne (by decide) _ _
  have hhost : ∀ supply, ∃ left, (mark supply doc).1.get? Field.hosts.name =
      (markUnder Field.hosts.name left doc).1.get? Field.hosts.name := by
    intro supply
    refine ⟨(markUnder Field.applications.name supply doc).2, ?_⟩
    simp only [mark]
    rw [get?_markUnder_self, get?_markUnder_self, get?_markUnder_of_ne (by decide)]
  obtain ⟨left, hleft⟩ := hhost supply
  obtain ⟨left', hleft'⟩ := hhost supply'
  obtain ⟨applications', happlications', houtline⟩ := orElse_marked rfl
    decode_application_markEntity (happ supply) (happ supply') happlications
  obtain ⟨hosts', hhosts', houtline'⟩ := orElse_marked rfl decode_host_markEntity hleft hleft'
    hhosts
  rw [orElse_congr (hget _ (by decide) (by decide)) (hget _ (by decide) (by decide))]
    at hschema hversion hdomain henvironments hprovider
  refine ⟨⟨schemaVersion, version, baseDomain, environments, applications', hosts', provider,
    Field.others Field.registry (mark supply' doc).1⟩, ?_, rfl, ?_⟩
  swap
  · simp only [Registry.outline, houtline, houtline']
  rw [Registry.decode, hschema, hversion, hdomain, henvironments, happlications', hhosts',
    hprovider]
  rfl

end Registry

end EdgeProxy
