import EdgeProxy.Proofs.Json.Nesting
import EdgeProxy.Proofs.Json.RoundTrip
import EdgeProxy.Proofs.Registry.Supply
import EdgeProxy.Proofs.Text.Utf8
import EdgeProxy.Store.File
/-!
Reading the stored registry.  What is read is well formed; a well-formed registry that was written is
read back as it is stored, with the version it was given, and nothing is drawn from the supply.
-/

namespace EdgeProxy.Store

open Migration

/-- The text of a file, if it has one, is nested no deeper than every reader has room for. -/
def IsShallow (files : Files) (path : Path) : Prop :=
  ∀ bytes text, files.content? path = some (.ok bytes) → Text.decode bytes = .ok text →
    Json.overflows Json.safeDepth text = false

theorem isShallow_of_written {files : Files} {path : Path} {r : Registry}
    (hdepth : r.encode.depth ≤ Json.safeDepth)
    (hfile : files.content? path = some (.ok (Text.encode r.fileText))) : IsShallow files path := by
  intro bytes text hbytes htext
  have hwritten : Text.encode r.fileText = bytes := Except.ok.inj (Option.some.inj (hfile.symm.trans hbytes))
  have hread : r.fileText = text := Except.ok.inj ((Text.decode_encode _).symm.trans (hwritten ▸ htext))
  rw [← hread, Registry.fileText]
  exact Json.overflows_render_append hdepth .file (by simp [Json.Unmarked, Json.isMark])

theorem after_eq_valid {α : Type} {c : Checked α} {issues : List Issue} {a : α} :
    c.after issues = .valid a ↔ c = .valid a ∧ issues = [] := by
  cases c with
  | valid b => cases issues <;> simp [Checked.after]
  | invalid more => simp [Checked.after]

theorem load_congr {files files' : Files} {path : Path}
    (h : files.content? path = files'.content? path) (supply : Supply) :
    load supply files path = load supply files' path := by
  simp only [load, document, h]

theorem version_congr {files files' : Files} {path : Path}
    (h : files.content? path = files'.content? path) : version files path = version files' path := by
  simp only [version, document, h]

/-- The document of a file is what its text is read as. -/
theorem read_of_document {files : Files} {path : Path} {doc : Fields}
    (h : document files path = .ok (some doc)) : ∃ text, Json.read text = .ok (.obj doc) := by
  rw [document] at h
  split at h
  · cases h
  · cases h
  · split at h
    · cases h
    next text _ =>
      cases hread : Json.read text with
      | error e => cases e <;> simp [hread] at h
      | ok v =>
          cases v <;> simp [hread] at h
          subst h
          exact ⟨text, hread⟩

/-- The document of a file has distinct keys. -/
theorem distinct_of_document {files : Files} {path : Path} {doc : Fields}
    (h : document files path = .ok (some doc)) : (Json.obj doc).Distinct := by
  obtain ⟨text, hread⟩ := read_of_document h
  exact Json.distinct_of_read hread

theorem currentDocument_eq_ok {path : Path} {doc current : Fields} :
    currentDocument path doc = .ok current ↔ upgrade (stripDeprecated doc) = .ok current := by
  rw [currentDocument]
  split
  next hup => rw [hup, Except.ok.injEq, Except.ok.injEq]
  next hup => simp [hup]
  next hup => simp [hup]

theorem registryOf_eq_ok {supply left : Supply} {path : Path} {issues : List Issue} {doc : Fields}
    {r : Registry} :
    registryOf supply path issues doc = (.ok r, left) ↔
      Registry.decode (Registry.mark supply doc).1 = .valid r ∧ issues = [] ∧
        (Registry.mark supply doc).2 = left := by
  simp only [registryOf, ← and_assoc, ← after_eq_valid]
  split
  next hvalid => simp [hvalid]
  next hinvalid => simp [hinvalid]

/-- A registry is read from no file, or from a document that is brought to the current layout and in
which every entity is marked. -/
theorem load_eq_ok {supply left : Supply} {files : Files} {path : Path} {r : Registry} :
    load supply files path = (.ok r, left) ↔
      document files path = .ok none ∧ r = .initial ∧ left = supply ∨
        ∃ doc current, document files path = .ok (some doc) ∧
          upgrade (stripDeprecated doc) = .ok current ∧ nameIssues doc = [] ∧
          Registry.decode (Registry.mark supply current).1 = .valid r ∧
          (Registry.mark supply current).2 = left := by
  rw [load]
  split
  next hdoc => simp [hdoc]
  next hdoc =>
    simp only [hdoc, Prod.mk.injEq, Except.ok.injEq, true_and, reduceCtorEq, false_and,
      exists_false, or_false]
    exact ⟨fun h => ⟨h.1.symm, h.2.symm⟩, fun h => ⟨h.1.symm, h.2.symm⟩⟩
  next doc hdoc =>
    simp only [hdoc, Except.ok.injEq, Option.some.injEq, reduceCtorEq, false_and, false_or]
    constructor
    · intro h
      split at h
      · cases h
      next current hcurrent =>
        obtain ⟨hdecode, hissues, hleft⟩ := registryOf_eq_ok.mp h
        exact ⟨doc, current, rfl, currentDocument_eq_ok.mp hcurrent, hissues, hdecode, hleft⟩
    · rintro ⟨doc', current, rfl, hup, hissues, hdecode, hleft⟩
      rw [currentDocument_eq_ok.mpr hup]
      exact registryOf_eq_ok.mpr ⟨hdecode, hissues, hleft⟩

/-- A document that is brought to the current layout and marked is clean and in that layout. -/
theorem clean_of_upgrade {P : Json → Prop} (hP : Json.Hereditary P) (supply : Supply)
    {doc current : Fields} (hdoc : P (.obj doc)) (hup : upgrade (stripDeprecated doc) = .ok current) :
    Clean P (Registry.mark supply current).1 ∧ Marked (Registry.mark supply current).1 := by
  obtain ⟨hclean, hmarked⟩ := upgrade_spec hP (clean_stripDeprecated hP hdoc) hup
  exact Registry.mark_spec hP supply hclean hmarked

/-- What is read is well formed. -/
theorem wellFormed_of_load {supply supply' : Supply} {files : Files} {path : Path} {r : Registry}
    (h : load supply files path = (.ok r, supply')) : r.WellFormed := by
  rcases load_eq_ok.mp h with ⟨-, rfl, -⟩ | ⟨doc, current, hdoc, hup, -, hdecode, -⟩
  · exact Registry.initial_wellFormed
  · obtain ⟨hclean, hmarked⟩ := clean_of_upgrade Json.hereditary_distinct supply
      (distinct_of_document hdoc) hup
    exact Registry.wellFormed_of_decode hclean hmarked hdecode

/-- What is read from a document all of whose numbers are finite is stored as it is. -/
theorem lasting_of_load {supply supply' : Supply} {files : Files} {path : Path} {r : Registry}
    (hfinite : ∀ doc, document files path = .ok (some doc) → (Json.obj doc).Finite)
    (h : load supply files path = (.ok r, supply')) : r.Keeping Lasting := by
  have hnone : ∀ names, Lasting names [] := fun _ => rfl
  rcases load_eq_ok.mp h with ⟨-, rfl, -⟩ | ⟨doc, current, hdoc, hup, -, hdecode, -⟩
  · exact Registry.initial_keeping hnone
  · have hP := Json.hereditary_distinct_finite
    have hclean := (clean_of_upgrade hP supply ⟨distinct_of_document hdoc, hfinite doc hdoc⟩ hup).1
    exact Registry.keeping_of_decode hP (fun names fields => lasting_others names) hnone
      hclean.values hdecode

/-- The file of a registry that can be written holds its fields. -/
theorem document_of_written {files : Files} {path : Path} {r : Registry} (hwell : r.WellFormed)
    (hwritable : r.encode.isWritable = true)
    (hfile : files.content? path = some (.ok (Text.encode r.fileText))) :
    document files path = .ok (some r.encodeFields) := by
  have hread : Json.read r.fileText = .ok (.obj r.encodeFields) :=
    Json.read_render ⟨Registry.distinct_encode hwell, hwritable⟩
  simp only [document, hfile, Text.decode_encode, hread]

/-- A registry that was written is read back as it is stored. -/
theorem load_of_written (supply : Supply) {files : Files} {path : Path} {r : Registry}
    (hwell : r.WellFormed) (hwritable : r.encode.isWritable = true)
    (hfile : files.content? path = some (.ok (Text.encode r.fileText))) :
    load supply files path = (.ok r.stored, supply) := by
  have hstrip : stripDeprecated r.encodeFields = r.encodeFields :=
    Fields.drop_eq_self hwell.clean.deprecated
  have hcurrent : currentDocument path r.encodeFields = .ok r.encodeFields := by
    simp only [currentDocument, hstrip, upgrade_of_marked hwell.marked]
  simp only [load, document_of_written hwell hwritable hfile, hcurrent, registryOf,
    Registry.mark_encodeFields, Registry.decode_encodeFields hwell,
    nameIssues_of_marked hwell.marked, Checked.after, List.isEmpty_nil, ↓reduceIte]

theorem version_of_written {files : Files} {path : Path} {r : Registry} (hwell : r.WellFormed)
    (hwritable : r.encode.isWritable = true)
    (hfile : files.content? path = some (.ok (Text.encode r.fileText))) :
    version files path = .ok (.number r.version) := by
  have hget : r.encodeFields.get? Field.version.name = some (.int r.version) :=
    get?_append_of_some rfl
  simp only [version, document_of_written hwell hwritable hfile, versionOf, hget]

/-- A file that is read has a version. -/
theorem version_of_load {supply supply' : Supply} {files : Files} {path : Path} {r : Registry}
    (h : load supply files path = (.ok r, supply')) :
    ∃ found, version files path = .ok found := by
  rw [load] at h
  rw [version]
  split at h
  · cases h
  · exact ⟨_, rfl⟩
  · exact ⟨_, rfl⟩

/-- A file that is read is read whatever supply there is, and alike but for what the supply gives. -/
theorem load_of_load {supply left : Supply} {files : Files} {path : Path} {r : Registry}
    (h : load supply files path = (.ok r, left)) (supply' : Supply) :
    ∃ r' left', load supply' files path = (.ok r', left') ∧ r'.version = r.version ∧
      r'.outline = r.outline := by
  rcases load_eq_ok.mp h with ⟨hdoc, rfl, -⟩ | ⟨doc, current, hdoc, hup, hissues, hdecode, -⟩
  · exact ⟨_, _, load_eq_ok.mpr (Or.inl ⟨hdoc, rfl, rfl⟩), rfl, rfl⟩
  · obtain ⟨r', hdecode', hsame⟩ := Registry.decode_mark supply supply' hdecode
    have hload := load_eq_ok.mpr (Or.inr ⟨doc, current, hdoc, hup, hissues, hdecode', rfl⟩)
    exact ⟨r', _, hload, hsame⟩

end EdgeProxy.Store
