import EdgeProxy.Proofs.Store.Save
import EdgeProxy.Proofs.Registry.Steps
import EdgeProxy.Proofs.Registry.Supply
/-!
A caller that saves what it has just read.  The version of a document is read twice: with the registry, where a
text or a number with a point is taken for the integer that it spells, and before a save, where either counts as
zero.  A save over the version that was read is turned down exactly if the two readings differ.
-/

namespace EdgeProxy

section Version

variable {key : String}

theorem get?_nest {doc changed : Fields} (hkey : key ≠ "applications")
    (h : Migration.nest doc = .ok changed) : changed.get? key = doc.get? key := by
  obtain ⟨-, -, apps, -, rfl⟩ := Migration.nest_eq_ok_iff.mp h
  exact Fields.get?_set_of_ne hkey _ _

theorem get?_list {doc changed : Fields} (hkey : key ≠ "applications")
    (h : Migration.list doc = .ok changed) : changed.get? key = doc.get? key := by
  simp only [Migration.list, bind_eq_ok] at h
  obtain ⟨-, -, apps, -, heq⟩ := h
  split at heq
  · cases heq
    exact Fields.get?_set_of_ne hkey _ _
  · cases heq
    rfl

theorem get?_stepTo {version : Int} {step : Fields → Except Fault Fields} {doc changed : Fields}
    (hkey : key ≠ "schemaVersion")
    (hstep : ∀ after, step doc = .ok after → after.get? key = doc.get? key)
    (h : Migration.stepTo version step doc = .ok changed) : changed.get? key = doc.get? key := by
  obtain ⟨after, hafter, rfl⟩ := Migration.stepTo_ok_iff.mp h
  rw [Fields.get?_set_of_ne hkey, hstep after hafter]

/-- Bringing a document to the current layout changes its applications and its mark alone. -/
theorem get?_upgrade {doc changed : Fields} (happlications : key ≠ "applications")
    (hschema : key ≠ "schemaVersion") (h : Migration.upgrade doc = .ok changed) :
    changed.get? key = doc.get? key := by
  rw [Migration.upgrade] at h
  split at h
  · cases h
  · simp only [bind_eq_ok] at h
    obtain ⟨nested, hnested, hlisted⟩ := h
    rw [get?_stepTo hschema (fun _ => get?_list happlications) hlisted,
      get?_stepTo hschema (fun _ => get?_nest happlications) hnested]
  · exact get?_stepTo hschema (fun _ => get?_list happlications) h
  · cases h
    rfl

/-- The version of a registry that is read is what the document has under its key, taken for an integer. -/
theorem Registry.version_of_decode {doc : Fields} {r : Registry} (h : Registry.decode doc = .valid r) :
    doc.get? "version" = none ∧ r.version = 0 ∨
      ∃ v, doc.get? "version" = some v ∧ Scalar.integer v = .valid r.version := by
  simp only [Registry.decode, Checked.seq_eq_valid, Checked.map_eq_valid] at h
  obtain ⟨_, _, ⟨_, _, ⟨_, _, ⟨_, _, ⟨_, _, ⟨_, version, ⟨_, _, rfl⟩, hversion, rfl⟩, _, rfl⟩, _, rfl⟩,
    _, rfl⟩, _, rfl⟩, _, rfl⟩ := h
  exact orElse_word_eq_valid hversion

end Version

namespace Store

/-- A value that is neither an integer nor a flag, and may still be taken for an integer. -/
def Spells (v : Json) : Prop := (∃ s, v = .str s) ∨ ∃ x, v = .float x

/-- The stored document has its version as a text, or as a number with a point. -/
def SpellsVersion (files : Files) (path : Path) : Prop :=
  ∃ doc v, document files path = .ok (some doc) ∧ doc.get? "version" = some v ∧ Spells v

/-- An integer or a flag counts before a save as what it is taken for; what is spelled counts as zero. -/
theorem versionOf_of_integer {doc : Fields} {v : Json} {n : Int} (hget : doc.get? "version" = some v)
    (hvalue : Scalar.integer v = .valid n) :
    Spells v ∧ versionOf doc = .number 0 ∨ ¬ Spells v ∧ (versionOf doc).count = n := by
  have hversion : doc.get? Field.version.name = some v := hget
  rw [versionOf, hversion]
  cases v with
  | int m =>
      cases hvalue
      exact Or.inr ⟨by simp [Spells], rfl⟩
  | bool b =>
      cases hvalue
      exact Or.inr ⟨by simp [Spells], rfl⟩
  | str s => exact Or.inl ⟨Or.inl ⟨s, rfl⟩, rfl⟩
  | float x => exact Or.inl ⟨Or.inr ⟨x, rfl⟩, rfl⟩
  | null | arr items | obj fields => cases hvalue

section Loaded

variable {supply left : Supply} {files : Files} {path : Path} {r : Registry}

/-- The two readings of the version of a file that can be read. -/
theorem version_of_loaded (h : load supply files path = (.ok r, left)) :
    SpellsVersion files path ∧ version files path = .ok (.number 0) ∨
      ¬ SpellsVersion files path ∧ ∃ found, version files path = .ok found ∧ found.count = r.version := by
  rcases load_eq_ok.mp h with ⟨hdoc, rfl, -⟩ | ⟨doc, current, hdoc, hup, -, hdecode, -⟩
  · refine Or.inr ⟨?_, .number 0, by rw [version, hdoc], rfl⟩
    rintro ⟨doc, v, hdoc', -⟩
    cases hdoc.symm.trans hdoc'
  · have hkept : (Registry.mark supply current).1.get? "version" = doc.get? "version" := by
      rw [Registry.mark, Registry.get?_markUnder_of_ne (by decide), Registry.get?_markUnder_of_ne (by decide),
        get?_upgrade (by decide) (by decide) hup, Migration.stripDeprecated, Fields.get?_drop (by decide)]
    have hversion : version files path = .ok (versionOf doc) := by rw [version, hdoc]
    have hspells : ∀ {v}, doc.get? "version" = some v → (SpellsVersion files path ↔ Spells v) := by
      intro v hget
      constructor
      · rintro ⟨doc', v', hdoc', hget', hv'⟩
        cases hdoc.symm.trans hdoc'
        cases hget.symm.trans hget'
        exact hv'
      · exact fun hv => ⟨doc, v, hdoc, hget, hv⟩
    rw [hversion]
    rcases Registry.version_of_decode hdecode with ⟨hnone, hzero⟩ | ⟨v, hget, hvalue⟩
    · rw [hkept] at hnone
      refine Or.inr ⟨?_, versionOf doc, rfl, ?_⟩
      · rintro ⟨doc', v, hdoc', hget, -⟩
        cases hdoc.symm.trans hdoc'
        cases hnone.symm.trans hget
      · have hnone : doc.get? Field.version.name = none := hnone
        rw [versionOf, hnone, hzero]
        rfl
    · rw [hkept] at hget
      rw [hspells hget]
      rcases versionOf_of_integer hget hvalue with ⟨hv, hzero⟩ | ⟨hv, hcount⟩
      · exact Or.inl ⟨hv, by rw [hzero]⟩
      · exact Or.inr ⟨hv, _, rfl, hcount⟩

end Loaded

/-- Putting a registry in the place of the file never tells of a conflict. -/
theorem replace_ne_conflict (registry : Registry) (files : Files) (path : Path) (expected : Int)
    (found : StoredVersion) (after : Files) :
    replace registry files path ≠ (.error (.refused (.conflict expected found)), after) := by
  intro h
  rcases replace_spec h with ⟨heq, -⟩ | ⟨⟨failure, heq, hnot⟩, -⟩
  · cases heq
  · cases heq
    cases hnot

/-- What becomes of a save over the version that was read, with no other save in between. -/
structure LoneSave (files : Files) (path : Path) (loaded changed : Registry) : Prop where
  agrees : (∃ found, version files path = .ok found ∧ found.count = loaded.version) ↔
    ¬ (SpellsVersion files path ∧ loaded.version ≠ 0)
  conflicts : (∃ expected found after, save changed files path (some loaded.version) =
      (.error (.refused (.conflict expected found)), after)) ↔
    SpellsVersion files path ∧ loaded.version ≠ 0
  refused : SpellsVersion files path → loaded.version ≠ 0 → save changed files path (some loaded.version) =
    (.error (.refused (.conflict loaded.version (.number 0))), files)
  passes : ¬ (SpellsVersion files path ∧ loaded.version ≠ 0) →
    save changed files path (some loaded.version) = replace changed files path

/-- A save over the version that was just read is turned down exactly if that version is not zero and the
document has it as a text or as a number with a point; otherwise it goes on to the replacement of the file. -/
theorem lone_save_conflicts_iff_version_is_spelled {supply left : Supply} {files : Files} {path : Path}
    {loaded : Registry} (hload : load supply files path = (.ok loaded, left)) (changed : Registry) :
    LoneSave files path loaded changed := by
  have hrefused : SpellsVersion files path → loaded.version ≠ 0 →
      save changed files path (some loaded.version) =
        (.error (.refused (.conflict loaded.version (.number 0))), files) := by
    intro hspells hne
    rcases version_of_loaded hload with ⟨-, hversion⟩ | ⟨hnot, -⟩
    · have hcount : (StoredVersion.number 0).count ≠ loaded.version := Ne.symm hne
      rw [save, check_some hversion, if_neg hcount]
    · exact absurd hspells hnot
  have hagrees : ¬ (SpellsVersion files path ∧ loaded.version ≠ 0) →
      ∃ found, version files path = .ok found ∧ found.count = loaded.version := by
    intro hnot
    rcases version_of_loaded hload with ⟨hspells, hversion⟩ | ⟨-, hfound⟩
    · have hzero : loaded.version = 0 := by
        by_contra hne
        exact hnot ⟨hspells, hne⟩
      exact ⟨_, hversion, hzero.symm⟩
    · exact hfound
  have hpasses : ¬ (SpellsVersion files path ∧ loaded.version ≠ 0) →
      save changed files path (some loaded.version) = replace changed files path := by
    intro hnot
    obtain ⟨found, hversion, hcount⟩ := hagrees hnot
    rw [save, check_some hversion, if_pos hcount]
  refine ⟨⟨?_, hagrees⟩, ⟨?_, ?_⟩, hrefused, hpasses⟩
  · rintro ⟨found, hversion, hcount⟩ ⟨hspells, hne⟩
    rcases version_of_loaded hload with ⟨-, hzero⟩ | ⟨hnot, -⟩
    · cases hversion.symm.trans hzero
      exact hne hcount.symm
    · exact hnot hspells
  · rintro ⟨expected, found, after, hconflict⟩
    by_contra hnot
    rw [hpasses hnot] at hconflict
    exact replace_ne_conflict _ _ _ _ _ _ hconflict
  · rintro ⟨hspells, hne⟩
    exact ⟨_, _, _, hrefused hspells hne⟩

namespace Lone

/-- A document that has its version as a text. -/
def spelled : Fields := [("schemaVersion", .int 3), ("version", .str "3")]

/-- A place right below the root. -/
def place : Path := ⟨"/", ["registry.json"]⟩

/-- One file that holds the document. -/
def files : Files := ⟨[(place, .file (Text.encode ((Json.obj spelled).render .file ++ "\n")))], fun _ => none⟩

/-- What is read from it. -/
def loaded : Registry := { Registry.initial with version := 3 }

theorem document_files : document files place = .ok (some spelled) := by
  have hportable : (Json.obj spelled).Portable := by
    refine ⟨?_, ?_⟩
    · simp [spelled, Json.Distinct, Json.DistinctFields]
    · simp [spelled, Json.isWritable_obj, Json.isWritable_str, Json.isWritable_int, Json.writableFields]
  have hbytes : files.content? place = some (.ok (Text.encode ((Json.obj spelled).render .file ++ "\n"))) := rfl
  simp only [document, hbytes, Text.decode_encode, Json.read_render hportable]

theorem load_files (supply : Supply) : load supply files place = (.ok loaded, supply) :=
  load_eq_ok.mpr (.inr ⟨spelled, Migration.stripDeprecated spelled, document_files, rfl, rfl, rfl, rfl⟩)

theorem spellsVersion_files : SpellsVersion files place :=
  ⟨spelled, .str "3", document_files, rfl, .inl ⟨_, rfl⟩⟩

end Lone

/-- No save of what was read from a document with a version in words goes through; where there is no file, every
save is a replacement. -/
theorem lone_save_conflicts_iff_version_is_spelled_at_text :
    (∀ supply changed, load supply Lone.files Lone.place = (.ok Lone.loaded, supply) ∧
        save changed Lone.files Lone.place (some 3) =
          (.error (.refused (.conflict 3 (.number 0))), Lone.files)) ∧
      ∀ supply changed, load supply .empty Lone.place = (.ok .initial, supply) ∧
        save changed .empty Lone.place (some 0) = replace changed .empty Lone.place := by
  constructor
  · intro supply changed
    have hload := Lone.load_files supply
    have hlone := lone_save_conflicts_iff_version_is_spelled hload changed
    exact ⟨hload, hlone.refused Lone.spellsVersion_files (by decide)⟩
  · intro supply changed
    have hload : load supply .empty Lone.place = (.ok .initial, supply) := rfl
    have hlone := lone_save_conflicts_iff_version_is_spelled hload changed
    exact ⟨hload, hlone.passes fun h => h.2 rfl⟩

/-- A document can be read, and what was read cannot be saved, although nobody else writes. -/
theorem loaded_document_cannot_be_saved :
    (∀ supply, load supply Lone.files Lone.place = (.ok Lone.loaded, supply)) ∧
      save Lone.loaded Lone.files Lone.place (some Lone.loaded.version) =
        (.error (.refused (.conflict 3 (.number 0))), Lone.files) := by
  refine ⟨Lone.load_files, ?_⟩
  have hversion : version Lone.files Lone.place = .ok (.number 0) := by
    rw [version, Lone.document_files]
    rfl
  have hcount : (StoredVersion.number 0).count ≠ Lone.loaded.version := by decide
  rw [save, check_some hversion, if_neg hcount]
  rfl

end Store

end EdgeProxy
