import EdgeProxy.Proofs.Registry.Shape
import EdgeProxy.Proofs.Store.Load
/-!
Which contents of the registry file are read or turned down with a reason, and which end the reading in a
fault.  A fault comes from bytes that are no text, from an integer that is too long, and from a document
whose older parts do not have the shape that the steps between layouts go through.
-/

namespace EdgeProxy.Store

open Migration

/-- A content that reading ends on: a text without JSON, or a value that is no object or an object whose
older parts have their shape. -/
inductive Legible (bytes : List UInt8) : Prop where
  | malformed {text : String} (htext : Text.decode bytes = .ok text)
      (hread : Json.read text = .error .malformed)
  | value {text : String} {v : Json} (htext : Text.decode bytes = .ok text)
      (hread : Json.read text = .ok v)
      (hshape : ∀ doc, v = .obj doc → IsShaped HasNames (stripDeprecated doc))

/-- No file, or one with a legible content. -/
def HasLegible (files : Files) (path : Path) : Prop :=
  ∀ bytes, files.content? path = some (.ok bytes) → Legible bytes

/-- How a reading of the registry ends well: in a registry of the current layout, or with a reason. -/
inductive Ends : Except StoreFailure Registry → Prop where
  | read {r : Registry} (h : r.schemaVersion = currentSchema) : Ends (.ok r)
  | refused (why : StoreError) : Ends (.error (.refused why))

theorem schemaVersion_of_load {supply left : Supply} {files : Files} {path : Path} {r : Registry}
    (h : load supply files path = (.ok r, left)) : r.schemaVersion = currentSchema :=
  (Registry.wellFormed_iff.mp (wellFormed_of_load h)).1

/-- A reading that ends in no fault ends well. -/
theorem ends_load_iff {supply : Supply} {files : Files} {path : Path} :
    Ends (load supply files path).1 ↔
      ∀ fault, (load supply files path).1 ≠ .error (.fault fault) := by
  obtain ⟨⟨result, left⟩, hload⟩ : ∃ result, load supply files path = result := ⟨_, rfl⟩
  rw [hload]
  cases result with
  | ok r => exact iff_of_true (.read (schemaVersion_of_load hload)) (by simp)
  | error failure =>
      cases failure with
      | refused why => exact iff_of_true (.refused why) (by simp)
      | fault fault => exact iff_of_false (fun h => by cases h) fun h => h fault rfl

theorem registryOf_ne_fault (supply : Supply) (path : Path) (issues : List Issue) (doc : Fields)
    (fault : Fault) : (registryOf supply path issues doc).1 ≠ .error (.fault fault) := by
  unfold registryOf
  dsimp only
  split <;> simp

theorem currentDocument_faults_iff (path : Path) {doc : Fields} :
    (∃ fault, currentDocument path doc = .error (.fault fault)) ↔
      ¬ IsShaped HasNames (stripDeprecated doc) := by
  rw [← upgrade_faults_iff, currentDocument]
  split
  next hup => simp [hup]
  next hup => simp [hup]
  next hup => simp [hup]

/-- A document that was read is read on, or refused, exactly if its older parts have their shape. -/
theorem load_of_document {supply : Supply} {files : Files} {path : Path} {doc : Fields}
    (hdoc : document files path = .ok (some doc)) :
    (∃ fault, (load supply files path).1 = .error (.fault fault)) ↔
      ¬ IsShaped HasNames (stripDeprecated doc) := by
  rw [← currentDocument_faults_iff path, load, hdoc]
  dsimp only
  split
  next failure hcurrent => simp [hcurrent]
  next current hcurrent =>
    have hnever := registryOf_ne_fault supply path (nameIssues doc) current
    simp [hcurrent, hnever]

/-- A content is legible or not by what it is read as. -/
theorem legible_iff {bytes : List UInt8} {text : String} (htext : Text.decode bytes = .ok text) :
    Legible bytes ↔ Json.read text = .error .malformed ∨
      ∃ v, Json.read text = .ok v ∧
        ∀ doc, v = .obj doc → IsShaped HasNames (stripDeprecated doc) := by
  constructor
  · rintro (⟨htext', hread⟩ | ⟨htext', hread, hshape⟩)
    · cases htext.symm.trans htext'
      exact .inl hread
    · cases htext.symm.trans htext'
      exact .inr ⟨_, hread, hshape⟩
  · rintro (hread | ⟨v, hread, hshape⟩)
    · exact .malformed htext hread
    · exact .value htext hread hshape

theorem legible_of_hasLegible {files : Files} {path : Path} {bytes : List UInt8}
    (hbytes : files.content? path = some (.ok bytes)) : HasLegible files path ↔ Legible bytes := by
  simp [HasLegible, hbytes]

/-- Reading ends in a fault exactly if the file has a content that is not legible. -/
theorem load_faults_iff (supply : Supply) {files : Files} {path : Path} :
    (∃ fault, (load supply files path).1 = .error (.fault fault)) ↔ ¬ HasLegible files path := by
  rcases hbytes : files.content? path with _ | why | bytes
  · simp [load, document, HasLegible, hbytes]
  · simp [load, document, HasLegible, hbytes]
  · rw [legible_of_hasLegible hbytes]
    cases htext : Text.decode bytes with
    | error reason =>
        refine iff_of_true ⟨.undecodable reason, by simp [load, document, hbytes, htext]⟩ ?_
        rintro (⟨htext', -⟩ | ⟨htext', -, -⟩) <;> cases htext.symm.trans htext'
    | ok text =>
        rw [legible_iff htext]
        cases hread : Json.read text with
        | error e =>
            cases e <;> simp [load, document, hbytes, htext, hread]
        | ok v =>
            cases v with
            | obj doc =>
                have hdoc : document files path = .ok (some doc) := by
                  simp [document, hbytes, htext, hread]
                rw [load_of_document hdoc]
                simp
            | _ => simp [load, document, hbytes, htext, hread]

/-- Reading ends well exactly if there is no file, or one with a legible content. -/
theorem ends_load_iff_legible (supply : Supply) (files : Files) (path : Path) :
    Ends (load supply files path).1 ↔ HasLegible files path := by
  rw [ends_load_iff, ← not_iff_not, ← load_faults_iff supply]
  simp

end EdgeProxy.Store
