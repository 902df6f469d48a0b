import EdgeProxy.Proofs.Operation.Once
import EdgeProxy.Proofs.Store.RoundTrip
/-!
Registries that are obtained from files: read from a file all of whose numbers are finite, or led to from
such a registry by changes that are accepted and by saves.  Each of them is well formed and is stored as
it is, because no change keeps anything new; so each of them is read back as it was saved.
-/

namespace EdgeProxy

/-- A registry that is read from a file whose numbers are finite, in whatever layout, or that accepted
operations and saves lead to from one. -/
inductive Registry.Obtained : Registry → Prop where
  | loaded {supply left : Supply} {files : Files} {path : Path} {r : Registry}
      (hfinite : ∀ doc, Store.document files path = .ok (some doc) → (Json.obj doc).Finite)
      (hload : Store.load supply files path = (.ok r, left)) : Obtained r
  | changed {settings : Settings} {op : Operation} {before drawn supply left : Supply} {edit : Edit}
      {r r' : Registry} {subject : Subject} (h : Obtained r)
      (hedits : op.Edits settings before drawn edit)
      (hchanged : changed edit supply r = (.ok (r', subject), left)) : Obtained r'
  | saved {files after : Files} {path : Path} {expected : Option Int} {r r' : Registry}
      (h : Obtained r) (hsave : Store.save r files path expected = (.ok r', after)) : Obtained r'

namespace Registry

theorem Obtained.spec {r : Registry} (h : r.Obtained) : r.WellFormed ∧ r.Keeping Lasting := by
  have hnone : ∀ names, Lasting names [] := fun _ => rfl
  induction h with
  | loaded hfinite hload =>
      exact ⟨Store.wellFormed_of_load hload, Store.lasting_of_load hfinite hload⟩
  | changed _ hedits hchanged ih =>
      have hpreserves := changed_preserves hedits.preserving hchanged
      exact ⟨(hpreserves.keeps ih.1).wellFormed, hpreserves.keeping Lasting hnone ih.2⟩
  | saved _ hsave ih =>
      obtain ⟨-, rfl, -, -⟩ := Store.save_ok hsave
      exact ⟨Store.advance_wellFormed ih.1, Store.advance_lasting ih.2⟩

end Registry

/-- What an operation writes is read back. -/
theorem Operation.Saves.readBack {settings : Settings} {op : Operation} {w written : World}
    {loaded saved : Registry} {subject : Subject}
    (h : op.Saves settings w loaded subject saved written) (hloaded : loaded.Obtained) :
    Store.ReadBack saved written.files settings.registryPath := by
  obtain ⟨hedits, -, hchanged, hsave⟩ := h
  obtain ⟨hwell, hlasting⟩ := (Registry.Obtained.changed hloaded hedits hchanged).spec
  exact Store.readBack_of_save hwell hlasting hsave

namespace Registry

/-- A registry that is obtained from a file is read back as it was saved; and of a document of the
current layout that is read and saved, only the keys of an earlier release are lost. -/
theorem saved_registry_is_read_back :
    (∀ {r saved : Registry} {files after : Files} {path : Path} {expected : Option Int},
      r.Obtained → Store.save r files path expected = (.ok saved, after) →
        saved = { r with version := r.version + 1 } ∧ Store.ReadBack saved after path) ∧
      ∀ {supply left : Supply} {files files' after : Files} {path path' : Path} {doc : Fields}
        {r saved : Registry} {expected : Option Int},
        Store.document files path = .ok (some doc) → doc.get? "schemaVersion" = some (.int 3) →
        Store.load supply files path = (.ok r, left) →
        Store.save r files' path' expected = (.ok saved, after) →
          ∃ doc', Store.document after path' = .ok (some doc') ∧
            Unknown.registry doc' =
              ((Unknown.registry doc).without ["wildcardCert", "caddyAdminUrl"]).stored ∧
            ((Json.obj doc).Finite →
              Unknown.registry doc' =
                (Unknown.registry doc).without ["wildcardCert", "caddyAdminUrl"]) := by
  refine ⟨?_, ?_⟩
  · intro r saved files after path expected h hsave
    obtain ⟨hwell, hlasting⟩ := h.spec
    exact ⟨(Store.save_ok hsave).2.1, Store.readBack_of_save hwell hlasting hsave⟩
  · intro supply left files files' after path path' doc r saved expected hdoc hmarked hload hsave
    have hunknown := Store.unknown_of_load hmarked hdoc hload
    obtain ⟨doc', hdoc', hsaved⟩ := Store.unknown_of_save (Store.wellFormed_of_load hload) hsave
    refine ⟨doc', hdoc', hsaved.trans (congrArg Places.stored hunknown), ?_⟩
    intro hfinite
    have hlasting : r.Keeping Lasting := by
      apply Store.lasting_of_load _ hload
      intro other hother
      rw [hdoc] at hother
      cases hother
      exact hfinite
    rw [hsaved, ← unknown_stored, hlasting.stored_eq, hunknown]
    rfl

end Registry

namespace Annotated

/-- A document with unknown fields at the top and in an environment, and a key of an earlier release. -/
def document : Fields :=
  [("schemaVersion", .int 3),
    ("environments",
      .arr [.obj [("id", .str "prod"), ("name", .str "Production"), ("colour", .str "blue")]]),
    ("wildcardCert", .bool true), ("note", .str "ours")]

/-- The registry of the document, after some saves. -/
def registry (version : Int) : Registry :=
  ⟨3, version, "", [⟨"prod", "Production", "", "api", false, [("colour", .str "blue")]⟩], [], [],
    .off, [("note", .str "ours")]⟩

def path : Path := Path.ofText "registry.json"

def files (text : String) : Files := ⟨[(path, .file (Text.encode text))], fun _ => none⟩

def text : String := (Json.obj document).render .file ++ "\n"

theorem document_files {text : String} {doc : Fields} (h : Json.read text = .ok (.obj doc)) :
    Store.document (files text) path = .ok (some doc) := by
  have hbytes : (files text).content? path = some (.ok (Text.encode text)) := rfl
  simp only [Store.document, hbytes, Text.decode_encode, h]

theorem document_text : Store.document (files text) path = .ok (some document) := by
  have hportable : (Json.obj document).Portable := by
    refine ⟨?_, ?_⟩
    · simp [document, Json.Distinct, Json.DistinctFields, Json.DistinctItems]
    · simp [document, Json.isWritable_obj, Json.isWritable_arr, Json.isWritable_str,
        Json.isWritable_bool, Json.isWritable_int, Json.writableItems, Json.writableFields]
  exact document_files (Json.read_render hportable)

theorem load_text (supply : Supply) :
    Store.load supply (files text) path = (.ok (registry 0), supply) :=
  Store.load_eq_ok.mpr
    (Or.inr ⟨document, Migration.stripDeprecated document, document_text, rfl, rfl, rfl, rfl⟩)

theorem finite_document : (Json.obj document).Finite := by
  simp [document, Json.Finite, Json.FiniteItems, Json.FiniteFields]

theorem save_files {version : Int} (h : (version + 1).natAbs < 100) (text : String) :
    Store.save (registry version) (files text) path none =
      (.ok (registry (version + 1)), files (registry (version + 1)).fileText) := by
  have hwritable : (registry (version + 1)).encode.isWritable = true := by
    simp [Registry.encode, Registry.encodeFields, registry, Environment.encode,
      WildcardProvider.encode, WildcardProvider.encodeFields, WildcardProvider.off, kept,
      Json.finiteFields, Json.finiteOnly, Json.texts, Json.isWritable_obj, Json.isWritable_arr,
      Json.isWritable_str, Json.isWritable_bool, Json.isWritable_int, Json.writableItems,
      Json.writableFields, h]
  have hmade : (files text).makeDirectories path.parent = .ok (files text) := rfl
  have hadvance : Store.advance (registry version) = registry (version + 1) := rfl
  have hreplace : ∀ later, (files text).replace path (Text.encode later) = (.ok (), files later) :=
    fun _ => rfl
  simp only [Store.save, Store.check, Store.replace, hmade, hadvance, hwritable, hreplace,
    Bool.not_true, Bool.false_eq_true, ↓reduceIte]

end Annotated

namespace Registry

/-- A document with unknown fields is read and saved, and saved again, with its unknown fields. -/
theorem saved_registry_is_read_back_annotated :
    ∃ after later, (Annotated.registry 0).Obtained ∧
      Store.save (Annotated.registry 0) (Annotated.files Annotated.text) Annotated.path none =
        (.ok (Annotated.registry 1), after) ∧
      Store.ReadBack (Annotated.registry 1) after Annotated.path ∧
      Store.save (Annotated.registry 1) after Annotated.path none =
        (.ok (Annotated.registry 2), later) ∧
      ∃ doc, Store.document after Annotated.path = .ok (some doc) ∧
        Unknown.registry doc =
          [(["environments", "0", "colour"], .str "blue"), (["note"], .str "ours")] := by
  have hfinite : ∀ doc, Store.document (Annotated.files Annotated.text) Annotated.path =
      .ok (some doc) → (Json.obj doc).Finite := by
    intro doc hdoc
    rw [Annotated.document_text] at hdoc
    cases hdoc
    exact Annotated.finite_document
  have hload := Annotated.load_text ⟨fun _ => "", 0, ⟨0⟩⟩
  have hobtained : (Annotated.registry 0).Obtained := .loaded hfinite hload
  have hsave := @Annotated.save_files 0 (by decide) Annotated.text
  obtain ⟨doc, hdoc, -, hunknown⟩ :=
    saved_registry_is_read_back.2 Annotated.document_text rfl hload hsave
  refine ⟨_, _, hobtained, hsave, (saved_registry_is_read_back.1 hobtained hsave).2,
    @Annotated.save_files 1 (by decide) _, doc, hdoc, ?_⟩
  rw [hunknown Annotated.finite_document]
  decide +kernel

end Registry

end EdgeProxy
