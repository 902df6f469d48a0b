import EdgeProxy.Proofs.Registry.Unknown
import EdgeProxy.Proofs.Store.Save
/-!
What a save leaves is read back.  A well-formed registry that keeps only what is stored as it is comes
back equal to what was saved, whatever supply there is, and saving it again changes the version of the
document and nothing else.  A document of the current layout that is read and saved keeps its unknown
fields, but for the keys of an earlier release.
-/

namespace EdgeProxy.Store

open Migration

/-- What was saved is read back. -/
structure ReadBack (saved : Registry) (after : Files) (path : Path) : Prop where
  layout : saved.schemaVersion = 3
  /-- Nothing is drawn from the supply, and it has no part in what is read. -/
  loads : ∀ supply, load supply after path = (.ok saved, supply)
  /-- Saving what was read changes the version, in the document and in what is read from it. -/
  again : ∀ {resaved : Registry} {later : Files} {expected : Option Int},
    save saved after path expected = (.ok resaved, later) →
      resaved = { saved with version := saved.version + 1 } ∧
        (∀ supply, load supply later path = (.ok resaved, supply)) ∧
        ∃ doc, document after path = .ok (some doc) ∧
          document later path = .ok (some (doc.set "version" (.int resaved.version)))

variable {r saved : Registry} {files after : Files} {path : Path} {expected : Option Int}

theorem advance_lasting (h : r.Keeping Lasting) : (advance r).Keeping Lasting :=
  ⟨h.environments, h.applications, h.hosts, h.provider, h.extra⟩

theorem encodeFields_advance (r : Registry) :
    (advance r).encodeFields = r.encodeFields.set "version" (.int (r.version + 1)) := by
  simp [Registry.encodeFields, advance, Fields.set, Field.schemaVersion, Field.version,
    FieldName.word]

/-- The document of a registry that was saved. -/
theorem document_of_save (hwell : r.WellFormed)
    (hsave : save r files path expected = (.ok saved, after)) :
    document after path = .ok (some saved.encodeFields) := by
  obtain ⟨-, rfl, hwritable, hbytes⟩ := save_ok hsave
  exact document_of_written (advance_wellFormed hwell) hwritable hbytes

theorem load_of_save (hwell : r.WellFormed)
    (hsave : save r files path expected = (.ok saved, after)) (supply : Supply) :
    load supply after path = (.ok saved.stored, supply) := by
  obtain ⟨-, rfl, hwritable, hbytes⟩ := save_ok hsave
  exact load_of_written supply (advance_wellFormed hwell) hwritable hbytes

/-- A well-formed registry that is stored as it is, is read back as it was saved. -/
theorem readBack_of_save (hwell : r.WellFormed) (hlasting : r.Keeping Lasting)
    (hsave : save r files path expected = (.ok saved, after)) : ReadBack saved after path := by
  have hsaved : saved = advance r := (save_ok hsave).2.1
  have hsavedWell : saved.WellFormed := hsaved ▸ advance_wellFormed hwell
  have hsavedLasting : saved.Keeping Lasting := hsaved ▸ advance_lasting hlasting
  refine ⟨hsavedWell.schema, ?_, ?_⟩
  · intro supply
    rw [load_of_save hwell hsave, hsavedLasting.stored_eq]
  · intro resaved later expected' hresave
    have hresaved : resaved = advance saved := (save_ok hresave).2.1
    refine ⟨hresaved, ?_, saved.encodeFields, document_of_save hwell hsave, ?_⟩
    · intro supply
      rw [load_of_save hsavedWell hresave, hresaved, (advance_lasting hsavedLasting).stored_eq]
    · rw [document_of_save hsavedWell hresave, hresaved, encodeFields_advance]
      rfl

/-- A registry that was read from a document of the current layout keeps the unknown fields of the
document but for the keys of an earlier release. -/
theorem unknown_of_load {supply left : Supply} {doc : Fields} (hmarked : Marked doc)
    (hdoc : document files path = .ok (some doc))
    (hload : load supply files path = (.ok r, left)) :
    r.unknown = (Unknown.registry doc).without deprecatedKeys := by
  rcases load_eq_ok.mp hload with ⟨hnone, -, -⟩ | ⟨doc', current, hdoc', hup, -, hdecode, -⟩
  · rw [hdoc] at hnone
    cases hnone
  · rw [hdoc] at hdoc'
    cases hdoc'
    have hstripped : Marked (stripDeprecated doc) := by
      rw [Marked, stripDeprecated, Fields.get?_drop (by decide)]
      exact hmarked
    rw [upgrade_of_marked hstripped] at hup
    cases hup
    rw [← Registry.unknown_of_decode hdecode, Unknown.registry_mark,
      Unknown.registry_stripDeprecated]

/-- The document of a registry that was saved has the unknown fields that the registry keeps, as they
are stored. -/
theorem unknown_of_save (hwell : r.WellFormed)
    (hsave : save r files path expected = (.ok saved, after)) :
    ∃ doc, document after path = .ok (some doc) ∧ Unknown.registry doc = r.unknown.stored := by
  have hsaved : saved = advance r := (save_ok hsave).2.1
  have hsavedWell : saved.WellFormed := hsaved ▸ advance_wellFormed hwell
  refine ⟨saved.encodeFields, document_of_save hwell hsave, ?_⟩
  rw [Registry.unknown_of_decode (Registry.decode_encodeFields hsavedWell),
    Registry.unknown_stored, hsaved]
  rfl

end EdgeProxy.Store
