import EdgeProxy.Proofs.File.Replace
import EdgeProxy.Proofs.Store.Load
/-!
Writing the stored registry.  A save that succeeds puts the text of the registry, one version later,
in the place of the file; one that fails, for whatever reason, leaves the content of every file as it
was.
-/

namespace EdgeProxy.Store

theorem advance_wellFormed {r : Registry} (h : r.WellFormed) : (advance r).WellFormed :=
  ⟨h.schema, h.environments, h.applications, h.hosts, h.provider, h.extra, h.deprecated⟩

/-- Why a registry is not put in the place of the file: an integer is too long to be written, the directory
cannot be made, or the file is not replaced. -/
inductive NotReplaced (registry : Registry) (files : Files) (path : Path) : StoreFailure → Prop where
  | unwritable (h : (advance registry).encode.isWritable = false) :
      NotReplaced registry files path (.fault .badValue)
  | noDirectory {fault : Fault} (h : files.makeDirectories path.parent = .error fault) :
      NotReplaced registry files path (.fault fault)
  | refused {made : Files} {why : String} (hmade : files.makeDirectories path.parent = .ok made)
      (h : (made.replace path (Text.encode (advance registry).fileText)).1 = .error (.refused why)) :
      NotReplaced registry files path (.refused (.notWritten path why))
  | unencodable (h : files.RefusesText) : NotReplaced registry files path (.fault .unencodable)

/-- A registry that can be written is put in the place of the file where the system lets it. -/
theorem replace_eq_ok {registry : Registry} {files made after : Files} {path : Path}
    (hmade : files.makeDirectories path.parent = .ok made)
    (hwritable : (advance registry).encode.isWritable = true)
    (hreplace : made.replace path (Text.encode (advance registry).fileText) = (.ok (), after)) :
    replace registry files path = (.ok (advance registry), after) := by
  simp only [replace, hmade, hwritable, hreplace, Bool.not_true, Bool.false_eq_true, ↓reduceIte]

/-- What a replacement does to the files. -/
theorem replace_spec {registry : Registry} {files after : Files} {path : Path}
    {result : Except StoreFailure Registry} (h : replace registry files path = (result, after)) :
    (result = .ok (advance registry) ∧ (advance registry).encode.isWritable = true ∧
        after.content? path = some (.ok (Text.encode (advance registry).fileText))) ∨
      (∃ failure, result = .error failure ∧ NotReplaced registry files path failure) ∧
        ∀ q, after.content? q = files.content? q := by
  rw [replace] at h
  split at h
  next fault hfault =>
    cases h
    exact Or.inr ⟨⟨_, rfl, .noDirectory hfault⟩, fun q => rfl⟩
  next made hmade =>
    have hsame := Files.content?_of_makeDirectories hmade
    dsimp only at h
    split at h
    next hwritable =>
      cases h
      have hfalse : (advance registry).encode.isWritable = false := by simpa using hwritable
      exact Or.inr ⟨⟨_, rfl, .unwritable hfalse⟩, hsame⟩
    next hwritable =>
      have htrue : (advance registry).encode.isWritable = true := by simpa using hwritable
      split at h
      next hreplace =>
        cases h
        exact Or.inl ⟨rfl, htrue, Files.content?_of_replace_ok hreplace⟩
      next why _ hreplace =>
        cases h
        refine Or.inr ⟨⟨_, rfl, .refused hmade (congrArg Prod.fst hreplace)⟩, ?_⟩
        intro q
        rw [Files.content?_of_lookup? (Files.lookup?_of_replace_error hreplace q), hsame q]
      next fault _ hreplace =>
        cases h
        have hended := congrArg Prod.fst hreplace
        obtain ⟨rfl, hrefuses⟩ := Files.fault_of_replace hended
        have hrefuses := (Files.refusesText_of_makeDirectories hmade).mp hrefuses
        refine Or.inr ⟨⟨_, rfl, .unencodable hrefuses⟩, ?_⟩
        intro q
        rw [Files.content?_of_lookup? (Files.lookup?_of_replace_error hreplace q), hsame q]

/-- A save that succeeds writes the registry one version later, over the version it was computed
from. -/
theorem save_ok {registry saved : Registry} {files after : Files} {path : Path}
    {expected : Option Int} (h : save registry files path expected = (.ok saved, after)) :
    check files path expected = .ok () ∧ saved = advance registry ∧
      saved.encode.isWritable = true ∧
      after.content? path = some (.ok (Text.encode saved.fileText)) := by
  rw [save] at h
  split at h
  · cases h
  next hcheck =>
    rcases replace_spec h with ⟨heq, hwritable, hbytes⟩ | ⟨⟨failure, heq, -⟩, -⟩
    · cases heq
      exact ⟨hcheck, rfl, hwritable, hbytes⟩
    · cases heq

/-- A save that fails leaves the content of every file as it was; it failed at the check of the
version or at the replacement. -/
theorem save_error {registry : Registry} {failure : StoreFailure} {files after : Files}
    {path : Path} {expected : Option Int}
    (h : save registry files path expected = (.error failure, after)) :
    (check files path expected = .error failure ∨
        check files path expected = .ok () ∧ NotReplaced registry files path failure) ∧
      ∀ q, after.content? q = files.content? q := by
  rw [save] at h
  split at h
  next hcheck =>
    cases h
    exact ⟨Or.inl hcheck, fun q => rfl⟩
  next hcheck =>
    rcases replace_spec h with ⟨heq, -, -⟩ | ⟨⟨failure', heq, hnot⟩, hsame⟩
    · cases heq
    · cases heq
      exact ⟨Or.inr ⟨hcheck, hnot⟩, hsame⟩

/-- The check of a version, where the file has one. -/
theorem check_some {files : Files} {path : Path} {found : StoredVersion} {expected : Int}
    (h : version files path = .ok found) :
    check files path (some expected) =
      if found.count = expected then .ok () else .error (.refused (.conflict expected found)) := by
  simp [check, h]

end EdgeProxy.Store
