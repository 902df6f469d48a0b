import EdgeProxy.Proofs.File.Again
import EdgeProxy.Proofs.Registry.Writable
import EdgeProxy.Proofs.Store.Save
/-!
A save of a registry that its caller holds on to.  The version of that registry is counted up before anything is
written, and counted back where the system refuses a step of the replacement.  A save that fails leaves every
file as it was; it tells why and leaves the registry as it was, unless the file cannot be read, its directory
cannot be made, the next version cannot be written, or its text cannot be put into bytes.
-/

namespace EdgeProxy

namespace Files

variable {files made : Files} {p : Path}

/-- Nothing but a directory has come to a place, and only where nothing stood. -/
def KeptAt (files after : Files) (q : Path) : Prop :=
  after.lookup? q = files.lookup? q ∨ files.lookup? q = none ∧ after.lookup? q = some .directory

theorem KeptAt.trans {after : Files} {q : Path} (h : files.KeptAt made q) (h' : made.KeptAt after q) :
    files.KeptAt after q := by
  rcases h' with heq | ⟨hnone, hsome⟩
  · rwa [KeptAt, heq]
  · rcases h with heq | ⟨-, hdirectory⟩
    · exact .inr ⟨heq ▸ hnone, hsome⟩
    · cases hnone.symm.trans hdirectory

theorem KeptAt.content? {after : Files} {q : Path} (h : files.KeptAt after q) :
    after.content? q = files.content? q := by
  rcases h with heq | ⟨hnone, hsome⟩
  · exact content?_of_lookup? heq
  · rw [Files.content?, Files.content?, hnone, hsome]

theorem keptAt_makeDirectory (h : files.makeDirectory p = .ok made) (q : Path) :
    files.KeptAt made q := by
  rcases makeDirectory_eq_ok h with ⟨-, rfl⟩ | ⟨hnone, hcontent, rfl⟩
  · exact .inl rfl
  · by_cases hq : q.resolve = p.resolve
    · -- Neither a file nor a directory stands there.
      have hfree : files.lookup? p = none := by
        cases hstored : files.lookup? p with
        | none => rfl
        | some entry =>
            cases entry with
            | file bytes => simp [Files.content?, hstored] at hcontent
            | hidden why => simp [Files.content?, hstored] at hcontent
            | directory => cases hnone.symm.trans (isDirectory_iff.mpr (.inl (.inr hstored)))
      refine .inr ⟨(lookup?_congr hq).trans hfree, ?_⟩
      rw [lookup?_congr hq, lookup?_put_self]
    · exact .inl (lookup?_put_of_ne _ hq _)

theorem keptAt_makeDirectoriesFrom (q : Path) (left : Nat) {files : Files} {depth : Nat}
    (h : files.makeDirectoriesFrom p depth left = .ok made) : files.KeptAt made q := by
  induction left generalizing files depth with
  | zero =>
      cases h
      exact .inl rfl
  | succ left ih =>
      rw [makeDirectoriesFrom_succ] at h
      split at h
      · simp at h
      · split at h
        next hmake => exact (keptAt_makeDirectory hmake q).trans (ih h)
        · simp at h

end Files

namespace Store

/-- How a save ended, the registry as its caller has it then, and the files. -/
structure Saving where
  result : Except StoreFailure Unit
  held : Registry
  files : Files

/-- The registry with its version counted back. -/
def takeBack (registry : Registry) : Registry := { registry with version := registry.version - 1 }

/-- The second step of a save, on the registry that the caller holds. -/
def replaceHeld (registry : Registry) (files : Files) (path : Path) : Saving :=
  let counted := advance registry
  match files.makeDirectories path.parent with
  | .error fault => ⟨.error (.fault fault), counted, files⟩
  | .ok made =>
    if !counted.encode.isWritable then ⟨.error (.fault .badValue), counted, made⟩
    else
      match made.replace path (Text.encode counted.fileText) with
      | (.ok (), after) => ⟨.ok (), counted, after⟩
      | (.error (.refused why), after) => ⟨.error (.refused (.notWritten path why)), takeBack counted, after⟩
      | (.error (.fault fault), after) => ⟨.error (.fault fault), counted, after⟩

/-- Write a registry that the caller holds. -/
def saveHeld (registry : Registry) (files : Files) (path : Path) (expected : Option Int) : Saving :=
  match check files path expected with
  | .error failure => ⟨.error failure, registry, files⟩
  | .ok () => replaceHeld registry files path

theorem takeBack_advance (registry : Registry) : takeBack (advance registry) = registry := by
  simp [takeBack, advance]

theorem advance_ne (registry : Registry) : advance registry ≠ registry := by
  intro heq
  have hversion : registry.version + 1 = registry.version := congrArg Registry.version heq
  omega

/-- The outcome of a save that returns the registry its caller holds. -/
def Saving.returned (s : Saving) : Except StoreFailure Registry × Files :=
  (s.result.map fun _ => s.held, s.files)

theorem Saving.result_of_returned {s : Saving} {failure : StoreFailure} {after : Files}
    (h : s.returned = (.error failure, after)) : s.result = .error failure ∧ s.files = after := by
  obtain ⟨result, held, files⟩ := s
  cases result with
  | ok _ => cases h
  | error why =>
      cases h
      exact ⟨rfl, rfl⟩

theorem replace_eq_returned (registry : Registry) (files : Files) (path : Path) :
    replace registry files path = (replaceHeld registry files path).returned := by
  rw [replace, replaceHeld]
  cases files.makeDirectories path.parent with
  | error fault => rfl
  | ok made =>
      dsimp only
      cases (advance registry).encode.isWritable with
      | false => rfl
      | true =>
          rcases made.replace path (Text.encode (advance registry).fileText) with ⟨(_ | _) | _, after⟩ <;> rfl

/-- A save returns the registry that its caller holds. -/
theorem save_eq_returned (registry : Registry) (files : Files) (path : Path) (expected : Option Int) :
    save registry files path expected = (saveHeld registry files path expected).returned := by
  rw [save, saveHeld]
  cases check files path expected with
  | error failure => rfl
  | ok _ => exact replace_eq_returned registry files path

/-- A content of which no version can be told: it is no text, or has an integer that is too long. -/
inductive Unreadable (bytes : List UInt8) : Prop where
  | noText {reason : Text.Utf8Error} (h : Text.decode bytes = .error reason)
  | longInteger {text : String} {digits : Nat} (htext : Text.decode bytes = .ok text)
      (h : Json.read text = .error (.longInteger digits))

/-- A version is expected of a file of which none can be told. -/
def Untold (files : Files) (path : Path) (expected : Option Int) : Prop :=
  expected ≠ none ∧ ∃ bytes, files.content? path = some (.ok bytes) ∧ Unreadable bytes

/-- Why a save that passed the check does not come to write the file: the directory cannot be made, the next
version is too long to be written, or the text cannot be put into bytes. -/
inductive Blocked (registry : Registry) (files : Files) (path : Path) : Prop where
  | noDirectory {fault : Fault} (h : files.makeDirectories path.parent = .error fault)
  | unwritable (h : (advance registry).encode.isWritable = false)
  | unencodable (h : files.RefusesText)

/-- A text is unreadable only for an integer in it. -/
theorem unreadable_iff {bytes : List UInt8} {text : String} (htext : Text.decode bytes = .ok text) :
    Unreadable bytes ↔ ∃ digits, Json.read text = .error (.longInteger digits) := by
  constructor
  · rintro (hnone | ⟨htext', hread⟩)
    · cases htext.symm.trans hnone
    · cases htext.symm.trans htext'
      exact ⟨_, hread⟩
  · rintro ⟨digits, hread⟩
    exact .longInteger htext hread

/-- The version of a file cannot be told, for no reason that could be reported, exactly if its content is
unreadable. -/
theorem version_faults_iff {files : Files} {path : Path} :
    (∃ fault, version files path = .error (.fault fault)) ↔
      ∃ bytes, files.content? path = some (.ok bytes) ∧ Unreadable bytes := by
  cases hbytes : files.content? path with
  | none => simp [version, document, hbytes]
  | some content =>
      cases content with
      | error why => simp [version, document, hbytes]
      | ok bytes =>
          simp only [Option.some.injEq, Except.ok.injEq, exists_eq_left']
          cases htext : Text.decode bytes with
          | error reason =>
              exact iff_of_true ⟨.undecodable reason, by simp [version, document, hbytes, htext]⟩ (.noText htext)
          | ok text =>
              rw [unreadable_iff htext]
              cases hread : Json.read text with
              | error e => cases e <;> simp [version, document, hbytes, htext, hread]
              | ok v => cases v <;> simp [version, document, hbytes, htext, hread]

theorem check_faults_iff {files : Files} {path : Path} {expected : Option Int} :
    (∃ fault, check files path expected = .error (.fault fault)) ↔ Untold files path expected := by
  cases expected with
  | none => simp [check, Untold]
  | some expected =>
      rw [Untold, ← version_faults_iff, check]
      cases version files path with
      | error failure => simp
      | ok found =>
          dsimp only
          split <;> simp

/-- What a save that fails leaves behind. -/
structure LeftBy (registry : Registry) (files : Files) (path : Path) (expected : Option Int)
    (failure : StoreFailure) (held : Registry) (after : Files) : Prop where
  /-- Nothing has come to any place but directories: no temporary file stays. -/
  kept : ∀ q, files.KeptAt after q
  /-- The file has the content that it had. -/
  content : after.content? path = files.content? path
  /-- A reason is given unless no version can be told, or the save is blocked after its check. -/
  told : (∃ why, failure = .refused why) ↔
    ¬ Untold files path expected ∧ ¬ (check files path expected = .ok () ∧ Blocked registry files path)
  /-- The registry of the caller is counted up and stays so only if the save is blocked after its check. -/
  held_eq : held = registry ↔ ¬ (check files path expected = .ok () ∧ Blocked registry files path)
  counted : held = registry ∨ held = advance registry

/-- A save that ends at its check leaves everything as it was. -/
theorem leftBy_of_check {registry : Registry} {files : Files} {path : Path} {expected : Option Int}
    {failure : StoreFailure} (h : check files path expected = .error failure) :
    LeftBy registry files path expected failure registry files := by
  have hunblocked : ¬ (check files path expected = .ok () ∧ Blocked registry files path) := by
    rintro ⟨hok, -⟩
    cases h.symm.trans hok
  refine ⟨fun _ => .inl rfl, rfl, ?_, iff_of_true rfl hunblocked, .inl rfl⟩
  rw [and_iff_left hunblocked, ← check_faults_iff, h]
  cases failure <;> simp

/-- A save that is blocked after its check ends without a reason, and the registry stays counted up. -/
theorem leftBy_of_blocked {registry : Registry} {files after : Files} {path : Path} {expected : Option Int}
    {fault : Fault} (hcheck : check files path expected = .ok ()) (hblocked : Blocked registry files path)
    (hkept : ∀ q, files.KeptAt after q) :
    LeftBy registry files path expected (.fault fault) (advance registry) after where
  kept := hkept
  content := (hkept path).content?
  told := iff_of_false (by simp) fun h => h.2 ⟨hcheck, hblocked⟩
  held_eq := iff_of_false (advance_ne registry) fun h => h ⟨hcheck, hblocked⟩
  counted := .inr rfl

/-- A save whose replacement the system refuses is undone. -/
theorem leftBy_of_refused {registry : Registry} {files made after : Files} {path : Path}
    {expected : Option Int} {why : String} (hcheck : check files path expected = .ok ())
    (hmade : files.makeDirectories path.parent = .ok made)
    (hwritable : (advance registry).encode.isWritable = true)
    (hreplace : made.replace path (Text.encode (advance registry).fileText) = (.error (.refused why), after)) :
    LeftBy registry files path expected (.refused (.notWritten path why)) (takeBack (advance registry))
      after := by
  have hkept : ∀ q, files.KeptAt after q := fun q =>
    (Files.keptAt_makeDirectoriesFrom q _ hmade).trans (.inl (Files.lookup?_of_replace_error hreplace q))
  have hunblocked : ¬ (check files path expected = .ok () ∧ Blocked registry files path) := by
    rintro ⟨-, hfault | hunwritable | hrefuses⟩
    · cases hmade.symm.trans hfault
    · cases hwritable.symm.trans hunwritable
    · have hended := Files.replace_of_refusesText ((Files.refusesText_of_makeDirectories hmade).mpr hrefuses) path
        (Text.encode (advance registry).fileText)
      rw [hreplace] at hended
      cases hended
  have htold : ¬ Untold files path expected := by
    rw [← check_faults_iff, hcheck]
    simp
  rw [takeBack_advance]
  exact ⟨hkept, (hkept path).content?, iff_of_true ⟨_, rfl⟩ ⟨htold, hunblocked⟩,
    iff_of_true rfl hunblocked, .inl rfl⟩

theorem leftBy_of_replaceHeld {registry : Registry} {files : Files} {path : Path} {expected : Option Int}
    {failure : StoreFailure} (hcheck : check files path expected = .ok ())
    (h : (replaceHeld registry files path).result = .error failure) :
    LeftBy registry files path expected failure (replaceHeld registry files path).held
      (replaceHeld registry files path).files := by
  rw [replaceHeld] at h ⊢
  cases hmade : files.makeDirectories path.parent with
  | error fault =>
      rw [hmade] at h
      cases h
      exact leftBy_of_blocked hcheck (.noDirectory hmade) fun _ => .inl rfl
  | ok made =>
      rw [hmade] at h
      dsimp only at h ⊢
      cases hwritable : (advance registry).encode.isWritable with
      | false =>
          rw [hwritable] at h
          cases h
          exact leftBy_of_blocked hcheck (.unwritable hwritable) fun q =>
            Files.keptAt_makeDirectoriesFrom q _ hmade
      | true =>
          rw [hwritable] at h
          rcases hreplace : made.replace path (Text.encode (advance registry).fileText) with
            ⟨(why | fault) | _, left⟩
          · rw [hreplace] at h
            cases h
            exact leftBy_of_refused hcheck hmade hwritable hreplace
          · rw [hreplace] at h
            cases h
            have hrefuses := (Files.fault_of_replace (congrArg Prod.fst hreplace)).2
            exact leftBy_of_blocked hcheck (.unencodable ((Files.refusesText_of_makeDirectories hmade).mp hrefuses))
              fun q => (Files.keptAt_makeDirectoriesFrom q _ hmade).trans
                (.inl (Files.lookup?_of_replace_error hreplace q))
          · rw [hreplace] at h
            cases h

/-- However a save fails, the content of its file is what it was and no temporary file stays; the failure
has a reason, and the registry that the caller holds is what it was, unless the content cannot be read, the
directory cannot be made, the next version cannot be written, or its text cannot be put into bytes.  The reader and
the writer have room for any depth here; those that have less have as much as is assumed of what is stored and of
what is written. -/
theorem failed_save_is_undone_iff {registry : Registry} {files after : Files} {path : Path}
    {expected : Option Int} {failure : StoreFailure} (_hstored : IsShallow files path)
    (_hdepth : registry.encode.depth ≤ Json.safeDepth)
    (h : save registry files path expected = (.error failure, after)) :
    LeftBy registry files path expected failure (saveHeld registry files path expected).held after := by
  rw [save_eq_returned] at h
  obtain ⟨hresult, rfl⟩ := Saving.result_of_returned h
  rw [saveHeld] at hresult ⊢
  cases hcheck : check files path expected with
  | error failure' =>
      rw [hcheck] at hresult
      cases hresult
      exact leftBy_of_check hcheck
  | ok _ =>
      rw [hcheck] at hresult
      exact leftBy_of_replaceHeld hcheck hresult

/-- A place for the registry in the working directory. -/
def underData : Path := ⟨"", ["data", "registry.json"]⟩

/-- Why the system does not rename. -/
def acrossDevices : String := "[Errno 18] Invalid cross-device link"

/-- No files, on a system that renames none. -/
def rigid : Files := ⟨[], fun step => if step = .rename then some acrossDevices else none⟩

/-- The first save is refused at its last step: only its directory has been made, and the version is zero
again. -/
theorem failed_save_is_undone_iff_at_rename :
    ∃ after, save .initial rigid underData (some 0) =
        (.error (.refused (.notWritten underData acrossDevices)), after) ∧
      LeftBy .initial rigid underData (some 0) (.refused (.notWritten underData acrossDevices))
        (saveHeld .initial rigid underData (some 0)).held after ∧
      after.lookup? underData.parent = some .directory ∧
      (saveHeld .initial rigid underData (some 0)).held = .initial := by
  have hversion : (Json.int (advance .initial).version).isWritable = true := Json.isWritable_small (by decide)
  have hkeeping := Registry.initial_keeping writable_nil
  have hwritable : (advance .initial).encode.isWritable = true := by
    have hwell := advance_wellFormed Registry.initial_wellFormed
    rwa [Registry.isWritable_encode_iff hwell ⟨hkeeping.environments, hkeeping.applications,
      hkeeping.hosts, hkeeping.provider, hkeeping.extra⟩]
  have hreplace : replace .initial rigid underData =
      (.error (.refused (.notWritten underData acrossDevices)),
        ⟨[(underData.parent, .directory)], rigid.refuses⟩) := by
    have hmade : rigid.makeDirectories underData.parent =
        .ok ⟨[(underData.parent, .directory)], rigid.refuses⟩ := rfl
    rw [replace, hmade]
    dsimp only
    rw [hwritable]
    rfl
  have hsave : save .initial rigid underData (some 0) = _ := hreplace
  have hstored : IsShallow rigid underData := fun bytes text hnone => by cases hnone
  have hleft := failed_save_is_undone_iff hstored (by decide) hsave
  refine ⟨_, hsave, hleft, rfl, hleft.held_eq.mpr ?_⟩
  exact (hleft.told.mp ⟨_, rfl⟩).2

/-- A file that stands where the directory of the registry would be. -/
def inTheWay : Files := ⟨[(underData.parent, .file [])], fun _ => none⟩

/-- A save that cannot make the directory fails without a reason, and its version stays counted up. -/
theorem blocked_save_counts_up :
    save .initial inTheWay underData (some 0) = (.error (.fault .occupied), inTheWay) ∧
      (saveHeld .initial inTheWay underData (some 0)).held = advance .initial ∧
      advance .initial ≠ .initial :=
  ⟨rfl, rfl, advance_ne _⟩

end Store

end EdgeProxy
