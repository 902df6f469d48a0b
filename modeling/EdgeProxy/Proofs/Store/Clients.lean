import EdgeProxy.Proofs.Store.Save
/-!
Clients that share the stored registry.  Each step of a client is atomic: it reads the registry, or it
saves a change of the registry it read last, naming the version it read.  However the steps of any
number of clients follow each other, no saved change is lost: each was computed from the document
that the save before it left, so the document is the composition of all saved changes in their order.
-/

namespace EdgeProxy.Store

/-- What a client makes of a registry.  Counting versions is left to the store. -/
structure Change where
  apply : Registry → Registry
  version : ∀ r, (apply r).version = r.version
  wellFormed : ∀ r, r.WellFormed → (apply r).WellFormed

inductive Step where
  | load (client : Nat)
  | save (client : Nat) (change : Change)

/-- The store with its clients: what each client read last, and the changes that were saved, in
order. -/
structure Shared where
  files : Files
  supply : Supply
  held : Nat → Option Registry
  saved : List Change

namespace Shared

/-- No client has read anything yet. -/
def start (files : Files) (supply : Supply) : Shared := ⟨files, supply, fun _ => none, []⟩

/-- A client reads the registry; it holds on to what it had if that fails. -/
def load (path : Path) (client : Nat) (s : Shared) : Shared :=
  match Store.load s.supply s.files path with
  | (.ok r, supply) =>
    { s with supply := supply, held := fun c => if c = client then some r else s.held c }
  | (.error _, supply) => { s with supply := supply }

/-- The change of a registry is saved over the version that the registry has. -/
def save (path : Path) (r : Registry) (change : Change) (s : Shared) :
    Except StoreFailure Registry × Shared :=
  match Store.save (change.apply r) s.files path (some r.version) with
  | (.ok saved, files) => (.ok saved, { s with files := files, saved := s.saved ++ [change] })
  | (.error failure, files) => (.error failure, { s with files := files })

/-- One step; a client that has read nothing has nothing to save. -/
def step (path : Path) (s : Shared) : Step → Shared
  | .load client => s.load path client
  | .save client change =>
    match s.held client with
    | some r => (s.save path r change).2
    | none => s

def run (path : Path) (s : Shared) (steps : List Step) : Shared := steps.foldl (step path) s

end Shared

/-- A reading of the file gives a registry. -/
def Reads (files : Files) (path : Path) (r : Registry) : Prop :=
  ∃ supply left, load supply files path = (.ok r, left)

/-- The file was written for a registry. -/
structure Holds (files : Files) (path : Path) (r : Registry) : Prop where
  wellFormed : r.WellFormed
  writable : r.encode.isWritable = true
  bytes : files.content? path = some (.ok (Text.encode r.fileText))

/-- The registry that is stored when changes are saved one after the other. -/
def composed (r : Registry) (changes : List Change) : Registry :=
  changes.foldl (fun r change => (advance (change.apply r)).stored) r

theorem Reads.congr {files files' : Files} {path : Path} {r : Registry}
    (h : files.content? path = files'.content? path) (hreads : Reads files path r) :
    Reads files' path r := by
  obtain ⟨supply, left, hload⟩ := hreads
  exact ⟨supply, left, load_congr h supply ▸ hload⟩

theorem Reads.version_eq {files : Files} {path : Path} {r r' : Registry} (h : Reads files path r)
    (h' : Reads files path r') : r.version = r'.version := by
  obtain ⟨supply, left, hload⟩ := h
  obtain ⟨supply', left', hload'⟩ := h'
  obtain ⟨r'', left'', hload'', hversion, -⟩ := load_of_load hload supply'
  rw [hload'] at hload''
  cases hload''
  exact hversion.symm

theorem Holds.stored {files : Files} {path : Path} {r : Registry} (h : Holds files path r) :
    Holds files path r.stored := by
  refine ⟨h.wellFormed.stored, ?_, ?_⟩
  · rw [Registry.encode_stored]
    exact h.writable
  · rw [Registry.fileText, Registry.encode_stored]
    exact h.bytes

theorem Holds.reads_iff {files : Files} {path : Path} {r r' : Registry} (h : Holds files path r) :
    Reads files path r' ↔ r' = r.stored := by
  constructor
  · rintro ⟨supply, left, hload⟩
    rw [load_of_written supply h.wellFormed h.writable h.bytes] at hload
    cases hload
    rfl
  · rintro rfl
    exact ⟨⟨fun _ => "", 0, ⟨0⟩⟩, _, load_of_written _ h.wellFormed h.writable h.bytes⟩

theorem composed_append (r : Registry) (changes : List Change) (change : Change) :
    composed r (changes ++ [change]) =
      (advance (change.apply (composed r changes))).stored := by
  simp [composed]

theorem version_composed (r : Registry) (changes : List Change) :
    (composed r changes).version = r.version + changes.length := by
  induction changes using List.reverseRecOn with
  | nil => simp [composed]
  | append_singleton changes change ih =>
      have hstored : ∀ r : Registry, (advance r).stored.version = r.version + 1 := fun r => rfl
      rw [composed_append, hstored, change.version, ih]
      simp
      omega

theorem stored_composed (r : Registry) {changes : List Change} (h : changes ≠ []) :
    (composed r changes).stored = composed r changes := by
  induction changes using List.reverseRecOn with
  | nil => exact absurd rfl h
  | append_singleton changes change _ => rw [composed_append, Registry.stored_stored]

/-- The file is the first one or holds the composition of the saved changes, and what a client holds
is what the file holds now, or has an earlier version. -/
structure Linear (files : Files) (path : Path) (version : Int) (s : Shared) : Prop where
  unsaved : s.saved = [] → s.files.content? path = files.content? path
  saved : s.saved ≠ [] → ∃ first, Reads files path first ∧ first.version = version ∧
    Holds s.files path (composed first s.saved)
  held : ∀ client r, s.held client = some r →
    r.WellFormed ∧ (Reads s.files path r ∨ s.saved ≠ [] ∧ r.version < version + s.saved.length)

section Linear

variable {files : Files} {path : Path} {version : Int} {s : Shared}

theorem Linear.start (supply : Supply) :
    Linear files path version (Shared.start files supply) := by
  refine ⟨fun _ => rfl, fun h => absurd rfl h, ?_⟩
  intro client r h
  cases h

/-- The reading of the file is counted by the saves. -/
theorem Linear.version_of_reads (h : Linear files path version s)
    (hversion : ∀ r, Reads files path r → r.version = version) {r : Registry}
    (hreads : Reads s.files path r) : r.version = version + s.saved.length := by
  by_cases hsaved : s.saved = []
  · have hfirst := hversion r (hreads.congr (h.unsaved hsaved))
    rw [hfirst, hsaved]
    simp
  · obtain ⟨first, -, hfirst, hholds⟩ := h.saved hsaved
    have heq := hholds.reads_iff.mp hreads
    have hstored : r.version = (composed first s.saved).version := by
      rw [heq]
      rfl
    rw [hstored, version_composed, hfirst]

/-- A save that passes the check of the version was computed from what the file holds. -/
theorem Linear.reads_of_check (h : Linear files path version s) {client : Nat} {r : Registry}
    (hheld : s.held client = some r)
    (hcheck : check s.files path (some r.version) = .ok ()) : Reads s.files path r := by
  rcases (h.held client r hheld).2 with hreads | ⟨hsaved, hlt⟩
  · exact hreads
  · obtain ⟨first, -, hfirst, hholds⟩ := h.saved hsaved
    have hfound := version_of_written hholds.wellFormed hholds.writable hholds.bytes
    rw [check_some hfound] at hcheck
    split at hcheck
    next heq =>
      rw [StoredVersion.count, version_composed, hfirst] at heq
      omega
    · cases hcheck

/-- Once a client has read something, the file has a version. -/
theorem Linear.exists_version (h : Linear files path version s) {client : Nat} {r : Registry}
    (hheld : s.held client = some r) : ∃ found, Store.version s.files path = .ok found := by
  rcases (h.held client r hheld).2 with ⟨supply, left, hload⟩ | ⟨hsaved, -⟩
  · exact version_of_load hload
  · obtain ⟨first, -, -, hholds⟩ := h.saved hsaved
    exact ⟨_, version_of_written hholds.wellFormed hholds.writable hholds.bytes⟩

theorem Linear.load (h : Linear files path version s) (client : Nat) :
    Linear files path version (s.load path client) := by
  rw [Shared.load]
  split
  next r left hload =>
    refine ⟨h.unsaved, h.saved, ?_⟩
    intro other r' hheld
    dsimp only at hheld
    split at hheld
    · cases hheld
      exact ⟨wellFormed_of_load hload, Or.inl ⟨_, _, hload⟩⟩
    · exact h.held other r' hheld
  · exact ⟨h.unsaved, h.saved, h.held⟩

theorem Linear.save (h : Linear files path version s)
    (hversion : ∀ r, Reads files path r → r.version = version) {client : Nat} {r : Registry}
    (hheld : s.held client = some r) (change : Change) :
    Linear files path version (s.save path r change).2 := by
  rw [Shared.save]
  split
  next saved after hsave =>
    obtain ⟨hcheck, hadvance, hwritable, hbytes⟩ := save_ok hsave
    have hwell := (h.held client r hheld).1
    have hreads := h.reads_of_check hheld hcheck
    have hcurrent := h.version_of_reads hversion hreads
    refine ⟨fun hnil => absurd hnil (by simp), fun _ => ?_, ?_⟩
    · have hholds : Holds after path saved :=
        ⟨hadvance ▸ advance_wellFormed (change.wellFormed r hwell), hwritable, hbytes⟩
      by_cases hsaved : s.saved = []
      · have hfirst := hreads.congr (h.unsaved hsaved)
        refine ⟨r, hfirst, hversion r hfirst, ?_⟩
        have hcomposed : composed r (s.saved ++ [change]) = saved.stored := by
          rw [composed_append, hsaved, hadvance]
          rfl
        rw [hcomposed]
        exact hholds.stored
      · obtain ⟨first, hreadsFirst, hfirst, hbefore⟩ := h.saved hsaved
        refine ⟨first, hreadsFirst, hfirst, ?_⟩
        have heq : r = composed first s.saved :=
          (hbefore.reads_iff.mp hreads).trans (stored_composed first hsaved)
        have hcomposed : composed first (s.saved ++ [change]) = saved.stored := by
          rw [composed_append, ← heq, hadvance]
        rw [hcomposed]
        exact hholds.stored
    · intro other r' hother
      obtain ⟨hwell', hcase⟩ := h.held other r' hother
      refine ⟨hwell', Or.inr ⟨by simp, ?_⟩⟩
      have hle : r'.version ≤ version + s.saved.length := by
        rcases hcase with hreads' | ⟨-, hlt⟩
        · exact le_of_eq (h.version_of_reads hversion hreads')
        · exact le_of_lt hlt
      rw [List.length_append, List.length_singleton]
      omega
  next failure after hsave =>
    have hsame := (save_error hsave).2 path
    refine ⟨fun hnil => hsame.trans (h.unsaved hnil), ?_, ?_⟩
    · intro hsaved
      obtain ⟨first, hreads, hfirst, hholds⟩ := h.saved hsaved
      exact ⟨first, hreads, hfirst, hholds.wellFormed, hholds.writable, hsame.trans hholds.bytes⟩
    · intro other r' hother
      obtain ⟨hwell, hcase⟩ := h.held other r' hother
      exact ⟨hwell, hcase.imp_left fun hreads => hreads.congr hsame.symm⟩

theorem Linear.step (h : Linear files path version s)
    (hversion : ∀ r, Reads files path r → r.version = version) (step : Step) :
    Linear files path version (s.step path step) := by
  cases step with
  | load client => exact h.load client
  | save client change =>
      rw [Shared.step]
      cases hheld : s.held client with
      | none => exact h
      | some r => exact h.save hversion hheld change

theorem Linear.run (h : Linear files path version s)
    (hversion : ∀ r, Reads files path r → r.version = version) (steps : List Step) :
    Linear files path version (s.run path steps) := by
  induction steps generalizing s with
  | nil => exact h
  | cons step rest ih => exact ih (h.step hversion step)

end Linear

/-- What holds of the store after any steps of its clients, where `first` is a reading of the file
before them. -/
structure Serial (files : Files) (path : Path) (first : Registry) (s : Shared) : Prop where
  /-- Without a saved change the file is as it was. -/
  unsaved : s.saved = [] → s.files.content? path = files.content? path
  /-- Otherwise it holds the composition of the saved changes in their order. -/
  saved : s.saved ≠ [] → ∃ r, Reads files path r ∧
    s.files.content? path = some (.ok (Text.encode (composed r s.saved).fileText)) ∧
      ∀ supply, load supply s.files path = (.ok (composed r s.saved), supply)
  /-- Its version has been counted up by one for each saved change. -/
  version : ∀ r, Reads s.files path r → r.version = first.version + s.saved.length
  /-- A save that succeeds now was computed from what the file holds now, and is written. -/
  accepted : ∀ client r change saved after, s.held client = some r →
    s.save path r change = (.ok saved, after) →
      Reads s.files path r ∧ saved = advance (change.apply r) ∧
        after.files.content? path = some (.ok (Text.encode saved.fileText)) ∧
        after.saved = s.saved ++ [change]
  /-- A save that fails now leaves the file as it is; it conflicts with the version of the file, or
  its version is that of the file and the file cannot be replaced at all. -/
  rejected : ∀ client r change failure after, s.held client = some r →
    s.save path r change = (.error failure, after) →
      after.files.content? path = s.files.content? path ∧ after.saved = s.saved ∧
        ∃ found, Store.version s.files path = .ok found ∧
          (found.count ≠ r.version ∧ failure = .refused (.conflict r.version found) ∨
            found.count = r.version ∧ NotReplaced (change.apply r) s.files path failure)

theorem Linear.serial {files : Files} {path : Path} {first : Registry} {s : Shared}
    (hfirst : Reads files path first) (h : Linear files path first.version s) :
    Serial files path first s := by
  have hversion : ∀ r, Reads files path r → r.version = first.version :=
    fun r hreads => hreads.version_eq hfirst
  refine ⟨h.unsaved, ?_, fun r hreads => h.version_of_reads hversion hreads, ?_, ?_⟩
  · intro hsaved
    obtain ⟨r, hreads, -, hholds⟩ := h.saved hsaved
    refine ⟨r, hreads, hholds.bytes, ?_⟩
    intro supply
    rw [load_of_written supply hholds.wellFormed hholds.writable hholds.bytes,
      stored_composed r hsaved]
  · intro client r change saved after hheld hsave
    rw [Shared.save] at hsave
    split at hsave
    next hok =>
      cases hsave
      obtain ⟨hcheck, hadvance, -, hbytes⟩ := save_ok hok
      exact ⟨h.reads_of_check hheld hcheck, hadvance, hbytes, rfl⟩
    · cases hsave
  · intro client r change failure after hheld hsave
    rw [Shared.save] at hsave
    split at hsave
    · cases hsave
    next herror =>
      cases hsave
      obtain ⟨hcause, hsame⟩ := save_error herror
      obtain ⟨found, hfound⟩ := h.exists_version hheld
      refine ⟨hsame path, rfl, found, hfound, ?_⟩
      rcases hcause with hconflict | ⟨hcheck, hnot⟩
      · rw [check_some hfound] at hconflict
        split at hconflict
        · cases hconflict
        next hne =>
          cases hconflict
          exact Or.inl ⟨hne, rfl⟩
      · rw [check_some hfound] at hcheck
        split at hcheck
        next heq => exact Or.inr ⟨heq, hnot⟩
        · cases hcheck

end EdgeProxy.Store
