import EdgeProxy.File.Tree
import EdgeProxy.Proofs.Keys
import Mathlib.Data.List.Perm.Subperm
import Mathlib.Data.List.Nodup
/-!
Replacing a file.  A replacement that the system carries out stores the new content; one that it
refuses, at whatever step, leaves everything as it was, because the temporary file takes a place at
which nothing stood.
-/

namespace EdgeProxy

namespace Path

theorem resolveParts_append_singleton {name : String} (h : name ≠ "..") (rooted : Bool)
    (above parts : List String) :
    resolveParts rooted above (parts ++ [name]) = resolveParts rooted above parts ++ [name] := by
  induction parts generalizing above with
  | nil => simp [resolveParts, h]
  | cons part rest ih =>
      rw [List.cons_append]
      by_cases hup : part = ".."
      · cases above with
        | nil => simp [resolveParts, hup, ih]
        | cons last before =>
            by_cases hlast : last = ".."
            · simp [resolveParts, hup, hlast, ih]
            · simp [resolveParts, hup, hlast, ih]
      · simp [resolveParts, hup, ih]

end Path

namespace Files

theorem lookup?_remove_self (files : Files) (p : Path) : (files.remove p).lookup? p = none :=
  lookup_without_self _ _

theorem lookup?_remove_of_ne (files : Files) {p q : Path} (h : q.resolve ≠ p.resolve) :
    (files.remove p).lookup? q = files.lookup? q :=
  lookup_without_of_ne h _

theorem lookup?_put (files : Files) (p : Path) (entry : Entry) (q : Path) :
    (files.put p entry).lookup? q =
      ((files.remove p).lookup? q).or ([(p.resolve, entry)].lookup q.resolve) :=
  List.lookup_append

theorem lookup?_put_self (files : Files) (p : Path) (entry : Entry) :
    (files.put p entry).lookup? p = some entry := by
  rw [lookup?_put, lookup?_remove_self]
  simp

theorem lookup?_put_of_ne (files : Files) {p q : Path} (h : q.resolve ≠ p.resolve) (entry : Entry) :
    (files.put p entry).lookup? q = files.lookup? q := by
  rw [lookup?_put, lookup?_remove_of_ne files h]
  simp [List.lookup_cons, beq_false_of_ne h]

theorem temporaryName_injective : Function.Injective temporaryName := by
  intro n m h
  have hlength := congrArg String.length h
  simp only [temporaryName, String.length_append, String.length_ofList, List.length_replicate]
    at hlength
  omega

theorem temporaryName_ne_up (n : Nat) : temporaryName n ≠ ".." := by
  intro heq
  have hlength := congrArg String.length heq
  have htwo : "..".length = 2 := rfl
  simp only [temporaryName, String.length_append, String.length_ofList, List.length_replicate, htwo]
    at hlength
  omega

/-- The places for temporary files are beside each other. -/
theorem resolve_temporary (target : Path) (n : Nat) :
    (target.parent.child (temporaryName n)).resolve =
      ⟨target.parent.resolve.root, target.parent.resolve.parts ++ [temporaryName n]⟩ := by
  simp only [Path.resolve, Path.child, Path.resolveParts_append_singleton (temporaryName_ne_up n)]

theorem resolve_temporary_injective (target : Path) :
    Function.Injective fun n => (target.parent.child (temporaryName n)).resolve := by
  intro n m h
  simp only [resolve_temporary, Path.mk.injEq, List.append_cancel_left_eq, List.cons.injEq, and_true,
    true_and] at h
  exact temporaryName_injective h

/-- Among the places for a temporary file one is free: there are more of them than entries. -/
theorem exists_free_place (files : Files) (target : Path) :
    ∃ p ∈ files.temporaryPlaces target, files.lookup? p = none := by
  by_contra hall
  push Not at hall
  have hsubset : (files.temporaryPlaces target).map Path.resolve ⊆ files.entries.map Prod.fst := by
    intro q hq
    obtain ⟨p, hp, rfl⟩ := List.mem_map.mp hq
    have hsome := hall p hp
    rw [lookup?, Ne, List.lookup_eq_none_iff] at hsome
    push Not at hsome
    obtain ⟨a, ha, heq⟩ := hsome
    have hkey : p.resolve = a.1 := by simpa using heq
    exact hkey ▸ List.mem_map_of_mem ha
  have hnodup : ((files.temporaryPlaces target).map Path.resolve).Nodup := by
    rw [temporaryPlaces, List.map_map]
    exact List.nodup_range.map (resolve_temporary_injective target)
  have hlength := (hnodup.subperm hsubset).length_le
  simp only [temporaryPlaces, List.length_map, List.length_range] at hlength
  omega

theorem lookup?_temporaryFor (files : Files) (target : Path) :
    files.lookup? (files.temporaryFor target) = none := by
  obtain ⟨p, hp, hfree⟩ := exists_free_place files target
  rw [temporaryFor]
  cases hfind : (files.temporaryPlaces target).find? fun p => (files.lookup? p).isNone with
  | none =>
      rw [List.find?_eq_none] at hfind
      exact absurd (by simp [hfree]) (hfind p hp)
  | some q =>
      have hq := List.find?_some hfind
      simpa using hq

/-- Taking away what was put at a free place leaves everything as it was. -/
theorem lookup?_remove_of_free {files changed : Files} {p : Path} (hfree : files.lookup? p = none)
    (hsame : ∀ q : Path, q.resolve ≠ p.resolve → changed.lookup? q = files.lookup? q) (q : Path) :
    (changed.remove p).lookup? q = files.lookup? q := by
  by_cases hq : q.resolve = p.resolve
  · have hsame : ∀ f : Files, f.lookup? q = f.lookup? p := by
      intro f
      rw [lookup?, lookup?, hq]
    rw [hsame, hsame, lookup?_remove_self, hfree]
  · rw [lookup?_remove_of_ne _ hq, hsame q hq]

/-- A replacement that is given up leaves every path as it was. -/
theorem lookup?_of_replace_error {files after : Files} {target : Path} {bytes : List UInt8}
    {why : Unreplaced} (h : files.replace target bytes = (.error why, after)) (q : Path) :
    after.lookup? q = files.lookup? q := by
  have hfree := lookup?_temporaryFor files target
  have hcreated : ((files.put (files.temporaryFor target) (.file [])).remove
      (files.temporaryFor target)).lookup? q = files.lookup? q :=
    lookup?_remove_of_free hfree (fun q hq => lookup?_put_of_ne _ hq _) q
  simp only [replace] at h
  split at h
  · cases h
    rfl
  · split at h
    · cases h
      exact hcreated
    · cases h
      exact hcreated
    · have hsame : ∀ q : Path, q.resolve ≠ (files.temporaryFor target).resolve →
          ((files.put (files.temporaryFor target) (.file [])).put (files.temporaryFor target)
            (.file bytes)).lookup? q = files.lookup? q := by
        intro q hq
        rw [lookup?_put_of_ne _ hq, lookup?_put_of_ne _ hq]
      rw [renameTo] at h
      split at h
      · cases h
        exact lookup?_remove_of_free hfree hsame q
      · split at h
        · cases h
          exact lookup?_remove_of_free hfree hsame q
        · simp at h

/-- A temporary file can be created and written to, but the text cannot be put into bytes. -/
structure RefusesText (files : Files) : Prop where
  creates : files.refuses .create = none
  writes : files.refuses .write = none
  encode : (files.refuses .encode).isSome = true

theorem replace_of_refusesText {files : Files} (h : files.RefusesText) (target : Path) (bytes : List UInt8) :
    (files.replace target bytes).1 = .error (.fault .unencodable) := by
  obtain ⟨why, hencode⟩ := Option.isSome_iff_exists.mp h.encode
  have hput (p : Path) (entry : Entry) : (files.put p entry).refuses = files.refuses := rfl
  simp only [replace, hput, h.creates, h.writes, hencode, abandon]

/-- A replacement ends in a fault only where the text cannot be put into bytes. -/
theorem fault_of_replace {files : Files} {target : Path} {bytes : List UInt8} {fault : Fault}
    (h : (files.replace target bytes).1 = .error (.fault fault)) :
    fault = .unencodable ∧ files.RefusesText := by
  simp only [replace] at h
  split at h
  · cases h
  next hcreate =>
    split at h
    · cases h
    next why hwrite hencode =>
      cases h
      have hrefused : files.refuses .encode = some why := hencode
      exact ⟨rfl, hcreate, hwrite, by rw [hrefused]; rfl⟩
    · rw [renameTo] at h
      split at h
      · cases h
      · split at h <;> cases h

/-- A replacement that is carried out stores the new content. -/
theorem content?_of_replace_ok {files after : Files} {target : Path} {bytes : List UInt8}
    (h : files.replace target bytes = (.ok (), after)) : after.content? target = some (.ok bytes) := by
  simp only [replace] at h
  split at h
  · simp at h
  · split at h
    · simp [abandon] at h
    · simp [abandon] at h
    · rw [renameTo] at h
      split at h
      · simp [abandon] at h
      · split at h
        · simp [abandon] at h
        · cases h
          rw [content?, lookup?_put_self]

theorem content?_of_lookup? {files after : Files} {q : Path} (h : after.lookup? q = files.lookup? q) :
    after.content? q = files.content? q := by
  rw [content?, content?, h]

/-- A directory is there, or is put where nothing is. -/
theorem makeDirectory_eq_ok {files after : Files} {p : Path} (h : files.makeDirectory p = .ok after) :
    files.isDirectory p = true ∧ after = files ∨
      files.isDirectory p = false ∧ files.content? p = none ∧ after = files.put p .directory := by
  rw [makeDirectory] at h
  split at h
  next hthere =>
    cases h
    exact .inl ⟨hthere, rfl⟩
  next hnone =>
    split at h
    · simp at h
    next hfile =>
      split at h
      · simp at h
      · cases h
        exact .inr ⟨by simpa using hnone, by simpa [isFile] using hfile, rfl⟩

/-- A directory that is made changes the content of no file. -/
theorem content?_of_makeDirectory {files after : Files} {p : Path}
    (h : files.makeDirectory p = .ok after) (q : Path) : after.content? q = files.content? q := by
  rcases makeDirectory_eq_ok h with ⟨-, rfl⟩ | ⟨-, hnone, rfl⟩
  · rfl
  · by_cases hq : q.resolve = p.resolve
    · have hsame : ∀ f : Files, f.content? q = f.content? p := by
        intro f
        rw [content?, content?, lookup?, lookup?, hq]
      rw [hsame, hsame, hnone, content?, lookup?_put_self]
    · exact content?_of_lookup? (lookup?_put_of_ne _ hq _)

/-- Where nothing but a file below the root may stand, the file is replaced. -/
theorem replace_alone (files : Files)
    (hentries : files.entries = [] ∨
      ∃ old, files.entries = [(⟨"/", ["registry.json"]⟩, .file old)])
    (hrefuses : files.refuses = fun _ => none) (bytes : List UInt8) :
    files.replace ⟨"/", ["registry.json"]⟩ bytes =
      (.ok (), ⟨[(⟨"/", ["registry.json"]⟩, .file bytes)], fun _ => none⟩) := by
  obtain ⟨entries, refuses⟩ := files
  dsimp only at hentries hrefuses
  subst hrefuses
  rcases hentries with rfl | ⟨old, rfl⟩
  · rfl
  · rfl

theorem content?_of_makeDirectoriesFrom {p : Path} (q : Path) (left : Nat) {files after : Files}
    {depth : Nat} (h : files.makeDirectoriesFrom p depth left = .ok after) :
    after.content? q = files.content? q := by
  induction left generalizing files depth with
  | zero =>
      cases h
      rfl
  | succ left ih =>
      rw [makeDirectoriesFrom] at h
      split at h
      · simp at h
      · split at h
        next hmake => rw [ih h, content?_of_makeDirectory hmake]
        · simp at h

theorem refuses_of_makeDirectoriesFrom {p : Path} (left : Nat) {files after : Files} {depth : Nat}
    (h : files.makeDirectoriesFrom p depth left = .ok after) : after.refuses = files.refuses := by
  induction left generalizing files depth with
  | zero =>
      cases h
      rfl
  | succ left ih =>
      rw [makeDirectoriesFrom] at h
      split at h
      · simp at h
      · split at h
        next hmake =>
          rw [ih h]
          rcases makeDirectory_eq_ok hmake with ⟨-, rfl⟩ | ⟨-, -, rfl⟩ <;> rfl
        · simp at h

/-- Making directories does not change what the system refuses. -/
theorem refusesText_of_makeDirectories {files made : Files} {p : Path} (h : files.makeDirectories p = .ok made) :
    made.RefusesText ↔ files.RefusesText := by
  have hrefuses := refuses_of_makeDirectoriesFrom _ h
  exact ⟨fun ⟨hcreate, hwrite, hencode⟩ => ⟨hrefuses ▸ hcreate, hrefuses ▸ hwrite, hrefuses ▸ hencode⟩,
    fun ⟨hcreate, hwrite, hencode⟩ => ⟨hrefuses ▸ hcreate, hrefuses ▸ hwrite, hrefuses ▸ hencode⟩⟩

theorem content?_of_makeDirectories {files after : Files} {p : Path}
    (h : files.makeDirectories p = .ok after) (q : Path) : after.content? q = files.content? q :=
  content?_of_makeDirectoriesFrom q _ h

end Files

end EdgeProxy
