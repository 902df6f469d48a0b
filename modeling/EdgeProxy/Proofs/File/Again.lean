import EdgeProxy.Proofs.File.Replace
/-!
Replacing a file again.  A file that was replaced stands in a directory that is there, and is not one itself;
so as long as the system refuses nothing, it can be replaced once more.
-/

namespace EdgeProxy

namespace Path

/-- Parts, last first, of which only the first ones lead upward, and none from a root. -/
inductive Settled (rooted : Bool) : List String → Prop where
  | nil : Settled rooted []
  | up {above : List String} (hfree : rooted = false) (hups : ∀ part ∈ above, part = "..") :
      Settled rooted (".." :: above)
  | part {name : String} {above : List String} (hname : name ≠ "..") (h : Settled rooted above) :
      Settled rooted (name :: above)

theorem Settled.ups {rooted : Bool} {above : List String} (h : Settled rooted (".." :: above)) :
    rooted = false ∧ ∀ part ∈ above, part = ".." := by
  cases h with
  | up hfree hups => exact ⟨hfree, hups⟩
  | part hname => exact absurd rfl hname

theorem Settled.tail {rooted : Bool} {name : String} {above : List String}
    (h : Settled rooted (name :: above)) : Settled rooted above := by
  cases h with
  | part _ habove => exact habove
  | up hfree hups =>
      cases above with
      | nil => exact .nil
      | cons part more =>
          rw [List.forall_mem_cons] at hups
          exact hups.1 ▸ .up hfree hups.2

theorem Settled.of_append {rooted : Bool} {front back : List String}
    (h : Settled rooted (front ++ back)) : Settled rooted back := by
  induction front with
  | nil => exact h
  | cons name rest ih => exact ih h.tail

/-- What is left of parts that are gone through is settled. -/
theorem settled_resolveParts {rooted : Bool} (parts : List String) {above : List String}
    (h : Settled rooted above) : Settled rooted (resolveParts rooted above parts).reverse := by
  induction parts generalizing above with
  | nil => simpa [resolveParts] using h
  | cons part rest ih =>
      rw [resolveParts.eq_def]
      dsimp only
      split
      · split
        · split
          · exact ih .nil
          next hfree => exact ih (.up (by simpa using hfree) (by simp))
        next last before =>
          split
          next hlast =>
            obtain rfl : last = ".." := by simpa using hlast
            obtain ⟨hfree, hups⟩ := h.ups
            exact ih (.up hfree (List.forall_mem_cons.mpr ⟨rfl, hups⟩))
          next => exact ih h.tail
      next hpart => exact ih (.part (by simpa using hpart) h)

/-- Settled parts are left as they are. -/
theorem resolveParts_of_settled {rooted : Bool} {parts above : List String}
    (h : Settled rooted (parts.reverse ++ above)) :
    resolveParts rooted above parts = above.reverse ++ parts := by
  induction parts generalizing above with
  | nil => simp [resolveParts]
  | cons part rest ih =>
      rw [List.reverse_cons, List.append_assoc, List.singleton_append] at h
      have hnext : resolveParts rooted (part :: above) rest = above.reverse ++ part :: rest := by
        rw [ih h, List.reverse_cons, List.append_assoc, List.singleton_append]
      by_cases hpart : part = ".."
      · subst hpart
        obtain ⟨rfl, hups⟩ := h.of_append.ups
        cases above with
        | nil => simpa [resolveParts] using hnext
        | cons last before =>
            obtain rfl := hups last List.mem_cons_self
            simpa [resolveParts] using hnext
      · simpa [resolveParts, hpart] using hnext

/-- The directory that so many parts of a path lead to, and one more. -/
def upTo (p : Path) (depth : Nat) : Path := ⟨p.root, p.parts.take (depth + 1)⟩

theorem resolve_resolve (p : Path) : p.resolve.resolve = p.resolve := by
  have hsettled : Settled (!p.root.isEmpty) (p.resolve.parts.reverse ++ []) := by
    rw [List.append_nil]
    exact settled_resolveParts p.parts .nil
  exact congrArg (Path.mk p.root) (resolveParts_of_settled hsettled)

end Path

namespace Files

/-- What lies beside each other lies below the same paths. -/
theorem isBelow_beside {directory p : Path} {name : String} (other : String)
    (h : isBelow directory ⟨p.root, p.parts ++ [name]⟩ = true) :
    isBelow directory ⟨p.root, p.parts ++ [other]⟩ = true := by
  simp only [isBelow, Bool.and_eq_true, beq_iff_eq, List.isPrefixOf_iff_prefix, bne_iff_ne,
    List.prefix_concat_iff] at h ⊢
  obtain ⟨⟨hroot, hparts⟩, hne⟩ := h
  have hparts : directory.parts <+: p.parts := by
    refine hparts.resolve_left fun heq => hne ?_
    rw [← hroot, ← heq]
  refine ⟨⟨hroot, .inr hparts⟩, ?_⟩
  rintro rfl
  have hlength := hparts.length_le
  simp only [List.length_append, List.length_singleton] at hlength
  omega

theorem isBelow_irrefl (p : Path) : isBelow p p = false := by
  simp [isBelow]

variable {files made after : Files} {p q : Path} {entry : Entry}

/-- A directory is where every path leads to, is stored as one, or holds something. -/
theorem isDirectory_iff : files.isDirectory p = true ↔
    (p.resolve.parts.all (· == "..") = true ∨ files.lookup? p = some .directory) ∨
      ∃ stored ∈ files.entries, isBelow p.resolve stored.1 = true := by
  have htop : p.resolve.parts.isEmpty = true → p.resolve.parts.all (· == "..") = true := by
    intro h
    rw [List.isEmpty_iff.mp h]
    rfl
  have hlookup : files.lookup? p.resolve = files.lookup? p := by
    rw [lookup?, lookup?, Path.resolve_resolve]
  simp only [isDirectory, hlookup, Bool.or_eq_true, List.any_eq_true, beq_iff_eq]
  constructor
  · rintro (((hempty | hups) | hstored) | hbelow)
    · exact .inl (.inl (htop hempty))
    · exact .inl (.inl hups)
    · exact .inl (.inr hstored)
    · exact .inr hbelow
  · rintro ((hups | hstored) | hbelow)
    · exact .inl (.inl (.inr hups))
    · exact .inl (.inr hstored)
    · exact .inr hbelow

theorem isDirectory_congr (h : p.resolve = q.resolve) : files.isDirectory p = files.isDirectory q := by
  simp only [isDirectory, h]

theorem mem_entries_put {stored : Path × Entry} :
    stored ∈ (files.put p entry).entries ↔
      stored ∈ files.entries ∧ stored.1 ≠ p.resolve ∨ stored = (p.resolve, entry) := by
  simp [put, List.mem_filter]

/-- What is put somewhere stands there, so nothing is less below a path than before. -/
theorem exists_below_put {directory : Path} (p : Path) (entry : Entry)
    (h : ∃ stored ∈ files.entries, isBelow directory stored.1 = true) :
    ∃ stored ∈ (files.put p entry).entries, isBelow directory stored.1 = true := by
  obtain ⟨stored, hstored, hbelow⟩ := h
  by_cases hkey : stored.1 = p.resolve
  · exact ⟨_, mem_entries_put.mpr (.inr rfl), hkey ▸ hbelow⟩
  · exact ⟨stored, mem_entries_put.mpr (.inl ⟨hstored, hkey⟩), hbelow⟩

theorem lookup?_congr (h : p.resolve = q.resolve) : files.lookup? p = files.lookup? q := by
  rw [lookup?, lookup?, h]

/-- What is put in the place of something else than a directory leaves every directory one. -/
theorem isDirectory_put (h : files.isDirectory q = true) (hp : files.lookup? p ≠ some .directory)
    (entry : Entry) : (files.put p entry).isDirectory q = true := by
  rw [isDirectory_iff] at h ⊢
  rcases h with (hups | hstored) | hbelow
  · exact .inl (.inl hups)
  · have hne : q.resolve ≠ p.resolve := fun heq => hp ((lookup?_congr heq).symm.trans hstored)
    exact .inl (.inr ((lookup?_put_of_ne files hne entry).trans hstored))
  · exact .inr (exists_below_put p entry hbelow)

theorem remove_put (files : Files) (p : Path) (entry : Entry) :
    (files.put p entry).remove p = files.remove p := by
  simp [remove, put, List.filter_append]

theorem remove_of_free (h : files.lookup? p = none) : files.remove p = files :=
  congrArg (fun entries => { files with entries }) (filter_of_lookup_eq_none h)

theorem temporaryFor_eq (files : Files) (target : Path) :
    ∃ n, files.temporaryFor target = target.parent.child (temporaryName n) := by
  rw [temporaryFor]
  cases hfind : (files.temporaryPlaces target).find? fun p => (files.lookup? p).isNone with
  | none => exact ⟨0, rfl⟩
  | some place =>
      obtain ⟨n, -, heq⟩ := List.mem_map.mp (List.mem_of_find?_eq_some hfind)
      exact ⟨n, heq.symm⟩

theorem put_put (files : Files) (p : Path) (first second : Entry) :
    (files.put p first).put p second = files.put p second := by
  simp [put, List.filter_append]

/-- The temporary file, which takes a place at which nothing stood, leaves no trace. -/
theorem remove_temporary (files : Files) (target : Path) (first second : Entry) :
    ((files.put (files.temporaryFor target) first).put (files.temporaryFor target) second).remove
      (files.temporaryFor target) = files := by
  rw [put_put, remove_put, remove_of_free (lookup?_temporaryFor files target)]

/-- A file that is replaced is put in the place of what is not a directory, even while the temporary file is
there. -/
theorem replace_eq_ok {target : Path} {bytes : List UInt8}
    (h : files.replace target bytes = (.ok (), after)) :
    (files.put (files.temporaryFor target) (.file bytes)).isDirectory target = false ∧
      after = files.put target (.file bytes) := by
  simp only [replace] at h
  split at h
  · simp at h
  · split at h
    · simp [abandon] at h
    · simp [abandon] at h
    · rw [renameTo] at h
      split at h
      · simp [abandon] at h
      · split at h
        · simp [abandon] at h
        next hplain =>
          rw [remove_temporary] at h
          rw [put_put] at hplain
          cases h
          exact ⟨by simpa using hplain, rfl⟩

theorem replace_of_plain (hrefuses : ∀ step, files.refuses step = none) {target : Path}
    {bytes : List UInt8}
    (hplain : (files.put (files.temporaryFor target) (.file bytes)).isDirectory target = false) :
    files.replace target bytes = (.ok (), files.put target (.file bytes)) := by
  have hput : ∀ (files : Files) (p : Path) (entry : Entry), (files.put p entry).refuses = files.refuses :=
    fun _ _ _ => rfl
  have htemporary := remove_temporary files target (.file []) (.file bytes)
  rw [put_put] at htemporary
  simp only [replace, renameTo, hput, hrefuses, put_put, hplain, htemporary, Bool.false_eq_true, ↓reduceIte]

/-- Where a directory cannot be replaced, it cannot be either when the temporary file has another name. -/
theorem plain_again {target : Path} {bytes : List UInt8}
    (h : (files.put (files.temporaryFor target) (.file bytes)).isDirectory target = false)
    (old new : List UInt8) :
    ((files.put target (.file old)).put ((files.put target (.file old)).temporaryFor target)
      (.file new)).isDirectory target = false := by
  obtain ⟨n, hn⟩ := temporaryFor_eq files target
  obtain ⟨m, hm⟩ := temporaryFor_eq (files.put target (.file old)) target
  have hfree := lookup?_temporaryFor (files.put target (.file old)) target
  rw [← Bool.not_eq_true, isDirectory_iff] at h ⊢
  intro hagain
  apply h
  rcases hagain with (hups | hstored) | ⟨stored, hstored, hbelow⟩
  · exact .inl (.inl hups)
  · have hne : target.resolve ≠ ((files.put target (.file old)).temporaryFor target).resolve := by
      intro heq
      cases (lookup?_put_self files target (.file old)).symm.trans ((lookup?_congr heq).trans hfree)
    rw [lookup?_put_of_ne _ hne, lookup?_put_self] at hstored
    cases hstored
  · refine .inr ?_
    rcases mem_entries_put.mp hstored with ⟨hstored, -⟩ | rfl
    · rcases mem_entries_put.mp hstored with ⟨hstored, -⟩ | rfl
      · exact exists_below_put _ _ ⟨stored, hstored, hbelow⟩
      · cases (isBelow_irrefl _).symm.trans hbelow
    · rw [hm, resolve_temporary] at hbelow
      refine ⟨_, mem_entries_put.mpr (.inr rfl), ?_⟩
      rw [hn, resolve_temporary]
      exact isBelow_beside (temporaryName n) hbelow

theorem isDirectory_makeDirectory (h : files.makeDirectory p = .ok made) :
    made.isDirectory p = true ∧ ∀ q, files.isDirectory q = true → made.isDirectory q = true := by
  rcases makeDirectory_eq_ok h with ⟨hthere, rfl⟩ | ⟨hnone, -, rfl⟩
  · exact ⟨hthere, fun _ hq => hq⟩
  · refine ⟨isDirectory_iff.mpr (.inl (.inr (lookup?_put_self _ _ _))), fun q hq => isDirectory_put hq ?_ _⟩
    intro hstored
    cases hnone.symm.trans (isDirectory_iff.mpr (.inl (.inr hstored)))

/-- From a depth on, every part of a path leads to a directory, and to no file where the path goes on. -/
def Leads (files : Files) (p : Path) (depth : Nat) : Prop :=
  ∀ d, depth ≤ d → d < p.parts.length → files.isDirectory (p.upTo d) = true ∧
    (d + 1 < p.parts.length → files.content? (p.upTo d) = none)

theorem makeDirectoriesFrom_succ (files : Files) (p : Path) (depth left : Nat) :
    files.makeDirectoriesFrom p depth (left + 1) =
      if files.isFile (p.upTo depth) && 0 < left then .error .notDirectory
      else
        match files.makeDirectory (p.upTo depth) with
        | .ok files => files.makeDirectoriesFrom p (depth + 1) left
        | .error fault => .error fault :=
  rfl

/-- Directories that are made lead to where they are made for. -/
theorem leads_of_makeDirectoriesFrom (left : Nat) {files made : Files} {depth : Nat}
    (hdepth : depth + left = p.parts.length)
    (h : files.makeDirectoriesFrom p depth left = .ok made) :
    (∀ q, files.isDirectory q = true → made.isDirectory q = true) ∧ made.Leads p depth := by
  induction left generalizing files depth with
  | zero =>
      cases h
      refine ⟨fun _ hq => hq, fun d hd hlength => ?_⟩
      omega
  | succ left ih =>
      rw [makeDirectoriesFrom_succ] at h
      split at h
      · simp at h
      next hplain =>
        split at h
        next first hfirst =>
          obtain ⟨hhere, hkeeps⟩ := isDirectory_makeDirectory hfirst
          obtain ⟨hkeeps', hleads⟩ := ih (by omega) h
          refine ⟨fun q hq => hkeeps' q (hkeeps q hq), fun d hd hlength => ?_⟩
          rcases Nat.eq_or_lt_of_le hd with rfl | hd
          · refine ⟨hkeeps' _ hhere, fun hmore => ?_⟩
            have hleft : 0 < left := by omega
            have hnone : files.content? (p.upTo depth) = none := by
              simpa [hleft, isFile] using hplain
            rw [content?_of_makeDirectoriesFrom _ _ h, content?_of_makeDirectory hfirst, hnone]
          · exact hleads d hd hlength
        · simp at h

/-- Where directories lead somewhere, there are none to make. -/
theorem makeDirectoriesFrom_of_leads (left : Nat) {files : Files} {depth : Nat}
    (hdepth : depth + left = p.parts.length) (h : files.Leads p depth) :
    files.makeDirectoriesFrom p depth left = .ok files := by
  induction left generalizing depth with
  | zero => rfl
  | succ left ih =>
      obtain ⟨hhere, hplain⟩ := h depth (Nat.le_refl depth) (by omega)
      have hgoesOn : (files.isFile (p.upTo depth) && decide (0 < left)) = false := by
        rw [Bool.and_eq_false_iff]
        by_cases hleft : 0 < left
        · exact .inl (by simp [isFile, hplain (by omega)])
        · exact .inr (by simpa using hleft)
      have hmake : files.makeDirectory (p.upTo depth) = .ok files := by
        rw [makeDirectory, if_pos hhere]
      rw [makeDirectoriesFrom_succ, hgoesOn, hmake]
      exact ih (by omega) fun d hd => h d (Nat.le_of_succ_le hd)

/-- A file that was replaced stands where directories still lead. -/
theorem Leads.put {target : Path} {depth : Nat} (h : files.Leads p depth)
    (hplain : files.isDirectory target = false) (bytes : List UInt8) :
    (files.put target (.file bytes)).Leads p depth := by
  have hstored : files.lookup? target ≠ some .directory := by
    intro hdirectory
    rw [isDirectory_iff.mpr (.inl (.inr hdirectory))] at hplain
    cases hplain
  intro d hd hlength
  obtain ⟨hdirectory, hnone⟩ := h d hd hlength
  refine ⟨isDirectory_put hdirectory hstored _, fun hmore => ?_⟩
  have hne : (p.upTo d).resolve ≠ target.resolve := by
    intro heq
    rw [isDirectory_congr heq, hplain] at hdirectory
    cases hdirectory
  rw [content?, lookup?_put_of_ne _ hne]
  exact hnone hmore

/-- Where a file was replaced it can be replaced again if the system refuses nothing. -/
theorem replaceable_again {target : Path} {bytes : List UInt8}
    (hmade : files.makeDirectories target.parent = .ok made)
    (hreplaced : made.replace target bytes = (.ok (), after)) {refuses : FileStep → Option String}
    (hrefuses : ∀ step, refuses step = none) :
    ({ after with refuses := refuses } : Files).makeDirectories target.parent =
        .ok { after with refuses := refuses } ∧
      ∀ bytes, (({ after with refuses := refuses } : Files).replace target bytes).1 = .ok () := by
  obtain ⟨hplain, rfl⟩ := replace_eq_ok hreplaced
  have hnone : made.isDirectory target = false := by
    rw [← Bool.not_eq_true] at hplain ⊢
    have hfree := lookup?_temporaryFor made target
    exact fun hdirectory => hplain (isDirectory_put hdirectory (by simp [hfree]) _)
  have hleads : ({ made.put target (.file bytes) with refuses := refuses } : Files).Leads
      target.parent 0 :=
    ((leads_of_makeDirectoriesFrom _ (Nat.zero_add _) hmade).2).put hnone bytes
  refine ⟨makeDirectoriesFrom_of_leads _ (Nat.zero_add _) hleads, fun new => ?_⟩
  rw [replace_of_plain hrefuses]
  exact plain_again hplain bytes new

end Files

end EdgeProxy
