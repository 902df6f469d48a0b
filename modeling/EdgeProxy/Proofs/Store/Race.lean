import EdgeProxy.Proofs.Registry.Writable
import EdgeProxy.Proofs.Store.Save
/-!
Callers that save over one version at the same time.  A save takes two steps, the check of the stored
version and the replacement of the file, and nothing keeps the steps of different callers apart.  The check
turns away every caller that comes to it after the file was replaced, but none that came before; so at most
one caller succeeds exactly if no two of them ever stand between their two steps together.
-/

namespace EdgeProxy.Store

/-- How far a caller has come with its save. -/
inductive Progress where
  | waiting
  /-- The version was checked, and the file is yet to be replaced. -/
  | between
  | ended (result : Except StoreFailure Registry)

/-- The files that callers save to, and how far each of them has come. -/
structure Race where
  files : Files
  progress : Nat → Progress

namespace Race

/-- No caller has taken a step. -/
def start (files : Files) : Race := ⟨files, fun _ => .waiting⟩

/-- A caller has come further. -/
def moved (caller : Nat) (p : Progress) (s : Race) : Race :=
  { s with progress := fun c => if c = caller then p else s.progress c }

section Steps

variable (path : Path) (version : Int) (registry : Nat → Registry)

/-- The next step of a caller that saves its registry over a version. -/
def step (s : Race) (caller : Nat) : Race :=
  match s.progress caller with
  | .waiting =>
    match check s.files path (some version) with
    | .ok () => s.moved caller .between
    | .error failure => s.moved caller (.ended (.error failure))
  | .between =>
    match replace (registry caller) s.files path with
    | (result, files) => { s with files := files }.moved caller (.ended result)
  | .ended _ => s

/-- The callers take steps in some order. -/
def run (s : Race) (order : List Nat) : Race := order.foldl (step path version registry) s

end Steps

/-- A caller has saved its registry. -/
def Won (s : Race) (caller : Nat) : Prop := ∃ saved, s.progress caller = .ended (.ok saved)

/-- Two callers stand between the check and the replacement. -/
def Overlap (s : Race) (c d : Nat) : Prop := s.progress c = .between ∧ s.progress d = .between

theorem progress_moved (s : Race) (caller c : Nat) (p : Progress) :
    (s.moved caller p).progress c = if c = caller then p else s.progress c := rfl

theorem progress_moved_self (s : Race) (caller : Nat) (p : Progress) :
    (s.moved caller p).progress caller = p := if_pos rfl

theorem progress_moved_of_ne (s : Race) {caller c : Nat} (h : c ≠ caller) (p : Progress) :
    (s.moved caller p).progress c = s.progress c := if_neg h

theorem not_won_of_waiting {s : Race} {c : Nat} (h : s.progress c = .waiting) : ¬ s.Won c := by
  rintro ⟨saved, hsaved⟩
  rw [h] at hsaved
  cases hsaved

theorem not_won_of_between {s : Race} {c : Nat} (h : s.progress c = .between) : ¬ s.Won c := by
  rintro ⟨saved, hsaved⟩
  rw [h] at hsaved
  cases hsaved

section Run

variable {path : Path} {version : Int} {registry : Nat → Registry} {s : Race} {c d : Nat}

theorem run_append (s : Race) (order : List Nat) (c : Nat) :
    s.run path version registry (order ++ [c]) =
      (s.run path version registry order).step path version registry c := by
  simp [run]

theorem step_of_passed (h : s.progress c = .waiting)
    (hcheck : check s.files path (some version) = .ok ()) :
    s.step path version registry c = s.moved c .between := by
  simp only [step, h, hcheck]

theorem step_of_turned_away (h : s.progress c = .waiting) {failure : StoreFailure}
    (hcheck : check s.files path (some version) = .error failure) :
    s.step path version registry c = s.moved c (.ended (.error failure)) := by
  simp only [step, h, hcheck]

theorem step_of_between (h : s.progress c = .between) {result : Except StoreFailure Registry}
    {files : Files} (hreplace : replace (registry c) s.files path = (result, files)) :
    s.step path version registry c = { s with files := files }.moved c (.ended result) := by
  simp only [step, h, hreplace]

theorem step_of_ended {result : Except StoreFailure Registry} (h : s.progress c = .ended result) :
    s.step path version registry c = s := by
  simp only [step, h]

/-- A caller whose steps follow each other saves its registry. -/
theorem run_pair (h : s.progress c = .waiting) :
    (s.run path version registry [c, c]).files =
        (save (registry c) s.files path (some version)).2 ∧
      (s.run path version registry [c, c]).progress c =
        .ended (save (registry c) s.files path (some version)).1 := by
  have hrun : s.run path version registry [c, c] =
      (s.step path version registry c).step path version registry c := rfl
  rw [hrun, save]
  cases hcheck : check s.files path (some version) with
  | error failure =>
      have hself := s.progress_moved_self c (.ended (.error failure))
      rw [step_of_turned_away h hcheck, step_of_ended hself]
      exact ⟨rfl, hself⟩
  | ok =>
      have hself := s.progress_moved_self c .between
      rw [step_of_passed h hcheck, step_of_between hself rfl]
      exact ⟨rfl, progress_moved_self _ _ _⟩

theorem run_pair_saved (h : s.progress c = .waiting) {saved : Registry} {after : Files}
    (hsave : save (registry c) s.files path (some version) = (.ok saved, after)) :
    (s.run path version registry [c, c]).files = after ∧
      (s.run path version registry [c, c]).Won c := by
  have hpair := @run_pair path version registry s c h
  rw [hsave] at hpair
  exact ⟨hpair.1, saved, hpair.2⟩

theorem progress_step_of_ne (s : Race) (h : d ≠ c) :
    (s.step path version registry c).progress d = s.progress d := by
  rw [step]
  split
  · split <;> exact progress_moved_of_ne _ h _
  · exact progress_moved_of_ne _ h _
  · rfl

theorem progress_run_of_not_mem (s : Race) {order : List Nat} (h : d ∉ order) :
    (s.run path version registry order).progress d = s.progress d := by
  induction order generalizing s with
  | nil => rfl
  | cons c rest ih =>
      rw [List.mem_cons, not_or] at h
      exact (ih (s.step path version registry c) h.2).trans (progress_step_of_ne s h.1)

/-- Who has saved its registry has saved it. -/
theorem Won.step (h : s.Won d) (c : Nat) : (s.step path version registry c).Won d := by
  obtain ⟨saved, hsaved⟩ := h
  by_cases heq : d = c
  · subst heq
    rw [step_of_ended hsaved]
    exact ⟨saved, hsaved⟩
  · exact ⟨saved, (progress_step_of_ne s heq).trans hsaved⟩

theorem Won.run (h : s.Won d) (order : List Nat) : (s.run path version registry order).Won d := by
  induction order generalizing s with
  | nil => exact h
  | cons c rest ih => exact ih (h.step c)

end Run

/-- How the save of a registry over a version can end, where the file was the given one at first. -/
inductive Ends (files : Files) (path : Path) (version : Int) (registry : Registry) :
    Except StoreFailure Registry → Prop where
  | saved : Ends files path version registry (.ok (advance registry))
  | unread {failure : StoreFailure} (h : Store.version files path = .error failure) :
      Ends files path version registry (.error failure)
  | conflict {found : StoredVersion} (h : found.count ≠ version) :
      Ends files path version registry (.error (.refused (.conflict version found)))
  | notReplaced {now : Files} {failure : StoreFailure} (h : NotReplaced registry now path failure) :
      Ends files path version registry (.error failure)

/-- What holds after the callers have taken steps in some order: the file is the first one or that of a
caller that has saved, and such a caller stood between its steps together with everyone else who came to
stand there. -/
structure Guarded (files : Files) (path : Path) (version : Int) (registry : Nat → Registry)
    (order : List Nat) (s : Race) : Prop where
  unwon : (∀ c, ¬ s.Won c) → s.files.content? path = files.content? path
  won : ∀ c, s.Won c → ∃ d, s.Won d ∧
    Store.version s.files path = .ok (.number ((registry d).version + 1))
  ended : ∀ c result, s.progress c = .ended result → Ends files path version (registry c) result
  overlap : ∀ c d, c ≠ d → s.Won c → s.progress d = .between ∨ s.Won d →
    ∃ p, p <+: order ∧ ((start files).run path version registry p).Overlap c d

section Guarded

variable {files : Files} {path : Path} {version : Int} {registry : Nat → Registry}
  {order : List Nat} {s : Race} {c : Nat}

theorem guarded_start : Guarded files path version registry [] (start files) where
  unwon _ := rfl
  won _ h := absurd h (not_won_of_waiting rfl)
  ended _ _ h := nomatch h
  overlap _ _ _ h := absurd h (not_won_of_waiting rfl)

/-- A check fails on the first file, or because the version is another one. -/
theorem Guarded.ends_of_check (h : Guarded files path version registry order s)
    {failure : StoreFailure} (hcheck : check s.files path (some version) = .error failure)
    (r : Registry) : Ends files path version r (.error failure) := by
  cases hversion : Store.version s.files path with
  | ok found =>
      rw [check_some hversion] at hcheck
      split at hcheck
      · cases hcheck
      next hne =>
        cases hcheck
        exact .conflict hne
  | error failure' =>
      have hnone : ∀ c, ¬ s.Won c := fun c hwon => by
        obtain ⟨d, -, hd⟩ := h.won c hwon
        rw [hd] at hversion
        cases hversion
      simp only [check, hversion] at hcheck
      cases hcheck
      exact .unread (Store.version_congr (h.unwon hnone) ▸ hversion)

/-- After a caller has saved, the check turns everyone away. -/
theorem Guarded.conflict_of_won (h : Guarded files path version registry order s)
    (hnext : ∀ c, (registry c).version + 1 ≠ version) (hwon : s.Won c) :
    ∃ d, s.Won d ∧ check s.files path (some version) =
      .error (.refused (.conflict version (.number ((registry d).version + 1)))) := by
  obtain ⟨d, hd, hversion⟩ := h.won c hwon
  exact ⟨d, hd, (check_some hversion).trans (if_neg (hnext d))⟩

theorem Guarded.unwon_of_check (h : Guarded files path version registry order s)
    (hnext : ∀ c, (registry c).version + 1 ≠ version)
    (hcheck : check s.files path (some version) = .ok ()) (c : Nat) : ¬ s.Won c := by
  intro hwon
  obtain ⟨d, -, hconflict⟩ := h.conflict_of_won hnext hwon
  rw [hcheck] at hconflict
  cases hconflict

theorem Guarded.passed (h : Guarded files path version registry order s)
    (hnext : ∀ c, (registry c).version + 1 ≠ version)
    (hcheck : check s.files path (some version) = .ok ()) :
    Guarded files path version registry (order ++ [c]) (s.moved c .between) := by
  have hnone : ∀ d, ¬ (s.moved c .between).Won d := by
    rintro d ⟨saved, hsaved⟩
    rw [progress_moved] at hsaved
    split at hsaved
    · cases hsaved
    · exact h.unwon_of_check hnext hcheck d ⟨saved, hsaved⟩
  refine ⟨fun _ => h.unwon (h.unwon_of_check hnext hcheck), fun d hwon => absurd hwon (hnone d), ?_,
    fun d _ _ hwon => absurd hwon (hnone d)⟩
  intro d result hd
  rw [progress_moved] at hd
  split at hd
  · cases hd
  · exact h.ended d result hd

/-- A caller that fails changes nothing for the others. -/
theorem Guarded.failed {s' : Race} (h : Guarded files path version registry order s)
    (hsame : s'.files.content? path = s.files.content? path) (hopen : ¬ s.Won c) {failure : StoreFailure}
    (hself : s'.progress c = .ended (.error failure))
    (hothers : ∀ d, d ≠ c → s'.progress d = s.progress d)
    (hends : Ends files path version (registry c) (.error failure)) :
    Guarded files path version registry (order ++ [c]) s' := by
  have hwon : ∀ d, s'.Won d ↔ s.Won d := by
    intro d
    by_cases hd : d = c
    · subst hd
      refine ⟨?_, fun hwon => absurd hwon hopen⟩
      rintro ⟨saved, hsaved⟩
      rw [hself] at hsaved
      cases hsaved
    · rw [Won, Won, hothers d hd]
  refine ⟨?_, ?_, ?_, ?_⟩
  · exact fun hnone => hsame.trans (h.unwon fun d hd => hnone d ((hwon d).mpr hd))
  · intro d hd
    obtain ⟨e, he, hversion⟩ := h.won d ((hwon d).mp hd)
    exact ⟨e, (hwon e).mpr he, (Store.version_congr hsame).trans hversion⟩
  · intro d result hd
    by_cases heq : d = c
    · subst heq
      rw [hself] at hd
      cases hd
      exact hends
    · exact h.ended d result (hothers d heq ▸ hd)
  · intro d e hne hd he
    have he : s.progress e = .between ∨ s.Won e := by
      rcases he with he | he
      · by_cases heq : e = c
        · subst heq
          rw [hself] at he
          cases he
        · exact .inl (hothers e heq ▸ he)
      · exact .inr ((hwon e).mp he)
    obtain ⟨p, hp, hoverlap⟩ := h.overlap d e hne ((hwon d).mp hd) he
    exact ⟨p, hp.trans (List.prefix_append _ _), hoverlap⟩

theorem Overlap.symm {d : Nat} (h : s.Overlap c d) : s.Overlap d c := ⟨h.2, h.1⟩

/-- A caller that replaces the file stood between its steps together with all that have passed the check. -/
theorem Guarded.saved {s' : Race} (h : Guarded files path version registry order s)
    (hrun : (start files).run path version registry order = s) (hbetween : s.progress c = .between)
    (hversion : Store.version s'.files path = .ok (.number ((registry c).version + 1)))
    (hself : s'.progress c = .ended (.ok (advance (registry c))))
    (hothers : ∀ d, d ≠ c → s'.progress d = s.progress d) :
    Guarded files path version registry (order ++ [c]) s' := by
  have hwon : ∀ d, d ≠ c → s'.Won d → s.Won d :=
    fun d hd ⟨saved, hsaved⟩ => ⟨saved, hothers d hd ▸ hsaved⟩
  have hentered : ∀ d, d ≠ c → s'.progress d = .between ∨ s'.Won d →
      s.progress d = .between ∨ s.Won d :=
    fun d hd => Or.imp (fun hd' => hothers d hd ▸ hd') (hwon d hd)
  -- The moment is that of an earlier success, or the one right before this success.
  have hfirst : ∀ d, d ≠ c → s.progress d = .between ∨ s.Won d →
      ∃ p, p <+: order ++ [c] ∧ ((start files).run path version registry p).Overlap c d := by
    rintro d hd (hd' | hd')
    · exact ⟨order, List.prefix_append _ _, hrun.symm ▸ ⟨hbetween, hd'⟩⟩
    · obtain ⟨p, hp, hoverlap⟩ := h.overlap d c hd hd' (.inl hbetween)
      exact ⟨p, hp.trans (List.prefix_append _ _), hoverlap.symm⟩
  refine ⟨fun hnone => absurd ⟨_, hself⟩ (hnone c), fun _ _ => ⟨c, ⟨_, hself⟩, hversion⟩, ?_, ?_⟩
  · intro d result hd
    by_cases heq : d = c
    · subst heq
      rw [hself] at hd
      cases hd
      exact .saved
    · exact h.ended d result (hothers d heq ▸ hd)
  · intro d e hne hd he
    by_cases heq : d = c
    · subst heq
      exact hfirst e hne.symm (hentered e hne.symm he)
    · by_cases heq' : e = c
      · subst heq'
        obtain ⟨p, hp, hoverlap⟩ := hfirst d heq (.inr (hwon d heq hd))
        exact ⟨p, hp, hoverlap.symm⟩
      · obtain ⟨p, hp, hoverlap⟩ := h.overlap d e hne (hwon d heq hd) (hentered e heq' he)
        exact ⟨p, hp.trans (List.prefix_append _ _), hoverlap⟩

theorem Guarded.step (h : Guarded files path version registry order s)
    (hrun : (start files).run path version registry order = s)
    (hnext : ∀ c, (registry c).version + 1 ≠ version) (hwell : ∀ c, (registry c).WellFormed)
    (c : Nat) :
    Guarded files path version registry (order ++ [c]) (s.step path version registry c) := by
  have hothers : ∀ d, d ≠ c → (s.step path version registry c).progress d = s.progress d :=
    fun d hd => progress_step_of_ne s hd
  cases hc : s.progress c with
  | waiting =>
      cases hcheck : check s.files path (some version) with
      | ok =>
          rw [step_of_passed hc hcheck]
          exact h.passed hnext hcheck
      | error failure =>
          rw [step_of_turned_away hc hcheck] at hothers ⊢
          exact h.failed rfl (not_won_of_waiting hc) (progress_moved_self s c _) hothers
            (h.ends_of_check hcheck _)
  | between =>
      obtain ⟨⟨result, after⟩, hreplace⟩ : ∃ outcome, replace (registry c) s.files path = outcome :=
        ⟨_, rfl⟩
      have hself := progress_moved_self { s with files := after } c (.ended result)
      rw [step_of_between hc hreplace] at hothers ⊢
      rcases replace_spec hreplace with ⟨rfl, hwritable, hbytes⟩ | ⟨⟨failure, rfl, hnot⟩, hbytes⟩
      · have hversion := version_of_written (advance_wellFormed (hwell c)) hwritable hbytes
        exact h.saved hrun hc hversion hself hothers
      · exact h.failed (hbytes path) (not_won_of_between hc) hself hothers (.notReplaced hnot)
  | ended result =>
      rw [step_of_ended hc]
      refine ⟨h.unwon, h.won, h.ended, fun d e hne hd he => ?_⟩
      obtain ⟨p, hp, hoverlap⟩ := h.overlap d e hne hd he
      exact ⟨p, hp.trans (List.prefix_append _ _), hoverlap⟩

theorem guarded_run (hnext : ∀ c, (registry c).version + 1 ≠ version)
    (hwell : ∀ c, (registry c).WellFormed) (files : Files) (order : List Nat) :
    Guarded files path version registry order ((start files).run path version registry order) := by
  induction order using List.reverseRecOn with
  | nil => exact guarded_start
  | append_singleton order c ih =>
      rw [run_append]
      exact ih.step rfl hnext hwell c

/-- The caller has not begun, or the version that it expected was replaced by that of a caller that has
saved. -/
def Late (version : Int) (registry : Nat → Registry) (s : Race) (c : Nat) : Prop :=
  s.progress c = .waiting ∨ ∃ d, s.Won d ∧ s.progress c =
    .ended (.error (.refused (.conflict version (.number ((registry d).version + 1)))))

/-- The caller has passed the check: it has yet to replace the file, has done so, or could not. -/
def Entered (path : Path) (registry : Nat → Registry) (s : Race) (c : Nat) : Prop :=
  s.progress c = .between ∨ s.Won c ∨
    ∃ now failure, s.progress c = .ended (.error failure) ∧
      NotReplaced (registry c) now path failure

/-- The caller has not begun, has saved, or was told of another version. -/
def Plain (s : Race) (c : Nat) : Prop :=
  s.progress c = .waiting ∨ s.Won c ∨
    ∃ expected found, s.progress c = .ended (.error (.refused (.conflict expected found)))

theorem Late.step (h : s.Late version registry c)
    (hguarded : Guarded files path version registry order s)
    (hnext : ∀ c, (registry c).version + 1 ≠ version) {winner : Nat} (hwinner : s.Won winner)
    (d : Nat) : (s.step path version registry d).Late version registry c := by
  rcases h with hc | ⟨e, he, hc⟩
  · by_cases heq : c = d
    · subst heq
      obtain ⟨e, he, hconflict⟩ := hguarded.conflict_of_won hnext hwinner
      refine .inr ⟨e, he.step c, ?_⟩
      rw [step_of_turned_away hc hconflict]
      exact progress_moved_self _ _ _
    · exact .inl ((progress_step_of_ne s heq).trans hc)
  · refine .inr ⟨e, he.step d, ?_⟩
    by_cases heq : c = d
    · subst heq
      rw [step_of_ended hc, hc]
    · exact (progress_step_of_ne s heq).trans hc

theorem Entered.step (h : s.Entered path registry c) (d : Nat) :
    (s.step path version registry d).Entered path registry c := by
  by_cases heq : c = d
  · subst heq
    rcases h with hc | hc
    · obtain ⟨⟨result, after⟩, hreplace⟩ : ∃ outcome, replace (registry c) s.files path = outcome :=
        ⟨_, rfl⟩
      have hself := progress_moved_self { s with files := after } c (.ended result)
      rw [step_of_between hc hreplace]
      rcases replace_spec hreplace with ⟨rfl, -, -⟩ | ⟨⟨failure, rfl, hnot⟩, -⟩
      · exact .inr (.inl ⟨_, hself⟩)
      · exact .inr (.inr ⟨_, _, hself, hnot⟩)
    · have hended : ∃ result, s.progress c = .ended result := by
        rcases hc with ⟨saved, hsaved⟩ | ⟨_, _, hfailed, -⟩
        exacts [⟨_, hsaved⟩, ⟨_, hfailed⟩]
      obtain ⟨result, hresult⟩ := hended
      rw [step_of_ended hresult]
      exact .inr hc
  · simp only [Entered, Won, progress_step_of_ne s heq]
    exact h

theorem Entered.run (h : s.Entered path registry c) (order : List Nat) :
    (s.run path version registry order).Entered path registry c := by
  induction order generalizing s with
  | nil => exact h
  | cons d rest ih => exact ih (h.step d)

/-- A file that could not be replaced is not a version that was replaced. -/
theorem Entered.won_of_plain (h : s.Entered path registry c) (hplain : s.Plain c) : s.Won c := by
  rcases h with hc | hc | ⟨now, failure, hc, hnot⟩
  · rcases hplain with hc' | hc' | ⟨_, _, hc'⟩
    · rw [hc] at hc'
      cases hc'
    · exact hc'
    · rw [hc] at hc'
      cases hc'
  · exact hc
  · rcases hplain with hc' | hc' | ⟨_, _, hc'⟩
    · rw [hc] at hc'
      cases hc'
    · exact hc'
    · rw [hc] at hc'
      cases hc'
      cases hnot

theorem run_split (s : Race) (first rest : List Nat) :
    s.run path version registry (first ++ rest) =
      (s.run path version registry first).run path version registry rest :=
  List.foldl_append

/-- Who begins after a caller has saved is turned away. -/
theorem late_run (hnext : ∀ c, (registry c).version + 1 ≠ version)
    (hwell : ∀ c, (registry c).WellFormed) {first : List Nat} {winner : Nat}
    (hwinner : ((start files).run path version registry first).Won winner)
    (hc : ((start files).run path version registry first).progress c = .waiting) (rest : List Nat) :
    ((start files).run path version registry (first ++ rest)).Late version registry c := by
  induction rest using List.reverseRecOn with
  | nil =>
      rw [List.append_nil]
      exact .inl hc
  | append_singleton rest d ih =>
      have hwon : ((start files).run path version registry (first ++ rest)).Won winner := by
        rw [run_split]
        exact hwinner.run rest
      rw [← List.append_assoc, run_append]
      exact ih.step (guarded_run hnext hwell files (first ++ rest)) hnext hwon d

end Guarded

/-- What callers that save over one version come to, where they take their steps in some order. -/
structure Decided (files : Files) (path : Path) (version : Int) (registry : Nat → Registry)
    (order : List Nat) : Prop where
  ended : ∀ c result, ((start files).run path version registry order).progress c = .ended result →
    Ends files path version (registry c) result
  late : ∀ p, p <+: order → ∀ c d, ((start files).run path version registry p).Won c →
    ((start files).run path version registry p).progress d = .waiting →
    ((start files).run path version registry order).Late version registry d
  entered : ∀ p, p <+: order → ∀ c, ((start files).run path version registry p).progress c = .between →
    ((start files).run path version registry order).Entered path registry c
  overlap : ∀ c d, c ≠ d → ((start files).run path version registry order).Won c →
    ((start files).run path version registry order).Won d →
    ∃ p, p <+: order ∧ ((start files).run path version registry p).Overlap c d
  one : (∀ c, ((start files).run path version registry order).Plain c) →
    ((∀ c d, ((start files).run path version registry order).Won c →
        ((start files).run path version registry order).Won d → c = d) ↔
      ∀ p, p <+: order → ∀ c d, ((start files).run path version registry p).Overlap c d → c = d)

/-- Callers that save over one version, none of which leads to that version again: who begins after a
success is turned away, and everyone who has passed the check by then succeeds as well, unless the file
cannot be replaced.  So there is one success at most exactly if no two callers stand between the check and
the replacement together. -/
theorem one_caller_saves_iff_no_overlap (files : Files) (path : Path) (version : Int)
    (registry : Nat → Registry) (order : List Nat)
    (hnext : ∀ c, (registry c).version + 1 ≠ version) (hwell : ∀ c, (registry c).WellFormed) :
    Decided files path version registry order := by
  have hguarded : Guarded files path version registry order
      ((start files).run path version registry order) := guarded_run hnext hwell files order
  have hentered : ∀ p, p <+: order → ∀ c,
      ((start files).run path version registry p).progress c = .between →
      ((start files).run path version registry order).Entered path registry c := by
    rintro p ⟨rest, rfl⟩ c hc
    rw [run_split]
    exact Entered.run (.inl hc) rest
  have hoverlap : ∀ c d, c ≠ d → ((start files).run path version registry order).Won c →
      ((start files).run path version registry order).Won d →
      ∃ p, p <+: order ∧ ((start files).run path version registry p).Overlap c d :=
    fun c d hne hc hd => hguarded.overlap c d hne hc (.inr hd)
  refine ⟨hguarded.ended, ?_, hentered, hoverlap, fun hplain => ⟨?_, ?_⟩⟩
  · rintro p ⟨rest, rfl⟩ c d hc hd
    exact late_run hnext hwell hc hd rest
  · intro hone p hp c d ⟨hc, hd⟩
    exact hone c d ((hentered p hp c hc).won_of_plain (hplain c))
      ((hentered p hp d hd).won_of_plain (hplain d))
  · intro hnone c d hc hd
    by_contra hne
    obtain ⟨p, hp, hboth⟩ := hoverlap c d hne hc hd
    exact hne (hnone p hp c d hboth)

/-- A place right below the root. -/
def place : Path := ⟨"/", ["registry.json"]⟩

/-- The initial registry at some version and with some base domain. -/
def named (version : Int) (domain : String) : Registry :=
  { Registry.initial with version := version, baseDomain := domain }

/-- Each of two callers names a base domain where there is no file. -/
def rivals (caller : Nat) : Registry := named 0 (if caller = 0 then "first.org" else "second.org")

/-- A document whose version is a text. -/
def spelled : Fields := [("schemaVersion", .int 3), ("version", .str "-1")]

/-- One file that holds the document. -/
def spelledFiles : Files :=
  ⟨[(place, .file (Text.encode ((Json.obj spelled).render .file ++ "\n")))], fun _ => none⟩

theorem named_wellFormed (version : Int) (domain : String) : (named version domain).WellFormed :=
  have h := Registry.initial_wellFormed
  ⟨h.schema, h.environments, h.applications, h.hosts, h.provider, h.extra, h.deprecated⟩

/-- Callers that save over one version where there is no file. -/
theorem one_caller_saves_iff_no_overlap_two_callers :
    (∀ c, (rivals c).version + 1 ≠ 0) ∧ (∀ c, (rivals c).WellFormed) ∧
      Decided .empty place 0 rivals [0, 1, 0, 1] := by
  have hnext : ∀ c, (rivals c).version + 1 ≠ 0 := fun c => by simp [rivals, named]
  have hwell : ∀ c, (rivals c).WellFormed := fun _ => named_wellFormed _ _
  exact ⟨hnext, hwell, one_caller_saves_iff_no_overlap .empty place 0 rivals _ hnext hwell⟩

theorem isWritable_named {version : Int} (hsmall : version.natAbs < 100000) (domain : String) :
    (named version domain).encode.isWritable = true := by
  have h := Registry.initial_keeping writable_nil
  have hkeeping : (named version domain).Keeping Writable :=
    ⟨h.environments, h.applications, h.hosts, h.provider, h.extra⟩
  have hversion : (named version domain).version = version := rfl
  rw [Registry.isWritable_encode_iff (named_wellFormed _ _) hkeeping, hversion]
  exact Json.isWritable_small hsmall

def fileOf (r : Registry) : Files := ⟨[(place, .file (Text.encode r.fileText))], fun _ => none⟩

/-- A registry is written where there is nothing but the registry. -/
theorem replace_at_place {r : Registry} (hwritable : (advance r).encode.isWritable = true)
    {files : Files} (hentries : files.entries = [] ∨ ∃ old, files.entries = [(place, .file old)])
    (hrefuses : files.refuses = fun _ => none) :
    replace r files place = (.ok (advance r), fileOf (advance r)) :=
  replace_eq_ok rfl hwritable (files.replace_alone hentries hrefuses _)

/-- Both callers have checked the version before one of them replaces the file. -/
theorem rivals_overlap :
    ((start .empty).run place 0 rivals [0, 1, 0, 1]).Won 0 ∧
      ((start .empty).run place 0 rivals [0, 1, 0, 1]).Won 1 := by
  have hwritable : ∀ c, (advance (rivals c)).encode.isWritable = true := by
    intro c
    have hadvance : advance (rivals c) = named 1 (if c = 0 then "first.org" else "second.org") := rfl
    rw [hadvance]
    exact isWritable_named (by decide) _
  have hcheck : check .empty place (some 0) = .ok () := rfl
  have hfirst : (start .empty).step place 0 rivals 0 = (start .empty).moved 0 .between :=
    step_of_passed rfl hcheck
  have hsecond : ((start .empty).moved 0 .between).step place 0 rivals 1 =
      ((start .empty).moved 0 .between).moved 1 .between := step_of_passed rfl hcheck
  generalize hboth : ((start .empty).moved 0 .between).moved 1 .between = both at hsecond
  have hfiles : both.files = .empty := hboth ▸ rfl
  have hzero : both.progress 0 = .between := hboth ▸ rfl
  have hone : both.progress 1 = .between := hboth ▸ rfl
  have hreplaced : replace (rivals 0) both.files place =
      (.ok (advance (rivals 0)), fileOf (advance (rivals 0))) := by
    have hempty : both.files.entries = [] ∨ ∃ old, both.files.entries = [(place, .file old)] :=
      .inl (congrArg Files.entries hfiles)
    exact replace_at_place (hwritable 0) hempty (congrArg Files.refuses hfiles)
  have hrun : (start .empty).run place 0 rivals [0, 1, 0, 1] =
      (both.step place 0 rivals 0).step place 0 rivals 1 := by
    simp only [run, List.foldl_cons, List.foldl_nil, hfirst, hsecond]
  rw [hrun, step_of_between hzero hreplaced]
  generalize hthird : ({ both with files := fileOf (advance (rivals 0)) } : Race).moved 0
    (.ended (.ok (advance (rivals 0)))) = third
  have hwon : third.Won 0 := ⟨_, hthird ▸ progress_moved_self _ _ _⟩
  have hbetween : third.progress 1 = .between :=
    hthird ▸ (progress_moved_of_ne _ (by decide) _).trans hone
  have hreplaced : replace (rivals 1) third.files place =
      (.ok (advance (rivals 1)), fileOf (advance (rivals 1))) := by
    have hfiles : third.files = fileOf (advance (rivals 0)) := hthird ▸ rfl
    exact replace_at_place (hwritable 1) (.inr ⟨_, congrArg Files.entries hfiles⟩)
      (congrArg Files.refuses hfiles)
  refine ⟨hwon.step 1, ?_⟩
  rw [step_of_between hbetween hreplaced]
  exact ⟨_, progress_moved_self _ _ _⟩

theorem document_spelled : document spelledFiles place = .ok (some spelled) := by
  have hportable : (Json.obj spelled).Portable := by
    refine ⟨?_, ?_⟩
    · simp [spelled, Json.Distinct, Json.DistinctFields]
    · simp [spelled, Json.isWritable_obj, Json.isWritable_str, Json.isWritable_int,
        Json.writableFields]
  have hbytes : spelledFiles.content? place =
      some (.ok (Text.encode ((Json.obj spelled).render .file ++ "\n"))) := rfl
  simp only [document, hbytes, Text.decode_encode, Json.read_render hportable]

/-- The registry that a caller saves over the document, and after it. -/
def revived (caller : Nat) : Registry := named (caller - 1) ""

/-- A version that is spelled as a text counts as zero for the check, but not for the registry. -/
theorem revived_save_twice :
    ((start spelledFiles).run place 0 revived [0, 0, 1, 1]).Won 0 ∧
      ((start spelledFiles).run place 0 revived [0, 0, 1, 1]).Won 1 := by
  have hwritable : ∀ c, c < 2 → (advance (revived c)).encode.isWritable = true := by
    intro c hc
    have hadvance : advance (revived c) = named (c - 1 + 1) "" := rfl
    rw [hadvance]
    exact isWritable_named (by omega) ""
  have hversion : version spelledFiles place = .ok (.number 0) := by
    rw [version, document_spelled]
    rfl
  have hlater : version (fileOf (advance (revived 0))) place = .ok (.number 0) :=
    version_of_written (advance_wellFormed (named_wellFormed _ _)) (hwritable 0 (by decide)) rfl
  have hfirst : save (revived 0) spelledFiles place (some 0) =
      (.ok (advance (revived 0)), fileOf (advance (revived 0))) := by
    have hcheck : check spelledFiles place (some 0) = .ok () :=
      (check_some hversion).trans (if_pos rfl)
    rw [save, hcheck]
    exact replace_at_place (hwritable 0 (by decide)) (.inr ⟨_, rfl⟩) rfl
  have hsecond : save (revived 1) (fileOf (advance (revived 0))) place (some 0) =
      (.ok (advance (revived 1)), fileOf (advance (revived 1))) := by
    have hcheck : check (fileOf (advance (revived 0))) place (some 0) = .ok () :=
      (check_some hlater).trans (if_pos rfl)
    rw [save, hcheck]
    exact replace_at_place (hwritable 1 (by decide)) (.inr ⟨_, rfl⟩) rfl
  have hzero := @run_pair_saved place 0 revived (start spelledFiles) 0 rfl _ _ hfirst
  have hwaiting : ((start spelledFiles).run place 0 revived [0, 0]).progress 1 = .waiting :=
    progress_run_of_not_mem _ (by decide)
  rw [← hzero.1] at hsecond
  rw [show [0, 0, 1, 1] = [0, 0] ++ [1, 1] from rfl, run_split]
  exact ⟨hzero.2.run [1, 1], (run_pair_saved hwaiting hsecond).2⟩

/-- The version does not keep two callers from saving over it: both succeed if their checks come before the
first replacement; and one after the other does if the version is spelled as a text, which the check takes
for zero, and the registry for the number it spells. -/
theorem two_callers_save_over_one_version :
    (∀ c, (rivals c).WellFormed ∧ (rivals c).version = 0) ∧
      ((start .empty).run place 0 rivals [0, 1, 0, 1]).Won 0 ∧
      ((start .empty).run place 0 rivals [0, 1, 0, 1]).Won 1 ∧
      (∀ supply, load supply spelledFiles place = (.ok (revived 0), supply)) ∧
      ((start spelledFiles).run place 0 revived [0, 0, 1, 1]).Won 0 ∧
      ((start spelledFiles).run place 0 revived [0, 0, 1, 1]).Won 1 := by
  have hload : ∀ supply, load supply spelledFiles place = (.ok (revived 0), supply) := by
    intro supply
    exact load_eq_ok.mpr (.inr ⟨spelled, Migration.stripDeprecated spelled, document_spelled, rfl,
      rfl, rfl, rfl⟩)
  exact ⟨fun _ => ⟨named_wellFormed _ _, rfl⟩, rivals_overlap.1, rivals_overlap.2, hload,
    revived_save_twice.1, revived_save_twice.2⟩

end Race

end EdgeProxy.Store
