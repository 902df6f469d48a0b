import EdgeProxy.Certificate.Pool
import EdgeProxy.Proofs.Keys
import Mathlib.Data.List.Perm.Basic
/-!
Runs of a pool.  Every job is waiting, taken or done, and what was found and which connections were opened are
those of the jobs that were taken, whatever the order in which the workers come to run.  So when every job is
done, nothing depends on that order or on the number of workers.
-/

namespace EdgeProxy

namespace Pool

/-- What is found for a job. -/
def entry (peers : Peers) (now : Instant) (job : String × String) :
    String × Except Fault CertificateStatus :=
  (job.1, CertificateStatus.ofReply (peers job.2) job.2 now)

variable {settings : Settings} {peers : Peers} {now : Instant} {jobs done : List (String × String)}
  {pool : Pool}

/-- How far a pool has come: the jobs that are done, in the order in which that happened. -/
structure Reached (settings : Settings) (peers : Peers) (now : Instant) (jobs done : List (String × String))
    (pool : Pool) : Prop where
  workers : pool.workers = workersFor settings jobs
  port : pool.port = settings.probePort
  timeout : pool.timeout = settings.probeTimeout
  jobs : (pool.waiting ++ (pool.busy ++ done)).Perm jobs
  found : pool.found = done.map (entry peers now)
  probes : pool.probes.Perm ((pool.busy ++ done).map pool.probe)
  busy : pool.busy.length ≤ pool.workers

theorem reached_start (settings : Settings) (peers : Peers) (now : Instant) (jobs : List (String × String)) :
    Reached settings peers now jobs [] (start settings jobs) :=
  ⟨rfl, rfl, rfl, by simp [start], rfl, .refl _, Nat.zero_le _⟩

theorem step_take_of_free {job : String × String} {rest : List (String × String)}
    (hwaiting : pool.waiting = job :: rest) (hfree : pool.busy.length < pool.workers) :
    pool.step peers now .take =
      { pool with
        waiting := rest
        busy := pool.busy ++ [job]
        probes := pool.probes ++ [pool.probe job] } := by
  rw [step, hwaiting]
  exact if_pos hfree

theorem step_finish_of_busy {place : Nat} {job : String × String} (hbusy : pool.busy[place]? = some job) :
    pool.step peers now (.finish place) =
      { pool with
        busy := pool.busy.eraseIdx place
        found := pool.found ++ [entry peers now job] } := by
  rw [step, hbusy]
  rfl

/-- What can happen in a pool: nothing, or a job is taken, or a job that was taken is done. -/
theorem step_cases (peers : Peers) (now : Instant) (pool : Pool) (event : Event) :
    pool.step peers now event = pool ∨
      (∃ job rest, event = .take ∧ pool.waiting = job :: rest ∧ pool.busy.length < pool.workers ∧
        pool.step peers now event =
          { pool with
            waiting := rest
            busy := pool.busy ++ [job]
            probes := pool.probes ++ [pool.probe job] }) ∨
      ∃ place job, event = .finish place ∧ pool.busy[place]? = some job ∧
        pool.step peers now event =
          { pool with
            busy := pool.busy.eraseIdx place
            found := pool.found ++ [entry peers now job] } := by
  cases event with
  | take =>
      cases hwaiting : pool.waiting with
      | nil => exact Or.inl (by rw [step, hwaiting])
      | cons job rest =>
          by_cases hfree : pool.busy.length < pool.workers
          · exact Or.inr (Or.inl ⟨job, rest, rfl, rfl, hfree, step_take_of_free hwaiting hfree⟩)
          · exact Or.inl (by rw [step, hwaiting]; exact if_neg hfree)
  | finish place =>
      cases hbusy : pool.busy[place]? with
      | none => exact Or.inl (by rw [step, hbusy])
      | some job => exact Or.inr (Or.inr ⟨place, job, rfl, hbusy, step_finish_of_busy hbusy⟩)

/-- Whatever happens, no job is lost and none is done twice. -/
theorem Reached.step (h : Reached settings peers now jobs done pool) (event : Event) :
    ∃ done', Reached settings peers now jobs done' (pool.step peers now event) := by
  rcases step_cases peers now pool event with
    hnone | ⟨job, rest, -, hwaiting, hfree, htake⟩ | ⟨place, job, -, hbusy, hfinish⟩
  · exact ⟨done, by rwa [hnone]⟩
  · refine ⟨done, ?_⟩
    have htaken : (pool.busy ++ [job] ++ done).Perm (job :: (pool.busy ++ done)) := by
      rw [List.append_assoc]
      exact List.perm_middle
    rw [htake]
    refine ⟨h.workers, h.port, h.timeout, ?_, h.found, ?_, ?_⟩
    · have hjobs := h.jobs
      rw [hwaiting] at hjobs
      exact ((htaken.append_left rest).trans List.perm_middle).trans hjobs
    · have hopened := (List.perm_append_singleton (pool.probe job) pool.probes).trans (h.probes.cons _)
      exact hopened.trans (htaken.map pool.probe).symm
    · rw [List.length_append, List.length_singleton]
      exact hfree
  · refine ⟨done ++ [job], ?_⟩
    obtain ⟨hplace, hjob⟩ := List.getElem?_eq_some_iff.mp hbusy
    have hleft : (pool.busy.eraseIdx place ++ (done ++ [job])).Perm (pool.busy ++ done) := by
      have hback : (job :: pool.busy.eraseIdx place).Perm pool.busy :=
        hjob ▸ List.getElem_cons_eraseIdx_perm hplace
      have hfront : (pool.busy.eraseIdx place ++ (done ++ [job])).Perm
          (job :: pool.busy.eraseIdx place ++ done) := by
        rw [← List.append_assoc]
        exact List.perm_append_singleton _ _
      exact hfront.trans (hback.append_right done)
    rw [hfinish]
    refine ⟨h.workers, h.port, h.timeout, ?_, ?_, ?_, ?_⟩
    · exact (hleft.append_left pool.waiting).trans h.jobs
    · rw [h.found, List.map_append, List.map_singleton]
    · exact h.probes.trans (hleft.map pool.probe).symm
    · exact Nat.le_trans (List.length_eraseIdx_le _ _) h.busy

/-- However long a pool runs and whatever happens, it accounts for every job. -/
theorem reached_run (settings : Settings) (peers : Peers) (now : Instant) (jobs : List (String × String))
    (events : List Event) :
    ∃ done, Reached settings peers now jobs done ((start settings jobs).run peers now events) := by
  suffices h : ∀ pool done, Reached settings peers now jobs done pool →
      ∃ done', Reached settings peers now jobs done' (pool.run peers now events) from
    h _ _ (reached_start settings peers now jobs)
  induction events with
  | nil => exact fun pool done h => ⟨done, h⟩
  | cons event rest ih =>
      intro pool done h
      obtain ⟨done', hstep⟩ := h.step event
      exact ih _ _ hstep

/-- When every job is done, each has been connected for once, and what was found for it is on record. -/
structure Complete (settings : Settings) (peers : Peers) (now : Instant) (jobs : List (String × String))
    (pool : Pool) : Prop where
  probes : pool.probes.Perm (jobs.map fun job => ⟨job.2, settings.probePort, settings.probeTimeout⟩)
  found : ∀ job ∈ jobs,
    pool.found.lookup job.1 = some (CertificateStatus.ofReply (peers job.2) job.2 now)

theorem Reached.complete (h : Reached settings peers now jobs done pool)
    (hkeys : (jobs.map Prod.fst).Nodup) (hdone : pool.isDone = true) :
    Complete settings peers now jobs pool := by
  rw [isDone, Bool.and_eq_true, List.isEmpty_iff, List.isEmpty_iff] at hdone
  obtain ⟨hwaiting, hbusy⟩ := hdone
  have hjobs : done.Perm jobs := by
    have hall := h.jobs
    rwa [hwaiting, hbusy, List.nil_append, List.nil_append] at hall
  constructor
  · have hprobes := h.probes
    rw [hbusy, List.nil_append] at hprobes
    have hprobe : pool.probe = fun job => ⟨job.2, settings.probePort, settings.probeTimeout⟩ := by
      funext job
      rw [probe, h.port, h.timeout]
    rw [hprobe] at hprobes
    exact hprobes.trans (hjobs.map _)
  · intro job hjob
    have hmem : (job.1, CertificateStatus.ofReply (peers job.2) job.2 now) ∈ pool.found := by
      rw [h.found]
      exact List.mem_map_of_mem (hjobs.mem_iff.mpr hjob)
    have hnodup : (pool.found.map Prod.fst).Nodup := by
      rw [h.found, List.map_map]
      exact (hjobs.map Prod.fst).nodup_iff.mpr hkeys
    exact lookup_of_mem_of_nodup hnodup hmem

/-- What is left to do: a job that waits has to be taken and finished, and one that was taken to be finished. -/
def pending (pool : Pool) : Nat := 2 * pool.waiting.length + pool.busy.length

theorem workersFor_pos (settings : Settings) (jobs : List (String × String)) :
    0 < workersFor settings jobs := by
  rw [workersFor]
  omega

/-- As long as not every job is done, something can happen that brings the end nearer: a free worker takes a
job, or one that has a job finishes it. -/
theorem Reached.progress (h : Reached settings peers now jobs done pool) (hdone : pool.isDone = false) :
    ∃ event, (pool.step peers now event).pending < pool.pending := by
  cases hbusy : pool.busy with
  | cons job rest =>
      have hfirst : pool.busy[0]? = some job := by rw [hbusy]; rfl
      refine ⟨.finish 0, ?_⟩
      rw [step_finish_of_busy hfirst, pending, pending, hbusy]
      simp
  | nil =>
      cases hwaiting : pool.waiting with
      | nil => simp [isDone, hbusy, hwaiting] at hdone
      | cons job rest =>
          have hfree : pool.busy.length < pool.workers := by
            rw [hbusy, h.workers]
            exact workersFor_pos settings jobs
          refine ⟨.take, ?_⟩
          rw [step_take_of_free hwaiting hfree, pending, pending, hwaiting, hbusy]
          simp
          omega

/-- Every run can be brought to its end. -/
theorem Reached.exists_done (h : Reached settings peers now jobs done pool) :
    ∃ events, (pool.run peers now events).isDone = true := by
  induction hpending : pool.pending using Nat.strongRecOn generalizing pool done with
  | ind pending ih =>
      cases hdone : pool.isDone with
      | true => exact ⟨[], hdone⟩
      | false =>
          obtain ⟨event, hless⟩ := h.progress hdone
          obtain ⟨done', hstep⟩ := h.step event
          obtain ⟨events, hevents⟩ := ih _ (hpending ▸ hless) hstep rfl
          exact ⟨event :: events, hevents⟩

/-- Doing the jobs one after the other does all of them. -/
theorem isDone_inTurn (settings : Settings) (peers : Peers) (now : Instant) (jobs : List (String × String)) :
    ((start settings jobs).run peers now (inTurn jobs)).isDone = true := by
  suffices h : ∀ pool : Pool, pool.waiting = jobs → pool.busy = [] → 0 < pool.workers →
      (pool.run peers now (inTurn jobs)).isDone = true from
    h _ rfl rfl (workersFor_pos settings jobs)
  clear * -
  induction jobs with
  | nil =>
      intro pool hwaiting hbusy _
      rw [inTurn, List.flatMap_nil, run, List.foldl_nil, isDone, hwaiting, hbusy]
      rfl
  | cons job rest ih =>
      intro pool hwaiting hbusy hworkers
      have hfree : pool.busy.length < pool.workers := by rwa [hbusy]
      have hrun : pool.run peers now (inTurn (job :: rest)) =
          ((pool.step peers now .take).step peers now (.finish 0)).run peers now (inTurn rest) := rfl
      rw [hrun, step_take_of_free hwaiting hfree]
      have hfirst : (pool.busy ++ [job])[0]? = some job := by rw [hbusy]; rfl
      rw [step_finish_of_busy hfirst]
      apply ih
      · rfl
      · dsimp only
        rw [hbusy]
        rfl
      · exact hworkers

end Pool

end EdgeProxy
