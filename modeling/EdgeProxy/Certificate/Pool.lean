import EdgeProxy.Certificate.Report
/-!
Workers that connect to hostnames.  A worker takes one job at a time: it connects, and is free again when it
has found what certificate is served.  In what order the workers come to run is not up to the program.
-/

namespace EdgeProxy

/-- A pool of workers. -/
structure Pool where
  workers : Nat
  port : Int
  timeout : Binary64
  /-- The jobs that are yet to be taken: a rule and the hostname to connect to. -/
  waiting : List (String × String)
  /-- The jobs that workers are at. -/
  busy : List (String × String)
  found : ByRule (Except Fault CertificateStatus)
  /-- The connections that were opened. -/
  probes : List Probe

namespace Pool

/-- What can happen in a pool. -/
inductive Event where
  /-- A free worker takes the next job and connects. -/
  | take
  /-- The worker at the job in a place is done. -/
  | finish (place : Nat)
deriving DecidableEq, Repr

/-- How many workers there are for jobs: as many as the settings say, but not more than there are jobs, and
one at least. -/
def workersFor (settings : Settings) (jobs : List (String × String)) : Nat :=
  (max 1 (min settings.probeWorkers jobs.length)).toNat

def start (settings : Settings) (jobs : List (String × String)) : Pool where
  workers := workersFor settings jobs
  port := settings.probePort
  timeout := settings.probeTimeout
  waiting := jobs
  busy := []
  found := []
  probes := []

/-- The connection for a job. -/
def probe (pool : Pool) (job : String × String) : Probe := ⟨job.2, pool.port, pool.timeout⟩

/-- The pool after something happened; what cannot happen changes nothing. -/
def step (peers : Peers) (now : Instant) (pool : Pool) : Event → Pool
  | .take =>
    match pool.waiting with
    | [] => pool
    | job :: rest =>
      if pool.busy.length < pool.workers then
        { pool with
          waiting := rest
          busy := pool.busy ++ [job]
          probes := pool.probes ++ [pool.probe job] }
      else pool
  | .finish place =>
    match pool.busy[place]? with
    | none => pool
    | some (ruleId, hostname) =>
      { pool with
        busy := pool.busy.eraseIdx place
        found := pool.found ++ [(ruleId, CertificateStatus.ofReply (peers hostname) hostname now)] }

/-- The pool after a series of events. -/
def run (peers : Peers) (now : Instant) (pool : Pool) (events : List Event) : Pool :=
  events.foldl (step peers now) pool

def isDone (pool : Pool) : Bool := pool.waiting.isEmpty && pool.busy.isEmpty

/-- The jobs are done one after the other. -/
def inTurn (jobs : List (String × String)) : List Event := jobs.flatMap fun _ => [.take, .finish 0]

end Pool

end EdgeProxy
