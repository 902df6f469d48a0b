import EdgeProxy.Certificate.Status
import EdgeProxy.Registry.Target
import EdgeProxy.Settings.Basic
/-!
The certificates of everything that is routed: one entry per rule, from one connection each.
Disabled hosts are listed without a connection.  Who connects is left to `Pool`; a fault of one connection takes
the place of the report.
-/

namespace EdgeProxy

/-- How the hostnames answer. -/
abbrev Peers := String → PeerReply

/-- A connection that was opened. -/
structure Probe where
  hostname : String
  port : Int
  timeout : Binary64
deriving DecidableEq

abbrev ByRule (α : Type) := List (String × α)

/-- Give a rule an entry: in its place if it has one, at the end otherwise. -/
def ByRule.set {α : Type} (entries : ByRule α) (ruleId : String) (a : α) : ByRule α :=
  match entries with
  | [] => [(ruleId, a)]
  | (k, b) :: rest => if k == ruleId then (k, a) :: rest else (k, b) :: ByRule.set rest ruleId a

/-- Entries of a list of pairs, later ones replacing earlier ones. -/
def ByRule.ofPairs {α : Type} (start : ByRule α) (pairs : List (String × α)) : ByRule α :=
  pairs.foldl (fun entries (k, a) => ByRule.set entries k a) start

/-- An entry that is there, or the fault that stands for it. -/
def ByRule.settled {α : Type} (entry : String × Except Fault α) : Except Fault (String × α) :=
  entry.2.map fun a => (entry.1, a)

namespace Registry

/-- The hostnames to connect to, by rule: every target, then the dashboard. -/
def probeDomains (r : Registry) : ByRule String :=
  ByRule.ofPairs [] (r.targets.map (fun t => (t.ruleId, t.domain)) ++
    (systemDomains r.baseDomain).filter (·.1 == dashboardRule))

def disabledEntries (r : Registry) : List (String × CertificateStatus) :=
  (r.hosts.filter (!·.enabled)).map fun h =>
    (h.id, ⟨h.domain r.baseDomain, .error .disabled⟩)

/-- What was found by connecting, rule by rule. -/
def collected (r : Registry) (found : ByRule (Except Fault CertificateStatus)) :
    ByRule (Except Fault CertificateStatus) :=
  r.probeDomains.filterMap fun (ruleId, _) => (found.lookup ruleId).map fun status => (ruleId, status)

/-- The report on all certificates, given what was found by connecting; the first fault ends it. -/
def report (r : Registry) (found : ByRule (Except Fault CertificateStatus)) :
    Except Fault (ByRule CertificateStatus) :=
  ((r.collected found).mapM ByRule.settled).map fun entries =>
    ByRule.ofPairs [] (r.disabledEntries ++ entries)

end Registry

end EdgeProxy
