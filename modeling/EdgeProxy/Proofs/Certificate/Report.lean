import EdgeProxy.Operation.Run
import EdgeProxy.Proofs.Certificate.Pool
import EdgeProxy.Proofs.Operation.Valid
import EdgeProxy.Proofs.Result
/-!
The report on certificates.  Where no two rules have one identifier, every route but the portal's is connected to
once.  The report has an entry for each of these and one for every disabled host, and each entry tells of its own
hostname alone, whoever did the connecting and in whatever order.  There is no report where a hostname cannot be
connected to at all, or serves a certificate of an unknown version: one such hostname takes away all entries.
-/

namespace EdgeProxy

namespace ByRule

variable {α : Type}

theorem set_of_not_mem {entries : ByRule α} {ruleId : String} (h : ruleId ∉ entries.map Prod.fst) (a : α) :
    ByRule.set entries ruleId a = entries ++ [(ruleId, a)] := by
  induction entries with
  | nil => rfl
  | cons p rest ih =>
      obtain ⟨k, b⟩ := p
      rw [List.map_cons, List.mem_cons, not_or] at h
      have hother : (k == ruleId) = false := beq_false_of_ne (Ne.symm h.1)
      rw [ByRule.set, hother, ih h.2]
      rfl

/-- Entries of rules that have none yet are put at the end. -/
theorem ofPairs_of_nodup {entries : ByRule α} {pairs : List (String × α)}
    (h : ((entries ++ pairs).map Prod.fst).Nodup) : ByRule.ofPairs entries pairs = entries ++ pairs := by
  induction pairs generalizing entries with
  | nil => exact (List.append_nil entries).symm
  | cons p rest ih =>
      obtain ⟨k, a⟩ := p
      have hfresh : k ∉ entries.map Prod.fst := by
        rw [List.map_append, List.nodup_append] at h
        exact fun hmem => h.2.2 k hmem k List.mem_cons_self rfl
      have hmoved : entries ++ (k, a) :: rest = (entries ++ [(k, a)]) ++ rest := by simp
      have hcons : ByRule.ofPairs entries ((k, a) :: rest) =
          ByRule.ofPairs (entries ++ [(k, a)]) rest := by
        rw [← set_of_not_mem hfresh a]
        rfl
      rw [hcons, hmoved]
      exact ih (hmoved ▸ h)

theorem map_fst_set_of_mem {entries : ByRule α} {ruleId : String} (h : ruleId ∈ entries.map Prod.fst) (a : α) :
    (ByRule.set entries ruleId a).map Prod.fst = entries.map Prod.fst := by
  induction entries with
  | nil => cases h
  | cons p rest ih =>
      obtain ⟨k, b⟩ := p
      rw [ByRule.set]
      split
      · rfl
      next hother =>
        have hrest : ruleId ∈ rest.map Prod.fst := by
          rcases List.mem_cons.mp h with rfl | hrest
          · simp at hother
          · exact hrest
        rw [List.map_cons, List.map_cons, ih hrest]

/-- No rule has two entries. -/
theorem nodup_ofPairs {entries : ByRule α} (h : (entries.map Prod.fst).Nodup) (pairs : List (String × α)) :
    ((ByRule.ofPairs entries pairs).map Prod.fst).Nodup := by
  induction pairs generalizing entries with
  | nil => exact h
  | cons p rest ih =>
      obtain ⟨k, a⟩ := p
      have hset : ((ByRule.set entries k a).map Prod.fst).Nodup := by
        by_cases hmem : k ∈ entries.map Prod.fst
        · rwa [map_fst_set_of_mem hmem]
        · rw [set_of_not_mem hmem, List.map_append]
          exact h.append (List.nodup_singleton k) (List.disjoint_singleton.mpr hmem)
      exact ih hset

end ByRule

namespace Registry

def disabledHosts (r : Registry) : List Host := r.hosts.filter (!·.enabled)

/-- The identifiers that entries of the report stand under, but for that of the dashboard. -/
def reportedIds (r : Registry) : List String :=
  r.targets.map (·.ruleId) ++ r.disabledHosts.map (·.id)

/-- No two targets and disabled hosts share an identifier, and none has that of a system route. -/
structure ReportsApart (r : Registry) : Prop where
  nodup : r.reportedIds.Nodup
  dashboard : dashboardRule ∉ r.reportedIds
  portal : portalRule ∉ r.reportedIds

/-- The routes that certificates are looked at for. -/
def probedRoutes (r : Registry) (settings : Settings) : List Route :=
  (r.routes settings).filter (·.ruleId != portalRule)

/-- What stands in the report: an entry for every route but the portal's, by what its hostname answers, and an
entry for every disabled host. -/
structure ReportComplete (r : Registry) (settings : Settings) (peers : Peers) (now : Instant)
    (report : ByRule CertificateStatus) : Prop where
  nodup : (report.map Prod.fst).Nodup
  named : (report.map fun e => (e.1, e.2.domain)).Perm
    ((r.probedRoutes settings).map (fun route => (route.ruleId, route.domain)) ++
      r.disabledHosts.map fun h => (h.id, h.domain r.baseDomain))
  entries : (report.map fun e => (e.1, .ok e.2)).Perm
    ((r.probedRoutes settings).map (fun route =>
        (route.ruleId, CertificateStatus.ofReply (peers route.domain) route.domain now)) ++
      r.disabledHosts.map fun h => (h.id, .ok ⟨h.domain r.baseDomain, .error .disabled⟩))

end Registry

/-- A reply of which no status can be told: nothing can be connected to, or the certificate is of a version that
there is not. -/
inductive PeerReply.Raises : PeerReply → Fault → Prop where
  | unusable : Raises .unusable .badTarget
  | badVersion {bytes : List UInt8} (h : Certificate.ofBytes bytes = .badVersion) :
      Raises (.served (some bytes)) .badVersion

namespace Registry

/-- What connecting comes to: one connection for every route but the portal's, and a report, unless one of these
routes has a hostname of which no status can be told. -/
structure Probed (r : Registry) (settings : Settings) (peers : Peers) (now : Instant)
    (result : Except Fault (ByRule CertificateStatus)) (probes : List Probe) : Prop where
  probes : probes.Perm ((r.probedRoutes settings).map fun route =>
    ⟨route.domain, settings.probePort, settings.probeTimeout⟩)
  complete : ∀ report, result = .ok report → r.ReportComplete settings peers now report
  reported_iff : (∃ report, result = .ok report) ↔
    ∀ route ∈ r.probedRoutes settings, ∀ fault, ¬ (peers route.domain).Raises fault
  fault : ∀ fault, result = .error fault →
    ∃ route ∈ r.probedRoutes settings, (peers route.domain).Raises fault

variable {r : Registry} {settings : Settings} {peers : Peers} {now : Instant}

/-- The dashboard's rule and hostname, if it has a route. -/
def dashboardDomain (r : Registry) : List (String × String) :=
  (systemDomains r.baseDomain).filter (·.1 == dashboardRule)

theorem fst_of_mem_dashboardDomain {p : String × String} (h : p ∈ r.dashboardDomain) :
    p.1 = dashboardRule := by
  simpa using (List.mem_filter.mp h).2

theorem portalRule_ne_dashboardRule : portalRule ≠ dashboardRule := by decide

theorem nodup_dashboardDomain (r : Registry) : (r.dashboardDomain.map Prod.fst).Nodup := by
  rw [dashboardDomain, systemDomains]
  split
  · exact List.nodup_nil
  · simp [portalRule_ne_dashboardRule]

/-- What is probed and what is not share no identifier. -/
theorem ReportsApart.nodup_keys (h : r.ReportsApart) :
    ((r.disabledHosts.map (·.id)) ++
      (r.targets.map (·.ruleId) ++ r.dashboardDomain.map Prod.fst)).Nodup := by
  have hdashboard : ∀ id ∈ r.dashboardDomain.map Prod.fst, id = dashboardRule := by
    rw [List.forall_mem_map]
    exact fun p => fst_of_mem_dashboardDomain
  have hperm : (r.disabledHosts.map (·.id) ++
      (r.targets.map (·.ruleId) ++ r.dashboardDomain.map Prod.fst)).Perm
        (r.reportedIds ++ r.dashboardDomain.map Prod.fst) := by
    rw [reportedIds, ← List.append_assoc]
    exact List.perm_append_comm.append_right _
  rw [hperm.nodup_iff, List.nodup_append]
  refine ⟨h.nodup, r.nodup_dashboardDomain, ?_⟩
  rintro a ha b hb rfl
  exact h.dashboard (hdashboard a hb ▸ ha)

/-- Every target and then the dashboard is connected to. -/
theorem ReportsApart.probeDomains_eq (h : r.ReportsApart) :
    r.probeDomains = r.targets.map (fun t => (t.ruleId, t.domain)) ++ r.dashboardDomain := by
  rw [probeDomains]
  apply ByRule.ofPairs_of_nodup
  have hkeys := (List.nodup_append.mp h.nodup_keys).2.1
  rwa [List.nil_append, List.map_append, List.map_map]

theorem ReportsApart.nodup_probeDomains (h : r.ReportsApart) :
    (r.disabledHosts.map (·.id) ++ r.probeDomains.map Prod.fst).Nodup := by
  rw [h.probeDomains_eq, List.map_append, List.map_map]
  exact h.nodup_keys

/-- The routes besides the portal's are the dashboard's and those of the targets. -/
theorem ReportsApart.probedRoutes_eq (h : r.ReportsApart) (settings : Settings) :
    (r.probedRoutes settings).map (fun route => (route.ruleId, route.domain)) =
      r.dashboardDomain ++ r.targets.map fun t => (t.ruleId, t.domain) := by
  have htargets : (r.targets.map (Route.ofTarget settings r.baseDomain)).filter (·.ruleId != portalRule) =
      r.targets.map (Route.ofTarget settings r.baseDomain) := by
    rw [List.filter_eq_self, List.forall_mem_map]
    intro t ht
    have hother : t.ruleId ≠ portalRule := by
      rintro heq
      exact h.portal (heq ▸ List.mem_append_left _ (List.mem_map_of_mem ht))
    simpa [Route.ofTarget, Route.make] using hother
  have hsystem : ((Route.systemRoutes settings r.baseDomain).filter (·.ruleId != portalRule)).map
      (fun route => (route.ruleId, route.domain)) = r.dashboardDomain := by
    rw [Route.systemRoutes, dashboardDomain, systemDomains]
    split
    · rfl
    · simp [Route.make, portalRule_ne_dashboardRule, portalRule_ne_dashboardRule.symm]
  rw [probedRoutes, routes, List.filter_append, List.map_append, hsystem, htargets, List.map_map]
  rfl

/-- What is connected to is what is routed, but for the portal. -/
theorem ReportsApart.perm_probeDomains (h : r.ReportsApart) (settings : Settings) :
    r.probeDomains.Perm ((r.probedRoutes settings).map fun route => (route.ruleId, route.domain)) := by
  rw [h.probeDomains_eq, h.probedRoutes_eq]
  exact List.perm_append_comm

/-- A pool that is given what is connected to for a report, after a series of events. -/
def probing (r : Registry) (settings : Settings) (peers : Peers) (now : Instant)
    (events : List Pool.Event) : Pool :=
  (Pool.start settings r.probeDomains).run peers now events

end Registry

theorem ByRule.settled_eq_ok {α : Type} {entry : String × Except Fault α} {e : String × α} :
    ByRule.settled entry = .ok e ↔ entry = (e.1, .ok e.2) := by
  rw [settled, map_eq_ok]
  constructor
  · rintro ⟨a, ha, rfl⟩
    rw [← ha]
  · rintro rfl
    exact ⟨e.2, rfl, rfl⟩

theorem ByRule.settled_eq_error {α : Type} {entry : String × Except Fault α} {fault : Fault} :
    ByRule.settled entry = .error fault ↔ entry.2 = .error fault := by
  rw [settled]
  cases entry.2 <;> simp [Except.map]

theorem CertificateStatus.ofReply_eq_error_iff {reply : PeerReply} {hostname : String} {now : Instant}
    {fault : Fault} : ofReply reply hostname now = .error fault ↔ reply.Raises fault := by
  constructor
  · intro h
    rw [ofReply.eq_def] at h
    split at h
    case h_7 bytes _ =>
      rw [outcomeOf] at h
      split at h
      · cases h
      next hversion =>
        cases h
        exact .badVersion hversion
      · cases h
    case h_8 =>
      cases h
      exact .unusable
    all_goals cases h
  · rintro (_ | hversion)
    · rfl
    next bytes =>
      cases bytes with
      | nil => cases hversion
      | cons b rest =>
          rw [ofReply, outcomeOf, hversion]
          · rfl
          · exact fun h => by cases h

/-- A status is about the hostname that was connected to, whatever it answered. -/
theorem CertificateStatus.domain_of_ofReply {reply : PeerReply} {hostname : String} {now : Instant}
    {status : CertificateStatus} (h : ofReply reply hostname now = .ok status) : status.domain = hostname := by
  rw [ofReply.eq_def] at h
  split at h
  case h_7 =>
    obtain ⟨outcome, -, rfl⟩ := map_eq_ok.mp h
    rfl
  all_goals
    cases h
    try rfl

namespace Registry

variable {r : Registry} {settings : Settings} {peers : Peers} {now : Instant}

/-- When every job is done, what was found is what each hostname answers. -/
theorem collected_eq {pool : Pool} (hpool : pool.Complete settings peers now r.probeDomains) :
    r.collected pool.found = r.probeDomains.map (Pool.entry peers now) := by
  rw [collected, ← List.filterMap_eq_map]
  apply List.filterMap_congr
  rintro ⟨ruleId, hostname⟩ hjob
  have hfound := hpool.found _ hjob
  dsimp only at hfound ⊢
  rw [hfound]
  rfl

theorem complete_probing (r : Registry) {events : List Pool.Event}
    (hdone : (r.probing settings peers now events).isDone = true) :
    (r.probing settings peers now events).Complete settings peers now r.probeDomains := by
  obtain ⟨done, hreached⟩ := Pool.reached_run settings peers now r.probeDomains events
  have hkeys : (r.probeDomains.map Prod.fst).Nodup := by
    rw [probeDomains]
    exact ByRule.nodup_ofPairs (by simp) _
  exact hreached.complete hkeys hdone

theorem complete_inTurn (r : Registry) (settings : Settings) (peers : Peers) (now : Instant) :
    (r.probing settings peers now (Pool.inTurn r.probeDomains)).Complete settings peers now r.probeDomains :=
  r.complete_probing (Pool.isDone_inTurn settings peers now r.probeDomains)

theorem settled_entry_eq_error_iff {fault : Fault} :
    (∃ entry ∈ r.probeDomains.map (Pool.entry peers now), ByRule.settled entry = .error fault) ↔
      ∃ job ∈ r.probeDomains, (peers job.2).Raises fault := by
  simp only [List.mem_map, exists_exists_and_eq_and, ByRule.settled_eq_error, Pool.entry,
    CertificateStatus.ofReply_eq_error_iff]

/-- When every job is done there is a report unless a hostname stands in its way. -/
theorem exists_report_iff {pool : Pool} (hpool : pool.Complete settings peers now r.probeDomains) :
    (∃ report, r.report pool.found = .ok report) ↔
      ∀ job ∈ r.probeDomains, ∀ fault, ¬ (peers job.2).Raises fault := by
  rw [report, collected_eq hpool, exists_map_ok_iff, exists_mapM_ok_iff]
  constructor
  · intro hall job hjob fault hraises
    obtain ⟨entry, hentry, hsettled⟩ := settled_entry_eq_error_iff.mpr ⟨job, hjob, hraises⟩
    exact hall entry hentry fault hsettled
  · intro hnone entry hentry fault hsettled
    obtain ⟨job, hjob, hraises⟩ := settled_entry_eq_error_iff.mp ⟨entry, hentry, hsettled⟩
    exact hnone job hjob fault hraises

/-- Entries for hostnames that were connected to: each tells what its hostname answered. -/
def Answered (r : Registry) (peers : Peers) (now : Instant) (entries : ByRule CertificateStatus) : Prop :=
  List.Forall₂ (fun job e => Pool.entry peers now job = (e.1, .ok e.2)) r.probeDomains entries

section Answered

variable {entries : ByRule CertificateStatus}

theorem Answered.map_fst (h : r.Answered peers now entries) :
    entries.map Prod.fst = r.probeDomains.map Prod.fst := by
  rw [← List.forall₂_eq_eq_eq, List.forall₂_map_left_iff, List.forall₂_map_right_iff]
  exact (h.imp fun job e hentry => (congrArg Prod.fst hentry).symm).flip

theorem Answered.map_ok (h : r.Answered peers now entries) :
    entries.map (fun e => (e.1, .ok e.2)) = r.probeDomains.map (Pool.entry peers now) := by
  rw [← List.forall₂_eq_eq_eq, List.forall₂_map_left_iff, List.forall₂_map_right_iff]
  exact (h.imp fun job e hentry => hentry.symm).flip

theorem Answered.map_domain (h : r.Answered peers now entries) :
    entries.map (fun e => (e.1, e.2.domain)) = r.probeDomains := by
  rw [← List.forall₂_eq_eq_eq, List.forall₂_map_left_iff]
  refine (h.imp fun job e hentry => ?_).flip
  obtain ⟨hid, hstatus⟩ := Prod.mk.injEq .. ▸ hentry
  exact Prod.ext hid.symm (CertificateStatus.domain_of_ofReply hstatus)

end Answered

/-- The entries of a report are those of the disabled hosts and one for each hostname that was connected to. -/
theorem ReportsApart.report_eq_ok (h : r.ReportsApart) {pool : Pool}
    (hpool : pool.Complete settings peers now r.probeDomains) {report : ByRule CertificateStatus}
    (hreport : r.report pool.found = .ok report) :
    ∃ entries, report = r.disabledEntries ++ entries ∧ r.Answered peers now entries := by
  rw [Registry.report, collected_eq hpool, map_eq_ok] at hreport
  obtain ⟨entries, hsettled, rfl⟩ := hreport
  have hentries : r.Answered peers now entries := by
    rw [mapM_eq_ok_iff, List.forall₂_map_left_iff] at hsettled
    exact hsettled.imp fun job e => ByRule.settled_eq_ok.mp
  refine ⟨entries, ?_, hentries⟩
  apply ByRule.ofPairs_of_nodup
  rw [List.nil_append, List.map_append, hentries.map_fst, disabledEntries, List.map_map]
  exact h.nodup_probeDomains

theorem ReportsApart.reportComplete (h : r.ReportsApart) {pool : Pool}
    (hpool : pool.Complete settings peers now r.probeDomains) {report : ByRule CertificateStatus}
    (hreport : r.report pool.found = .ok report) : r.ReportComplete settings peers now report := by
  obtain ⟨entries, rfl, hentries⟩ := h.report_eq_ok hpool hreport
  have hroutes := h.perm_probeDomains settings
  refine ⟨?_, ?_, ?_⟩
  · rw [List.map_append, hentries.map_fst, disabledEntries, List.map_map]
    exact h.nodup_probeDomains
  · rw [List.map_append, hentries.map_domain, disabledEntries, List.map_map]
    exact List.perm_append_comm.trans (hroutes.append_right _)
  · have hprobed := hroutes.map (Pool.entry peers now)
    rw [List.map_map] at hprobed
    rw [List.map_append, hentries.map_ok, disabledEntries, List.map_map]
    exact List.perm_append_comm.trans (hprobed.append_right _)

/-- When every job is done, each route but the portal's was connected to once, and there is a report unless one of
their hostnames stands in its way. -/
theorem ReportsApart.probed (h : r.ReportsApart) {pool : Pool}
    (hpool : pool.Complete settings peers now r.probeDomains) :
    r.Probed settings peers now (r.report pool.found) pool.probes := by
  have hroutes := h.perm_probeDomains settings
  refine ⟨?_, fun report => h.reportComplete hpool, ?_, ?_⟩
  · have hprobes := hroutes.map fun job => (⟨job.2, settings.probePort, settings.probeTimeout⟩ : Probe)
    rw [List.map_map] at hprobes
    exact hpool.probes.trans hprobes
  · rw [exists_report_iff hpool]
    constructor
    · exact fun hall route hroute => hall _ (hroutes.mem_iff.mpr (List.mem_map_of_mem hroute))
    · intro hnone job hjob
      obtain ⟨route, hroute, rfl⟩ := List.mem_map.mp (hroutes.mem_iff.mp hjob)
      exact hnone route hroute
  · intro fault hreport
    rw [report, collected_eq hpool, map_eq_error] at hreport
    obtain ⟨job, hjob, hraises⟩ := settled_entry_eq_error_iff.mp (exists_of_mapM_error hreport)
    obtain ⟨route, hroute, rfl⟩ := List.mem_map.mp (hroutes.mem_iff.mp hjob)
    exact ⟨route, hroute, hraises⟩

/-- Two reports have entries for the same rules and hostnames, and they are the same but for those of some
hostnames. -/
def SameBut (changed : String → Prop) (report report' : ByRule CertificateStatus) : Prop :=
  List.Forall₂ (fun e e' => e'.1 = e.1 ∧ e'.2.domain = e.2.domain ∧ (¬ changed e.2.domain → e' = e))
    report report'

theorem Answered.sameBut {changed : String → Prop} {peers' : Peers} {entries entries' : ByRule CertificateStatus}
    (h : r.Answered peers now entries) (h' : r.Answered peers' now entries')
    (hagree : ∀ hostname, ¬ changed hostname → peers' hostname = peers hostname) :
    SameBut changed entries entries' := by
  unfold Answered at h h'
  generalize r.probeDomains = jobs at h h'
  induction h generalizing entries' with
  | nil =>
      cases h'
      exact .nil
  | @cons job e jobs entries hentry _ ih =>
      cases h' with
      | @cons _ e' _ _ hentry' hrest' =>
          refine .cons ?_ (ih hrest')
          obtain ⟨hid, hstatus⟩ := Prod.mk.injEq .. ▸ hentry
          obtain ⟨hid', hstatus'⟩ := Prod.mk.injEq .. ▸ hentry'
          have hdomain := CertificateStatus.domain_of_ofReply hstatus
          refine ⟨hid'.symm.trans hid, ?_, fun hkept => ?_⟩
          · rw [hdomain, CertificateStatus.domain_of_ofReply hstatus']
          · rw [hdomain] at hkept
            rw [hagree _ hkept, hstatus] at hstatus'
            exact Prod.ext (hid'.symm.trans hid) (Except.ok.inj hstatus').symm

/-- What becomes of the report on certificates, whatever the peers do and however the workers come to run. -/
structure ReportsCertificates (r : Registry) (settings : Settings) : Prop where
  ends : ∀ peers now events, ∃ more, (r.probing settings peers now (events ++ more)).isDone = true
  probed : ∀ peers now events, (r.probing settings peers now events).isDone = true →
    r.Probed settings peers now (r.report (r.probing settings peers now events).found)
      (r.probing settings peers now events).probes
  shown : ∀ w : World, ∃ result probes,
    w.certificates settings r = (result, { w with probes := w.probes ++ probes }) ∧
      r.Probed settings w.peers w.supply.now result probes
  independent : ∀ (changed : String → Prop) (peers peers' : Peers) (now : Instant) (workers : Int)
    (events events' : List Pool.Event) (report report' : ByRule CertificateStatus),
    (∀ hostname, ¬ changed hostname → peers' hostname = peers hostname) →
    (r.probing settings peers now events).isDone = true →
    (r.probing { settings with probeWorkers := workers } peers' now events').isDone = true →
    r.report (r.probing settings peers now events).found = .ok report →
    r.report (r.probing { settings with probeWorkers := workers } peers' now events').found = .ok report' →
      SameBut changed report report'

/-- Where targets and disabled hosts have identifiers of their own, every run of the workers can be brought to its
end, by one connection for each route but the portal's.  Then there is a report exactly if no hostname of these
raises a fault; it has exactly one entry for each of these routes and for every disabled host; and other answers of
some hostnames, with any number of workers, change the entries of those hostnames alone. -/
theorem certificate_report_is_complete_iff (h : r.ReportsApart) (settings : Settings) :
    r.ReportsCertificates settings where
  ends peers now events := by
    obtain ⟨done, hreached⟩ := Pool.reached_run settings peers now r.probeDomains events
    obtain ⟨more, hmore⟩ := hreached.exists_done
    refine ⟨more, ?_⟩
    rw [probing, Pool.run, List.foldl_append]
    exact hmore
  probed peers now events hdone := h.probed (r.complete_probing hdone)
  shown w := ⟨_, _, rfl, h.probed (r.complete_inTurn settings w.peers w.supply.now)⟩
  independent changed peers peers' now workers events events' report report' hagree hdone hdone' hreport
      hreport' := by
    obtain ⟨entries, rfl, hentries⟩ := h.report_eq_ok (r.complete_probing hdone) hreport
    obtain ⟨entries', rfl, hentries'⟩ := h.report_eq_ok (r.complete_probing hdone') hreport'
    apply List.rel_append
    · rw [List.forall₂_same]
      exact fun e _ => ⟨rfl, rfl, fun _ => rfl⟩
    · exact hentries.sameBut hentries' hagree

/-- There is no report where one hostname of the routes raises a fault. -/
theorem ReportsApart.report_fails (h : r.ReportsApart) {settings : Settings} {w : World} {hostname : String}
    (hrouted : hostname ∈ (r.probedRoutes settings).map (·.domain)) {fault : Fault}
    (hraises : (w.peers hostname).Raises fault) : ¬ ∃ report, (w.certificates settings r).1 = .ok report := by
  obtain ⟨route, hroute, rfl⟩ := List.mem_map.mp hrouted
  have hcomplete := r.complete_inTurn settings w.peers w.supply.now
  exact fun hreport => (h.probed hcomplete).reported_iff.mp hreport route hroute fault hraises

end Registry

namespace TwoHosts

/-- A host below the base domain. -/
def host (id : String) (enabled : Bool) : Host :=
  ⟨⟨"10.0.0.5", ⟨8443, by decide, by decide⟩, false, false⟩, id, some id, none, enabled, "", []⟩

/-- One host is enabled and one is not. -/
def registry : Registry :=
  { Registry.initial with
    baseDomain := "example.org"
    hosts := [host "one" true, host "two" false] }

theorem reportsApart : registry.ReportsApart := ⟨by decide, by decide, by decide⟩

end TwoHosts

/-- A report on the dashboard and two hosts, one of them disabled, when no peer takes connections. -/
theorem certificate_report_is_complete_iff_two_hosts :
    TwoHosts.registry.ReportsApart ∧ ∃ report probes,
      World.empty.certificates .standard TwoHosts.registry =
        (.ok report, { World.empty with probes := World.empty.probes ++ probes }) ∧
      (report.map fun e => (e.1, .ok e.2)).Perm
        [("system-dashboard", (.ok ⟨"proxy.example.org", .error .refused⟩ : Except Fault CertificateStatus)),
          ("one", .ok ⟨"one.example.org", .error .refused⟩), ("two", .ok ⟨"two.example.org", .error .disabled⟩)] ∧
      probes.length = 2 := by
  refine ⟨TwoHosts.reportsApart, ?_⟩
  obtain ⟨result, probes, hshown, hprobed⟩ :=
    (Registry.certificate_report_is_complete_iff TwoHosts.reportsApart .standard).shown World.empty
  obtain ⟨report, rfl⟩ := hprobed.reported_iff.mpr fun route _ fault hraises => by cases hraises
  refine ⟨report, probes, hshown, (hprobed.complete report rfl).entries, ?_⟩
  rw [hprobed.probes.length_eq]
  rfl

namespace LongName

/-- Too long for one label, with the name of the application before it. -/
def slug : String := String.ofList (List.replicate 60 'a')

/-- A host and an application whose API has a long name. -/
def registry : Registry :=
  let backend : Backend := ⟨"10.0.0.5", ⟨8443, by decide, by decide⟩, false, false⟩
  { Registry.initial with
    baseDomain := "example.org"
    applications := [⟨"app", "Shop", "shop", true, "", [("prod", ⟨none, [⟨backend, slug, []⟩], []⟩)], []⟩]
    hosts := [TwoHosts.host "one" true] }

def domain : String := "shop-" ++ slug ++ ".api.example.org"

/-- No connection can be asked for with the long name, and the others refuse theirs. -/
def peers : Peers := fun hostname => if hostname == domain then .unusable else .refused

/-- The fewest bytes that are a certificate of the fourth version. -/
def fourthVersion : List UInt8 :=
  [0x30, 0x45, 0x30, 0x3B, 0xA0, 0x03, 0x02, 0x01, 0x03, 0x02, 0x01, 0x01, 0x30, 0x03, 0x06, 0x01, 0x2A,
    0x30, 0x00, 0x30, 0x1E, 0x17, 0x0D, 0x39, 0x39, 0x30, 0x31, 0x30, 0x31, 0x30, 0x30, 0x30, 0x30, 0x30,
    0x30, 0x5A, 0x17, 0x0D, 0x32, 0x36, 0x30, 0x33, 0x32, 0x35, 0x30, 0x30, 0x30, 0x30, 0x30, 0x30, 0x5A,
    0x30, 0x00, 0x30, 0x08, 0x30, 0x03, 0x06, 0x01, 0x2A, 0x03, 0x01, 0x00, 0x30, 0x03, 0x06, 0x01, 0x2A,
    0x03, 0x01, 0x00]

theorem reportsApart : registry.ReportsApart := ⟨by decide +kernel, by decide +kernel, by decide +kernel⟩

/-- There is no report where the long name has no status. -/
theorem report_fails {peers : Peers} {fault : Fault} (h : (peers domain).Raises fault) :
    ¬ ∃ report, ({ World.empty with peers := peers }.certificates .standard registry).1 = .ok report := by
  have hrouted : domain ∈ (registry.probedRoutes .standard).map (·.domain) := by decide +kernel
  exact reportsApart.report_fails (w := { World.empty with peers := peers }) hrouted h

end LongName

/-- A valid registry, whose rules and disabled hosts have identifiers of their own, of which there is no report: as
no connection can be asked for with one of its hostnames, or as a certificate is of the fourth version. -/
theorem one_hostname_takes_away_the_report :
    LongName.registry.violations = [] ∧ LongName.registry.ReportsApart ∧
      (¬ ∃ report, ({ World.empty with peers := LongName.peers }.certificates .standard
        LongName.registry).1 = .ok report) ∧
      ¬ ∃ report, ({ World.empty with peers := fun _ => .served (some LongName.fourthVersion) }.certificates
        .standard LongName.registry).1 = .ok report := by
  refine ⟨by decide +kernel, LongName.reportsApart, ?_, ?_⟩
  · have hpeer : LongName.peers LongName.domain = .unusable := by decide +kernel
    have hraises : (LongName.peers LongName.domain).Raises .badTarget := by
      rw [hpeer]
      exact .unusable
    exact LongName.report_fails hraises
  · have hversion : Certificate.ofBytes LongName.fourthVersion = .badVersion := by decide +kernel
    exact LongName.report_fails (.badVersion hversion)

end EdgeProxy
