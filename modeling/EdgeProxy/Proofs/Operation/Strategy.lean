import EdgeProxy.Proofs.Operation.Live
import EdgeProxy.Proofs.Operation.Patterns
import EdgeProxy.Proofs.Registry.References
/-!
Routes and certificates.  What a compiled document says of certificates follows from the provider, the token
and the routes that it is compiled with: either it asks for the patterns, in each of the places where they
stand, or for the host names of its routes, each once.  The strategy that is told of a push is the one by which
the document was made.
-/

namespace EdgeProxy

/-- The texts of a list, each once and in the order in which they first occur. -/
structure FirstOccurrences (l firsts : List String) : Prop where
  nodup : firsts.Nodup
  mem_iff : ∀ s, s ∈ firsts ↔ s ∈ l
  order : firsts.Pairwise fun s t => l.idxOf s < l.idxOf t

/-- Items that are kept stand in the order in which they stood. -/
theorem idxOf_lt_of_filter {p : String → Bool} {s t : String} {l : List String} (hs : p s = true)
    (ht : p t = true) (h : (l.filter p).idxOf s < (l.filter p).idxOf t) : l.idxOf s < l.idxOf t := by
  induction l with
  | nil => exact absurd h (Nat.lt_irrefl _)
  | cons a rest ih =>
      have hne : s ≠ t := by
        rintro rfl
        exact Nat.lt_irrefl _ h
      by_cases has : a = s
      · subst has
        rw [List.idxOf_cons_self, List.idxOf_cons_ne _ hne]
        exact Nat.succ_pos _
      by_cases hat : a = t
      · subst hat
        rw [List.filter_cons_of_pos ht, List.idxOf_cons_self] at h
        exact absurd h (Nat.not_lt_zero _)
      rw [List.idxOf_cons_ne _ has, List.idxOf_cons_ne _ hat]
      apply Nat.succ_lt_succ
      apply ih
      by_cases hkept : p a = true
      · rw [List.filter_cons_of_pos hkept, List.idxOf_cons_ne _ has, List.idxOf_cons_ne _ hat] at h
        exact Nat.lt_of_succ_lt_succ h
      · rwa [List.filter_cons_of_neg hkept] at h

theorem pairwise_eraseDups : ∀ l : List String, l.eraseDups.Pairwise fun s t => l.idxOf s < l.idxOf t
  | [] => .nil
  | a :: rest => by
      rw [List.eraseDups_cons, List.pairwise_cons]
      have hother : ∀ {s}, s ∈ (rest.filter fun b => !b == a).eraseDups → (!s == a) = true :=
        fun hs => (List.mem_filter.mp (List.mem_eraseDups.mp hs)).2
      constructor
      · intro t ht
        have hne : a ≠ t := by
          rintro rfl
          simpa using hother ht
        rw [List.idxOf_cons_self, List.idxOf_cons_ne _ hne]
        exact Nat.succ_pos _
      · refine (pairwise_eraseDups (rest.filter fun b => !b == a)).imp_of_mem fun {s t} hs ht h => ?_
        have hs' := hother hs
        have ht' := hother ht
        apply idxOf_lt_of_filter (p := fun b => !b == a) hs' ht'
        rwa [List.filter_cons_of_neg (by simp)]
  termination_by l => l.length
  decreasing_by exact Nat.lt_succ_of_le (List.length_filter_le _ _)

theorem firstOccurrences_eraseDups (l : List String) : FirstOccurrences l l.eraseDups where
  nodup := nodup_eraseDups l
  mem_iff _ := List.mem_eraseDups
  order := pairwise_eraseDups l

namespace Json

/-- Under keys stands an object that has no field of a name. -/
def Lacks (document : Json) (keys : List String) (name : String) : Prop :=
  ∃ fields, document.under keys = .obj fields ∧ Fields.get? fields name = none

/-- A document asks for certificates for patterns by way of the provider: they are to be kept, the only policy
is about them, and the server prefers them. -/
structure AsksForPatterns (document : Json) (server : String) (patterns : List String)
    (tokenVariable : String) : Prop where
  kept : document.under ["apps", "tls", "certificates", "automate"] = .texts patterns
  policies : document.under ["apps", "tls", "automation", "policies"] =
    .arr [.obj [("subjects", .texts patterns),
      ("issuers", .arr [TlsPolicy.providerIssuer tokenVariable])]]
  preferred : document.under ["apps", "http", "servers", server, "automatic_https", "prefer_wildcard"] =
    .bool true

/-- A document asks for one certificate for each host name: it says nothing of patterns, and its only policy is
about the host names, if there are any. -/
structure AsksForHostnames (document : Json) (server : String) (hostnames : List String) : Prop where
  kept : document.Lacks ["apps", "tls"] "certificates"
  preferred : document.Lacks ["apps", "http", "servers", server] "automatic_https"
  none : hostnames = [] → document.Lacks ["apps", "tls"] "automation"
  policies : hostnames ≠ [] → document.under ["apps", "tls", "automation", "policies"] =
    .arr [.obj [("subjects", .texts hostnames), ("issuers", .arr [.obj [("module", .str "acme")]])]]

end Json

namespace EdgeConfig

variable {config : EdgeConfig}

/-- A document says of certificates what the policy of its configuration is. -/
theorem under_tls (config : EdgeConfig) (keys : List String) :
    config.toJson.under ("apps" :: "tls" :: keys) = config.tls.toJson.under keys := by
  simp [toJson, Json.under, Fields.valueOf, Fields.get?]

theorem under_server (config : EdgeConfig) (keys : List String) :
    config.toJson.under ("apps" :: "http" :: "servers" :: config.serverName :: keys) =
      (Json.obj config.serverFields).under keys := by
  simp [toJson, Json.under, Fields.valueOf, Fields.get?]

theorem asksForPatterns {patterns : List String} {tokenVariable : String}
    (h : config.tls = .wildcard patterns tokenVariable) :
    config.toJson.AsksForPatterns config.serverName patterns tokenVariable := by
  refine ⟨?_, ?_, ?_⟩
  · rw [under_tls, h]
    simp [TlsPolicy.toJson, Json.under, Fields.valueOf, Fields.get?]
  · rw [under_tls, h]
    simp [TlsPolicy.toJson, TlsPolicy.automation, Json.under, Fields.valueOf, Fields.get?]
  · rw [under_server, serverFields, h]
    simp [TlsPolicy.automaticHttps, Json.under, Fields.valueOf, Fields.get?]

theorem asksForHostnames {hostnames : List String} (h : config.tls = .perHost hostnames) :
    config.toJson.AsksForHostnames config.serverName hostnames := by
  refine ⟨?_, ?_, ?_, ?_⟩
  · rw [Json.Lacks, under_tls, h]
    cases hostnames <;> exact ⟨_, rfl, rfl⟩
  · rw [Json.Lacks, under_server, serverFields, h]
    exact ⟨_, rfl, rfl⟩
  · rintro rfl
    rw [Json.Lacks, under_tls, h]
    exact ⟨_, rfl, rfl⟩
  · intro hne
    obtain ⟨hostname, rest, rfl⟩ := List.exists_cons_of_ne_nil hne
    rw [under_tls, h]
    simp [TlsPolicy.toJson, TlsPolicy.automation, Json.under, Fields.valueOf, Fields.get?]

end EdgeConfig

namespace Registry

/-- Certificates for patterns can be had: the provider is on, its token is there, and there are patterns. -/
def CanAskForPatterns (r : Registry) (settings : Settings) : Prop :=
  r.provider.enabled = true ∧ settings.hasToken = true ∧ r.requestedPatterns ≠ []

theorem requestedPatterns_ne_nil {r : Registry} (h : r.baseDomain ≠ "") : r.requestedPatterns ≠ [] := by
  rw [requestedPatterns]
  split
  · exact wildcardPatterns_ne_nil h
  next hstored => simpa using hstored

/-- What is asked for does not depend on the routes if patterns can be asked for. -/
theorem tlsPolicy_of_canAsk {r : Registry} {settings : Settings} (h : r.CanAskForPatterns settings)
    (routes : List Route) :
    r.tlsPolicy routes settings.hasToken settings.tokenVariable =
      .wildcard r.requestedPatterns settings.tokenVariable := by
  obtain ⟨henabled, htoken, hpatterns⟩ := h
  rw [tlsPolicy, henabled, htoken, if_pos (by simpa using hpatterns)]

theorem tlsPolicy_of_cannotAsk {r : Registry} {settings : Settings} (h : ¬ r.CanAskForPatterns settings)
    (routes : List Route) :
    r.tlsPolicy routes settings.hasToken settings.tokenVariable =
      .perHost (routes.map (·.domain)).eraseDups := by
  rw [tlsPolicy, if_neg]
  intro hall
  simp only [Bool.and_eq_true, Bool.not_eq_true', List.isEmpty_eq_false_iff] at hall
  exact h ⟨hall.1.1, hall.1.2, hall.2⟩

end Registry

/-- The strategy by which certificates are obtained and the document that is loaded into the proxy agree with
what a registry can ask for, and with its routes. -/
structure Registry.TlsAgrees (r : Registry) (settings : Settings) (document : Json) (strategy : String) :
    Prop where
  patterns : r.CanAskForPatterns settings → strategy = "wildcard" ∧
    document.AsksForPatterns settings.serverName r.requestedPatterns settings.tokenVariable
  hostnames : ¬ r.CanAskForPatterns settings → strategy = "per_host" ∧
    ∃ hostnames, FirstOccurrences ((r.routes settings).map (·.domain)) hostnames ∧
      document.AsksForHostnames settings.serverName hostnames

theorem Registry.tlsAgrees_compile (r : Registry) (settings : Settings) :
    r.TlsAgrees settings (r.compile settings).toJson (r.compile settings).tls.strategy where
  patterns h := by
    have htls : (r.compile settings).tls = .wildcard r.requestedPatterns settings.tokenVariable :=
      tlsPolicy_of_canAsk h _
    exact ⟨by rw [htls]; rfl, EdgeConfig.asksForPatterns htls⟩
  hostnames h := by
    have htls : (r.compile settings).tls = .perHost ((r.routes settings).map (·.domain)).eraseDups :=
      tlsPolicy_of_cannotAsk h _
    exact ⟨by rw [htls]; rfl, _, firstOccurrences_eraseDups _, EdgeConfig.asksForHostnames htls⟩

namespace World

variable {settings : Settings} {w w' : World}

/-- The strategy that is told of a push is read off the document that is pushed. -/
theorem apply_strategy {r : Registry} {applied : Applied} (h : w.apply settings r = (.ok applied, w')) :
    applied.strategy = (r.compile settings).tls.strategy := by
  rcases settings.client.push_spec (r.compile settings).toJson w.line with
    ⟨fault, -, hpush⟩ | ⟨-, push, hpush, -⟩
  · rw [apply_of_fault hpush] at h
    cases h
  · obtain ⟨⟨result, after⟩, hconfirmed⟩ : ∃ outcome,
        confirmed settings ((r.compile settings).routes.map (·.ruleId)) push
          { w with line := settings.client.pushed (r.compile settings).toJson w.line } = outcome := ⟨_, rfl⟩
    rw [apply_of_push hpush hconfirmed] at h
    cases result with
    | error fault => cases h
    | ok told =>
        cases h
        rfl

/-- A repeated push that succeeds is one of the stored registry, and was accepted. -/
theorem repush_eq_ok {message : String} {answer : Answer}
    (h : w.repush settings message = (.ok answer, w')) (hsuccess : answer.isSuccess = true) :
    ∃ r left applied, Store.load w.supply w.files settings.registryPath = (.ok r, left) ∧
      { w with supply := left }.apply settings r = (.ok applied, w') ∧
      applied.push.accepted = true ∧ answer = .pushed message applied := by
  unfold repush withRegistry load at h
  cases hload : Store.load w.supply w.files settings.registryPath with
  | mk result left =>
      simp only [hload] at h
      cases result with
      | error failure =>
          cases failure with
          | fault fault => cases h
          | refused why =>
              cases h
              cases hsuccess
      | ok r =>
          dsimp only at h
          split at h
          · cases h
          next applied after happly =>
            split at h
            next haccepted =>
              cases h
              exact ⟨r, left, applied, rfl, happly, haccepted, rfl⟩
            · cases h
              cases hsuccess

/-- Certificates and routes of a compiled document agree, and the strategy that is told of a repeated push is
the one by which the document was made. -/
theorem tls_agrees_with_routes (settings : Settings) :
    (∀ r : Registry, r.TlsAgrees settings (r.compile settings).toJson
        (r.tlsPolicy (r.routes settings) settings.hasToken settings.tokenVariable).strategy) ∧
      ∀ (op : Operation) (w w' : World) (answer : Answer), op = .reload ∨ op = .renew →
        op.run settings w = (.ok answer, w') → answer.isSuccess = true →
          ∃ r left, Store.load w.supply w.files settings.registryPath = (.ok r, left) ∧
            (Json.obj answer.fields).under ["apply", "tlsStrategy"] =
              .str (r.tlsPolicy (r.routes settings) settings.hasToken settings.tokenVariable).strategy := by
  refine ⟨fun r => r.tlsAgrees_compile settings, ?_⟩
  intro op w w' answer hop hrun hsuccess
  have hrepush : ∃ message, w.repush settings message = (.ok answer, w') := by
    rcases hop with rfl | rfl
    · exact ⟨_, by rwa [Operation.run] at hrun⟩
    · exact ⟨_, by rwa [Operation.run] at hrun⟩
  obtain ⟨message, hrepush⟩ := hrepush
  obtain ⟨r, left, applied, hload, happly, -, rfl⟩ := repush_eq_ok hrepush hsuccess
  have hstrategy := apply_strategy happly
  refine ⟨r, left, hload, ?_⟩
  simp [Answer.fields, Applied.toJson, Json.under, Fields.valueOf, Fields.get?, hstrategy]
  rfl

theorem Ready.onLine {r : Registry} (h : w.Ready settings r) (line : Line) :
    ({ w with line := line } : World).Ready settings r :=
  h.of_content_eq rfl

/-- Where a registry is stored and the proxy accepts everything and answers, a reload succeeds. -/
theorem Ready.reloads {r : Registry} (h : w.Ready settings r) (hreturns : settings.Returns w.line)
    (haccepts : settings.client.accepts w.line = true) :
    ∃ answer w', Operation.reload.run settings w = (.ok answer, w') ∧ answer.isSuccess = true := by
  obtain ⟨result, line, hrun, -, hanswers, happlied⟩ := h.repush "Proxy configuration reloaded"
  obtain ⟨answer, rfl⟩ := hanswers (hreturns r)
  have haccepted : answer.isApplied = true := (happlied answer rfl).trans haccepts
  refine ⟨answer, _, hrun, ?_⟩
  cases answer with
  | refused why => cases haccepted
  | _ => rfl

theorem accepts_empty (harrives : settings.client.arrives = true) :
    settings.client.accepts empty.line = true := by
  rw [Client.accepts_of_arrives harrives]
  rfl

theorem tokenSettings_arrives : tokenSettings.client.arrives = true := by
  have hclient : tokenSettings.client = Settings.standard.client := rfl
  rw [hclient, standard_arrives]

/-- A reload where nothing is stored, and one where the provider was switched on. -/
theorem tls_agrees_with_routes_reloaded :
    (∃ answer w', Operation.reload.run .standard empty = (.ok answer, w') ∧
        (Json.obj answer.fields).under ["apply", "tlsStrategy"] = .str "per_host" ∧
        (Registry.initial.compile .standard).toJson.Lacks ["apps", "tls"] "automation") ∧
      ∃ answer w', Operation.reload.run tokenSettings
          { empty.history tokenSettings switchedOn with line := empty.line } = (.ok answer, w') ∧
        (Json.obj answer.fields).under ["apply", "tlsStrategy"] = .str "wildcard" ∧
        ((providerOn 2).compile tokenSettings).toJson.AsksForPatterns "edge" (providerOn 2).requestedPatterns
          "CF_API_TOKEN" := by
  constructor
  · have hready : empty.Ready .standard .initial := ready_initial rfl
    obtain ⟨answer, w', hrun, hsuccess⟩ := hready.reloads returns_empty (accepts_empty standard_arrives)
    obtain ⟨hagrees, hreloads⟩ := tls_agrees_with_routes .standard
    obtain ⟨r, left, hload, hstrategy⟩ := hreloads _ _ _ _ (.inl rfl) hrun hsuccess
    cases hload.symm.trans (hready.load _)
    obtain ⟨hperHost, hostnames, hfirst, hasks⟩ := (hagrees .initial).hostnames (by rintro ⟨⟨⟩, -⟩)
    refine ⟨answer, w', hrun, by rw [hstrategy, hperHost], hasks.none ?_⟩
    exact List.eq_nil_iff_forall_not_mem.mpr fun s hs => List.not_mem_nil ((hfirst.mem_iff s).mp hs)
  · have hready : ({ empty.history tokenSettings switchedOn with line := empty.line } : World).Ready
        tokenSettings (providerOn 2) := onShelf_switchedOn.ready.onLine empty.line
    have hreturns : tokenSettings.Returns empty.line :=
      Settings.returns_of_live tokenSettings_arrives rfl rfl rfl (Nat.le_refl _) (Nat.le_refl _)
    obtain ⟨answer, w', hrun, hsuccess⟩ := hready.reloads hreturns (accepts_empty tokenSettings_arrives)
    obtain ⟨hagrees, hreloads⟩ := tls_agrees_with_routes tokenSettings
    obtain ⟨r, left, hload, hstrategy⟩ := hreloads _ _ _ _ (.inl rfl) hrun hsuccess
    cases hload.symm.trans (hready.load _)
    have hpatterns : (providerOn 2).requestedPatterns ≠ [] := Registry.requestedPatterns_ne_nil (by decide)
    obtain ⟨hwildcard, hasks⟩ := (hagrees (providerOn 2)).patterns ⟨rfl, rfl, hpatterns⟩
    exact ⟨answer, w', hrun, by rw [hstrategy, hwildcard], hasks⟩

end World

end EdgeProxy
