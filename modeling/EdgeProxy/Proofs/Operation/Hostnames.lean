import EdgeProxy.Proofs.Hostname.Grammar
import EdgeProxy.Proofs.Operation.Faults
import EdgeProxy.Proofs.Registry.Stems
/-!
Compiled names are host names exactly if three things are, which no operation asks for: the last parts of
the base domain and of the domains that hosts have of their own are short enough, and so is what a slug and
the slug of an API make together, which may not end in a hyphen either.  A line break at the end of a name
passes the grammar of requests, so it is supposed that requests have none; then no part of a name has one.
-/

namespace EdgeProxy

/-- A value that is no text with a line break. -/
def Json.Unbroken (v : Json) : Prop := ∀ s, v = .str s → Hostname.Unbroken s

/-- No value of a payload is a text with a line break. -/
def Payload.Unbroken (data : Json) : Prop :=
  ∀ fields, data = .obj fields → ∀ p ∈ fields, p.2.Unbroken

/-- No text that an operation takes has a line break. -/
structure Operation.Unbroken (op : Operation) : Prop where
  domain : ∀ value, op = .setBaseDomain value → value.Unbroken
  payload : ∀ data, op.payload? = some data → Payload.Unbroken data

namespace Payload

theorem unbroken_of_get? {fields : Fields} {key : String} {v : Json}
    (h : Unbroken (.obj fields)) (hget : fields.get? key = some v) : v.Unbroken :=
  h fields rfl (key, v) (Fields.mem_of_get? hget)

/-- What is taken out of a payload has no line break if the payload has none. -/
theorem Unbroken.within {data : Json} (h : Unbroken data) : Within Json.Unbroken data where
  field := by
    intro key v hfield
    cases data with
    | obj fields =>
        cases hfield
        intro s hs
        rw [Fields.valueOf] at hs
        cases hget : Fields.get? fields key with
        | none => simp [hget] at hs
        | some w => exact unbroken_of_get? h hget s (by simpa [hget] using hs)
    | _ => cases hfield
  given := by
    intro key v hgiven
    cases data with
    | obj fields => exact unbroken_of_get? h (Except.ok.inj hgiven)
    | arr items | str s =>
        rw [given] at hgiven
        split at hgiven <;> cases hgiven
    | _ => cases hgiven

theorem within_switch (enabled : Json) : Within Json.Unbroken (World.switch enabled) := by
  refine Unbroken.within fun fields hfields p hp s hs => ?_
  cases hfields
  obtain rfl := List.mem_singleton.mp hp
  cases hs

end Payload

namespace Request

open Hostname (Unbroken)

theorem unbroken_of_baseDomain {v : Json} {domain : String} (hv : v.Unbroken)
    (h : baseDomain v = .ok domain) : Unbroken domain := by
  rw [baseDomain.eq_def] at h
  split at h
  next s =>
    split at h
    · exact absurd h not_reject
    · dsimp only at h
      split at h
      · rw [← Except.ok.inj h]
        exact Text.unbroken_lower (Text.unbroken_trim (hv s rfl))
      · exact absurd h not_reject
  · exact absurd h not_reject

theorem unbroken_of_freeLabel {format : Rejection} {reserved : String → Rejection} {v : Json}
    {label : String} (hv : v.Unbroken) (h : freeLabel format reserved v = .ok label) :
    Unbroken label := by
  rw [freeLabel.eq_def] at h
  split at h
  next s =>
    dsimp only at h
    split at h
    · exact absurd h not_reject
    · split at h
      · exact absurd h not_reject
      · rw [← Except.ok.inj h]
        exact Text.unbroken_lower (hv s rfl)
  · exact absurd h not_reject

theorem unbroken_of_customDomain {v : Json} {domain : String} (hv : v.Unbroken)
    (h : customDomain v = .ok domain) : Unbroken domain := by
  rw [customDomain.eq_def] at h
  split at h
  next s =>
    dsimp only at h
    split at h
    · rw [← Except.ok.inj h]
      exact Text.unbroken_lower (hv s rfl)
    · exact absurd h not_reject
  · exact absurd h not_reject

theorem unbroken_of_labels {v : Json} {field labels : String} {allowEmpty : Bool} (hv : v.Unbroken)
    (h : Request.labels v field allowEmpty = .ok labels) : Unbroken labels := by
  rw [Request.labels.eq_def] at h
  split at h
  next s =>
    dsimp only at h
    split at h
    · split at h
      · rw [← Except.ok.inj h]
        simp [Unbroken]
      · exact absurd h not_reject
    · split at h
      · rw [← Except.ok.inj h]
        exact Text.unbroken_lower (Text.unbroken_trim (hv s rfl))
      · exact absurd h not_reject
  · exact absurd h not_reject

end Request

/-- The domain of its own in the name of a host is one. -/
theorem HostName.isDomainText {subdomain : Option String} {s : String}
    (h : HostName subdomain (some s)) : Hostname.isDomainText s = true := by
  cases h with
  | customDomain hs => exact hs

/-- Neither part of the name of a host has a line break. -/
def HostNameUnbroken (subdomain customDomain : Option String) : Prop :=
  (∀ s, subdomain = some s → Hostname.Unbroken s) ∧ ∀ s, customDomain = some s → Hostname.Unbroken s

namespace Registry

/-- No part of a name has a line break; the slugs of APIs cannot have one. -/
structure Unbroken (r : Registry) : Prop where
  baseDomain : Hostname.Unbroken r.baseDomain
  environments : ∀ e ∈ r.environments,
    Hostname.Unbroken e.frontendPrefix ∧ Hostname.Unbroken e.apiPrefix
  slugs : ∀ a ∈ r.applications, Hostname.Unbroken a.slug
  hosts : ∀ h ∈ r.hosts, HostNameUnbroken h.subdomain h.customDomain

theorem unbroken_initial : initial.Unbroken where
  baseDomain := by simp [initial, Hostname.Unbroken]
  environments := by
    intro e he
    simp only [initial, Environment.initial, List.mem_cons, List.not_mem_nil, or_false] at he
    rcases he with rfl | rfl <;> simp [Hostname.Unbroken]
  slugs := by simp [initial]
  hosts := by simp [initial]

section Effect

variable {settings : Settings} {op : Operation} {r r' : Registry}

theorem nameUnbroken_subdomain (v : Json) (s : String) (hv : v.Unbroken)
    (h : Request.subdomain v = .ok s) : HostNameUnbroken (some s) none :=
  ⟨fun _ hs => Option.some.inj hs ▸ Request.unbroken_of_freeLabel hv h, fun _ hs => nomatch hs⟩

theorem nameUnbroken_customDomain (v : Json) (s : String) (hv : v.Unbroken)
    (h : Request.customDomain v = .ok s) : HostNameUnbroken none (some s) :=
  ⟨fun _ hs => (nomatch hs), fun _ hs => Option.some.inj hs ▸ Request.unbroken_of_customDomain hv h⟩

theorem Unbroken.updateHost (h : r.Unbroken) {id : String} {updates : Json} {a b : Host}
    (hupdates : Payload.Within Json.Unbroken updates) (hfound : r.host? id = some a)
    (hupdate : a.update updates = .ok b) :
    ({ r with hosts := replaceFirst (·.id == id) b r.hosts } : Registry).Unbroken :=
  { h with
    hosts := forall_replaceFirst h.hosts (Host.name_update nameUnbroken_subdomain
      nameUnbroken_customDomain hupdates (h.hosts a (List.mem_of_find?_eq_some hfound)) hupdate) }

theorem Unbroken.putEnvironment (h : r.Unbroken) (id : String) {e : Environment}
    (he : Hostname.Unbroken e.frontendPrefix ∧ Hostname.Unbroken e.apiPrefix) :
    (r.putEnvironment id e).Unbroken :=
  { h with environments := forall_replaceFirst h.environments he }

theorem Unbroken.clearDefaults (h : r.Unbroken) : r.clearDefaults.Unbroken :=
  { h with environments := List.forall_mem_map.mpr h.environments }

/-- No operation without line breaks in its payload puts one into a name. -/
theorem Unbroken.effect (hop : op.Unbroken) (heffect : op.Effect settings r r')
    (h : r.Unbroken) : r'.Unbroken := by
  have hlabels := fun v field allowEmpty labels (hv : v.Unbroken) =>
    @Request.unbroken_of_labels v field labels allowEmpty hv
  cases heffect with
  | setBaseDomain hdomain =>
      exact { h with baseDomain := Request.unbroken_of_baseDomain (hop.domain _ rfl) hdomain }
  | addHost hdraft =>
      have hname := Host.name_draft nameUnbroken_subdomain nameUnbroken_customDomain
        (hop.payload _ rfl).within hdraft
      exact { h with hosts := forall_append_singleton h.hosts hname }
  | updateHost hfound hupdate => exact h.updateHost (hop.payload _ rfl).within hfound hupdate
  | toggleHost hfound hupdate => exact h.updateHost (Payload.within_switch _) hfound hupdate
  | deleteHost => exact { h with hosts := fun b hb => h.hosts b (List.mem_of_mem_eraseP hb) }
  | addEnvironment hrequest =>
      have hparts := Environment.labels_requested (fun v => hlabels v _ _) (fun v => hlabels v _ _)
        (hop.payload _ rfl).within hrequest
      exact { h with environments := forall_append_singleton h.environments hparts }
  | updateEnvironment hfound hupdate =>
      exact h.putEnvironment _ (Environment.labels_update (fun v => hlabels v _ _)
        (fun v => hlabels v _ _) (hop.payload _ rfl).within
        (h.environments _ (List.mem_of_find?_eq_some hfound)) hupdate)
  | @markEnvironment id updates v e e' hfound hupdate =>
      have hparts := Environment.labels_update (fun v => hlabels v _ _) (fun v => hlabels v _ _)
        (hop.payload _ rfl).within (h.environments _ (List.mem_of_find?_eq_some hfound)) hupdate
      cases v.truthy with
      | false => exact h.putEnvironment id hparts
      | true => exact h.clearDefaults.putEnvironment id hparts
  | deleteEnvironment =>
      exact { h with environments := fun b hb => h.environments b (List.mem_of_mem_eraseP hb) }
  | addApplication hdraft =>
      obtain ⟨v, -, hv, hslug, -⟩ := Application.draft_eq_ok hdraft
      have hnew := Request.unbroken_of_freeLabel ((hop.payload _ rfl).within.field hv) hslug
      exact { h with slugs := forall_append_singleton h.slugs hnew }
  | @updateApplication id updates name slug enabled endpoints a b c hfound _ hslug _ _ hb hc =>
      have hkept := h.slugs a (List.mem_of_find?_eq_some hfound)
      have hnew : Hostname.Unbroken c.slug := by
        rw [(parts_rerouted hc).1, (parts_switched enabled b).1]
        rcases (parts_reslugged hb).1 with heq | hasked
        · rw [heq, (parts_renamed name a).1]
          exact hkept
        · exact Request.unbroken_of_freeLabel ((hop.payload _ rfl).within.field hslug) hasked
      exact { h with slugs := forall_replaceFirst h.slugs hnew }
  | toggleApplication hfound =>
      have hkept := h.slugs _ (List.mem_of_find?_eq_some hfound)
      exact { h with slugs := forall_replaceFirst h.slugs hkept }
  | deleteApplication =>
      exact { h with slugs := fun b hb => h.slugs b (List.mem_of_mem_eraseP hb) }
  | switchProvider => exact { h with }

end Effect

/-- Operations without line breaks in their payloads keep names without line breaks. -/
theorem preserves_unbroken (settings : Settings) {op : Operation} (hop : op.Unbroken) :
    op.Preserves settings Unbroken where
  effect := by
    intro r r' heffect h
    rw [refreshPatterns_eq]
    exact { h.effect hop heffect with }
  stored := by
    intro r h
    refine ⟨h.baseDomain, ?_, ?_, ?_⟩
    all_goals simp only [Store.advance, stored, List.forall_mem_map]
    · exact h.environments
    · exact h.slugs
    · exact h.hosts

section Names

variable {r : Registry} {settings : Settings}

/-- A slug and the slug of an API are a label together. -/
structure JoinFits (slug apiSlug : String) : Prop where
  length : slug.length + 1 + apiSlug.length ≤ Hostname.maxLabelLength
  last : apiSlug.toList.getLast? ≠ some '-'

/-- What makes the compiled names host names, and is asked for by no operation. -/
structure NamesFit (r : Registry) : Prop where
  baseDomain : r.baseDomain ≠ "" → Hostname.LastPartFits r.baseDomain
  ownDomains : ∀ h ∈ r.hosts, h.enabled = true → ∀ s, h.customDomain = some s →
    Hostname.LastPartFits s
  apis : r.baseDomain ≠ "" → ∀ app ∈ r.applications, app.enabled = true →
    ∀ e slug backend, (e, EndpointKind.api slug, backend) ∈ app.endpointsIn r.environments →
      slug ≠ "" → JoinFits app.slug slug

/-- Every part of a name follows its grammar and has no line break. -/
structure Spelled (r : Registry) : Prop where
  named : r.WellNamed
  unbroken : r.Unbroken

/-- A slug and the slug of an API are a host name by themselves exactly if they fit. -/
theorem isHostname_join_iff {s t : String} (hs : Hostname.isLabel s.toList = true) (hne : t ≠ "")
    (ht : ∀ c ∈ t.toList, Hostname.isLabelChar c = true) :
    Hostname.IsHostname (s ++ "-" ++ t) ↔ JoinFits s t := by
  have hlist : (s ++ "-" ++ t).toList = s.toList ++ '-' :: t.toList := by simp
  have hnil : t.toList ≠ [] := by simpa using hne
  have hpoint : '.' ∉ (s ++ "-" ++ t).toList := by
    have hsPoint : '.' ∉ s.toList :=
      fun hmem => absurd (Hostname.isLabelChar_of_isLabel hs _ hmem) (by decide)
    have htPoint : '.' ∉ t.toList := fun hmem => absurd (ht _ hmem) (by decide)
    simp [hsPoint, htPoint]
  rw [Hostname.isHostname_iff_isLabel hpoint, hlist, Hostname.isLabel_append_iff hs hnil ht]
  exact ⟨fun h => ⟨h.1, h.2⟩, fun h => ⟨h.length, h.last⟩⟩

namespace Spelled

theorem isLabel_slug (h : r.Spelled) {app : Application} (happ : app ∈ r.applications) :
    Hostname.isLabel app.slug.toList = true :=
  (h.unbroken.slugs app happ).isLabel (h.named.slugs app happ).label

/-- What stands below the base domain in the name of an endpoint is a host name exactly if it has no API
slug or one that fits. -/
theorem isHostname_stem_iff (h : r.Spelled) {app : Application} (happ : app ∈ r.applications)
    {e : Environment} {kind : EndpointKind} {backend : Backend}
    (hmem : (e, kind, backend) ∈ app.endpointsIn r.environments) :
    Hostname.IsHostname (app.stem kind e) ↔
      ∀ slug, kind = .api slug → slug ≠ "" → JoinFits app.slug slug := by
  obtain ⟨he, set, hset, hendpoint⟩ := Application.mem_endpointsIn.mp hmem
  have hslug := h.isLabel_slug happ
  have henvironment := h.named.environments e he
  obtain ⟨hfrontend, hapi⟩ := h.unbroken.environments e he
  have happI := hapi.isHostname henvironment.apiPrefix
  rcases EndpointSet.mem_endpoints.mp hendpoint with ⟨endpoint, -, rfl, -⟩ | ⟨api, hin, rfl, -⟩
  · simp only [reduceCtorEq, false_implies, implies_true, iff_true]
    rw [Application.stem]
    split
    · exact Hostname.isHostname_of_isLabel hslug
    next hprefix =>
      have hne : e.frontendPrefix ≠ "" := by simpa using hprefix
      exact (Hostname.isHostname_below _ _).mpr ⟨Hostname.isHostname_of_isLabel hslug,
        hfrontend.isHostname (henvironment.frontendPrefix.resolve_left hne)⟩
  · have hsets : (e.id, set) ∈ app.endpoints := by
      obtain ⟨before, after, heq, -⟩ := List.lookup_eq_some_iff.mp hset
      simp [heq]
    rw [Application.stem, Hostname.isHostname_below, and_iff_left happI]
    simp only [EndpointKind.api.injEq, forall_eq']
    split
    next hempty =>
      have hempty : api.slug = "" := by simpa using hempty
      simp [hempty, Hostname.isHostname_of_isLabel hslug]
    next hne =>
      have hne : api.slug ≠ "" := by simpa using hne
      rw [isHostname_join_iff hslug hne (h.named.sets app happ _ hsets api hin)]
      exact ⟨fun hfits _ => hfits, fun hfits => hfits hne⟩

theorem isHostname_base_iff (h : r.Spelled) (hbase : r.baseDomain ≠ "") :
    Hostname.IsHostname r.baseDomain ↔ Hostname.LastPartFits r.baseDomain :=
  h.unbroken.baseDomain.isHostname_iff (h.named.baseDomain.resolve_left hbase)

theorem isHostname_endpoint_iff (h : r.Spelled) (hbase : r.baseDomain ≠ "") {app : Application}
    (happ : app ∈ r.applications) {e : Environment} {kind : EndpointKind} {backend : Backend}
    (hmem : (e, kind, backend) ∈ app.endpointsIn r.environments) :
    Hostname.IsHostname (app.domain kind e r.baseDomain) ↔
      (∀ slug, kind = .api slug → slug ≠ "" → JoinFits app.slug slug) ∧
        Hostname.LastPartFits r.baseDomain := by
  have hname := (h.named.isStem_endpoint happ hmem).name
  rw [app.domain_eq_stem, lower_below hname (h.named.baseDomain.resolve_left hbase),
    Hostname.isHostname_below, h.isHostname_stem_iff happ hmem, h.isHostname_base_iff hbase]

theorem isHostname_own_iff (h : r.Spelled) {host : Host} (hmem : host ∈ r.hosts) {s : String}
    (hown : host.customDomain = some s) :
    Hostname.IsHostname (host.domain r.baseDomain) ↔ Hostname.LastPartFits s := by
  have hdomain := (hown ▸ h.named.hosts host hmem : HostName _ (some s)).isDomainText
  have hcustom : isGiven host.customDomain = true := by
    rw [hown]
    simp [isGiven, Hostname.ne_empty_of_isDomainText hdomain]
  rw [host.domain_of_own hcustom, hown, partText,
    Hostname.lower_of_isName (Hostname.isName_of_isDomainText hdomain)]
  exact ((h.unbroken.hosts host hmem).2 s hown).isHostname_iff hdomain

/-- The name of a host below the base domain is a host name if the base domain is. -/
theorem isHostname_host (h : r.Spelled) (hbase : r.baseDomain ≠ "")
    (hfits : Hostname.LastPartFits r.baseDomain) {host : Host} (hmem : host ∈ r.hosts)
    (hcustom : isGiven host.customDomain = false) :
    Hostname.IsHostname (host.domain r.baseDomain) := by
  obtain ⟨s, hsubdomain, hfree⟩ := (h.named.hosts host hmem).label hcustom
  have hunbroken := (h.unbroken.hosts host hmem).1 s hsubdomain
  have hstem : host.stem = s := by rw [Host.stem, hsubdomain, partText]
  have hname := (h.named.isStem_host hmem hcustom).name
  rw [Host.domain_eq_stem hcustom, lower_below hname (h.named.baseDomain.resolve_left hbase),
    Hostname.isHostname_below, hstem]
  exact ⟨Hostname.isHostname_of_isLabel (hunbroken.isLabel hfree.label),
    (h.isHostname_base_iff hbase).mpr hfits⟩

theorem isHostname_system (h : r.Spelled) (hbase : r.baseDomain ≠ "")
    (hfits : Hostname.LastPartFits r.baseDomain) {rule domain : String}
    (hmem : (rule, domain) ∈ systemDomains r.baseDomain) : Hostname.IsHostname domain := by
  have hempty : r.baseDomain.isEmpty = false := by simpa using hbase
  have hname := (h.isHostname_base_iff hbase).mpr hfits
  have hlabels : Hostname.IsHostname "proxy" ∧ Hostname.IsHostname "auth" := by decide
  simp only [systemDomains, hempty, Bool.false_eq_true, ↓reduceIte, List.mem_cons, Prod.mk.injEq,
    List.not_mem_nil, or_false] at hmem
  rcases hmem with ⟨-, rfl⟩ | ⟨-, rfl⟩
  · exact (Hostname.isHostname_below "proxy" _).mpr ⟨hlabels.1, hname⟩
  · exact (Hostname.isHostname_below "auth" _).mpr ⟨hlabels.2, hname⟩

/-- The names of all targets. -/
theorem isHostname_of_namesFit (h : r.Spelled) (hfits : r.NamesFit) {route : Route}
    (hroute : route ∈ (r.compile settings).routes) : Hostname.IsHostname route.domain := by
  have hroutes : route ∈ Route.systemRoutes settings r.baseDomain ++
      r.targets.map (Route.ofTarget settings r.baseDomain) := hroute
  rcases List.mem_append.mp hroutes with hsystem | htarget
  · obtain ⟨⟨rule, domain⟩, hmem, rfl⟩ := List.mem_map.mp hsystem
    have hbase : r.baseDomain ≠ "" := by
      intro hempty
      rw [hempty] at hmem
      cases hmem
    exact h.isHostname_system hbase (hfits.baseDomain hbase) hmem
  · obtain ⟨t, ht, rfl⟩ := List.mem_map.mp htarget
    rcases mem_targets.mp ht with ⟨hbase, app, happ, henabled, e, kind, backend, hmem, rfl⟩ |
      ⟨host, hhost, henabled, hnamed, rfl⟩
    · refine (h.isHostname_endpoint_iff hbase happ hmem).mpr ⟨?_, hfits.baseDomain hbase⟩
      rintro slug rfl hne
      exact hfits.apis hbase app happ henabled e slug backend hmem hne
    · cases hcustom : isGiven host.customDomain with
      | true =>
          obtain ⟨s, hown, -⟩ := (h.named.hosts host hhost).ownDomain hcustom
          exact (h.isHostname_own_iff hhost hown).mpr (hfits.ownDomains host hhost henabled s hown)
      | false =>
          have hbase : r.baseDomain ≠ "" := by simpa [Host.isNamed, hcustom] using hnamed
          exact h.isHostname_host hbase (hfits.baseDomain hbase) hhost hcustom

theorem namesFit_of_isHostname (h : r.Spelled)
    (hall : ∀ route ∈ (r.compile settings).routes, Hostname.IsHostname route.domain) :
    r.NamesFit := by
  have htargets : ∀ t ∈ r.targets, Hostname.IsHostname t.domain := fun t ht =>
    hall (Route.ofTarget settings r.baseDomain t)
      (List.mem_append_right _ (List.mem_map_of_mem ht))
  refine ⟨fun hbase => ?_, fun host hhost henabled s hown => ?_, ?_⟩
  · have hempty : r.baseDomain.isEmpty = false := by simpa using hbase
    have hsystem : (dashboardRule, "proxy." ++ r.baseDomain) ∈ systemDomains r.baseDomain := by
      simp [systemDomains, hempty]
    have hname := hall _ (List.mem_append_left _ (List.mem_map_of_mem hsystem))
    exact (h.isHostname_base_iff hbase).mp ((Hostname.isHostname_below "proxy" _).mp hname).2
  · have hgiven : isGiven host.customDomain = true := by
      have hdomain := (hown ▸ h.named.hosts host hhost : HostName _ (some s)).isDomainText
      rw [hown]
      simp [isGiven, Hostname.ne_empty_of_isDomainText hdomain]
    have hnamed : host.isNamed r.baseDomain = true := by simp [Host.isNamed, hgiven]
    exact (h.isHostname_own_iff hhost hown).mp
      (htargets _ (mem_targets.mpr (.inr ⟨host, hhost, henabled, hnamed, rfl⟩)))
  · intro hbase app happ henabled e slug backend hmem hne
    have hname := htargets _
      (mem_targets.mpr (.inl ⟨hbase, app, happ, henabled, e, _, backend, hmem, rfl⟩))
    exact ((h.isHostname_endpoint_iff hbase happ hmem).mp hname).1 slug rfl hne

end Spelled

end Names

end Registry

namespace World

/-- Wherever operations lead whose payloads have no line breaks, the compiled names are host names exactly if
the last parts of the base domain and of the domains of hosts are not too long, and the slugs of an application
and of its API make a label together. -/
theorem compiled_names_are_host_names_iff {path : Path} {w : World}
    (hreach : ReachableBy Operation.Unbroken path w) (settings : Settings) :
    ∃ r : Registry, (∀ supply, Store.load supply w.files path = (.ok r, supply)) ∧
      ((∀ route ∈ (r.compile settings).routes, Hostname.IsHostname route.domain) ↔ r.NamesFit) := by
  let there : Settings := { Settings.standard with registryPath := path }
  have hspelled : w.Holds there Registry.Spelled := by
    refine hreach.holds (fun settings op hop => ?_)
      ⟨Registry.wellNamed_initial, Registry.unbroken_initial⟩ rfl
    have hnamed := (Registry.stable_wellNamed settings).preserves op
    have hunbroken := Registry.preserves_unbroken settings hop
    exact ⟨fun heffect h => ⟨hnamed.effect heffect h.named, hunbroken.effect heffect h.unbroken⟩,
      fun h => ⟨hnamed.stored h.named, hunbroken.stored h.unbroken⟩⟩
  obtain ⟨r, hready, hr⟩ := hspelled
  exact ⟨r, hready.load, hr.namesFit_of_isHostname, fun hfits _ => hr.isHostname_of_namesFit hfits⟩

/-- The base domain is set, and an application is added whose API has a slug that ends in a hyphen. -/
def hyphened : List (Surroundings × Operation) :=
  [(offline, .setBaseDomain (.str "example.org")),
    (offline, .addApplication (.obj [("name", .str "Shop"), ("slug", .str "shop"),
      ("endpoints", .obj [("prod", Clash.apiPayload "v1-")])]))]

/-- The application that is added. -/
def hyphenedShop : Application :=
  ⟨(Clash.supply 0).name 0, "Shop", "shop", true, (Clash.supply 0).timestamp,
    [("prod", Clash.endpoints "v1-")], []⟩

theorem shelved_hyphened :
    Clash.Shelved (Clash.registry 2 [] [hyphenedShop]) 1
      (Clash.start.history Clash.settings hyphened) := by
  have hrequest : Application.draft (.obj [("name", .str "Shop"), ("slug", .str "shop"),
      ("endpoints", .obj [("prod", Clash.apiPayload "v1-")])]) =
      .ok ⟨.str "Shop", "shop", [("prod", Clash.apiPayload "v1-")]⟩ := rfl
  have hedits := @Operation.Edits.addApplication Clash.settings (Clash.supply 0) _ _ hrequest
  have hvalid : (Clash.registry 1 [] [hyphenedShop]).Valid :=
    ⟨by decide, by decide, by decide, by simp [Clash.registry, hyphenedShop], by decide⟩
  rw [hyphened, history_cons, history_cons, history_nil]
  exact (Clash.shelved_domain Clash.shelved_start).changes (by decide) hedits rfl rfl hvalid

theorem reachable_hyphened :
    ReachableBy Operation.Unbroken Clash.shelf (Clash.start.history Clash.settings hyphened) := by
  have hdomain : (Operation.setBaseDomain (.str "example.org")).Unbroken := by
    refine ⟨fun value hvalue s hs => ?_, fun data hdata => nomatch hdata⟩
    cases hvalue
    cases hs
    decide
  have hshop : (Operation.addApplication (.obj [("name", .str "Shop"), ("slug", .str "shop"),
      ("endpoints", .obj [("prod", Clash.apiPayload "v1-")])])).Unbroken := by
    refine ⟨fun value hvalue => (nomatch hvalue), fun data hdata fields hfields p hp s hs => ?_⟩
    cases hdata
    cases hfields
    simp only [List.mem_cons, List.not_mem_nil, or_false] at hp
    rcases hp with rfl | rfl | rfl
    · cases hs
      decide
    · cases hs
      decide
    · cases hs
  have hstart : ReachableBy Operation.Unbroken Clash.shelf Clash.start := .start rfl
  rw [hyphened, history_cons, history_cons, history_nil]
  exact (hstart.step rfl offline hdomain).step rfl offline hshop

/-- With the slug that ends in a hyphen, the names do not fit. -/
theorem compiled_names_are_host_names_iff_hyphened :
    ReachableBy Operation.Unbroken Clash.shelf (Clash.start.history Clash.settings hyphened) ∧
      ∃ r : Registry, (∀ supply, Store.load supply
          (Clash.start.history Clash.settings hyphened).files Clash.shelf = (.ok r, supply)) ∧
        ((∀ route ∈ (r.compile Clash.settings).routes, Hostname.IsHostname route.domain) ↔
          r.NamesFit) :=
  ⟨reachable_hyphened, compiled_names_are_host_names_iff reachable_hyphened Clash.settings⟩

/-- A label of a compiled name ends in a hyphen, although no request has a line break. -/
theorem compiled_label_ends_in_hyphen :
    ReachableBy Operation.Unbroken Clash.shelf (Clash.start.history Clash.settings hyphened) ∧
      ∃ r : Registry, (∀ supply, Store.load supply
          (Clash.start.history Clash.settings hyphened).files Clash.shelf = (.ok r, supply)) ∧
        "shop-v1-.api.example.org" ∈ (r.compile Clash.settings).routes.map (·.domain) ∧
        ¬ Hostname.IsHostname "shop-v1-.api.example.org" := by
  refine ⟨reachable_hyphened, _, shelved_hyphened.ready.load, ?_, by decide⟩
  have hdomains : ((Clash.registry 2 [] [hyphenedShop]).compile Clash.settings).routes.map
      (·.domain) = ["proxy.example.org", "auth.example.org", "shop-v1-.api.example.org"] := rfl
  rw [hdomains]
  decide

end World

end EdgeProxy
