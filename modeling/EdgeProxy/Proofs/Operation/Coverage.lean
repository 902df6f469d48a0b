import EdgeProxy.Proofs.Operation.Names
import EdgeProxy.Proofs.Operation.Patterns
import EdgeProxy.Proofs.Registry.Targets
/-!
Wildcard certificates cover every name below the base domain.  A wildcard stands for one label; the
patterns are derived from the base domain and the labels of the environments, the names from these and from
slugs and subdomains, and each slug and subdomain is one label.
-/

namespace EdgeProxy

/-- A name that one of the subjects covers: a label below what follows the wildcard. -/
def CoveredBy (subjects : List String) (domain : String) : Prop :=
  ∃ label rest : String, domain = label ++ "." ++ rest ∧ label ≠ "" ∧ '.' ∉ label.toList ∧
    "*." ++ rest ∈ subjects

namespace Registry

variable {r : Registry} {settings : Settings}

/-- The routes that are named below the base domain: the system routes, the endpoints of applications, and
the hosts without a domain of their own. -/
inductive BelowBase (r : Registry) (settings : Settings) : Route → Prop where
  | system {route : Route} (h : route ∈ Route.systemRoutes settings r.baseDomain) :
      BelowBase r settings route
  | endpoint {app : Application} (happ : app ∈ r.applications) {e : Environment} {kind : EndpointKind}
      {backend : Backend} (h : (e, kind, backend) ∈ app.endpointsIn r.environments) :
      BelowBase r settings
        (Route.ofTarget settings r.baseDomain (app.target r.baseDomain e kind backend))
  | host {h : Host} (hmem : h ∈ r.hosts) (hcustom : isGiven h.customDomain = false) :
      BelowBase r settings (Route.ofTarget settings r.baseDomain (h.target r.baseDomain))

/-- Every compiled route is named below the base domain or by the domain of a host. -/
theorem routes_cases {route : Route} (h : route ∈ (r.compile settings).routes) :
    r.BelowBase settings route ∨ ∃ h ∈ r.hosts, isGiven h.customDomain = true ∧
      route = Route.ofTarget settings r.baseDomain (h.target r.baseDomain) := by
  have hroutes : route ∈ Route.systemRoutes settings r.baseDomain ++
      r.targets.map (Route.ofTarget settings r.baseDomain) := h
  rcases List.mem_append.mp hroutes with hsystem | htarget
  · exact .inl (.system hsystem)
  · obtain ⟨t, ht, rfl⟩ := List.mem_map.mp htarget
    rcases mem_targets.mp ht with ⟨-, app, happ, -, e, kind, backend, hmem, rfl⟩ |
      ⟨host, hhost, -, -, rfl⟩
    · exact .inl (.endpoint happ hmem)
    · cases hcustom : isGiven host.customDomain with
      | false => exact .inl (.host hhost hcustom)
      | true => exact .inr ⟨host, hhost, hcustom, rfl⟩

section Covered

/-- What a first label of a name is like. -/
structure IsFirstLabel (label : String) : Prop where
  nonempty : label ≠ ""
  point : '.' ∉ label.toList
  name : Hostname.IsName label

theorem isFirstLabel_of_isLabelText {s : String} (h : Hostname.isLabelText s = true) :
    IsFirstLabel s :=
  ⟨Hostname.ne_empty_of_isLabelText h, Hostname.point_not_mem_of_isLabelText h,
    Hostname.isName_of_isLabelText h⟩

/-- A slug and the slug of an API make one label. -/
theorem isFirstLabel_append {s slug : String} (h : IsFirstLabel s)
    (hslug : ∀ c ∈ slug.toList, Hostname.isLabelChar c = true) :
    IsFirstLabel (s ++ "-" ++ slug) := by
  have hhyphen : Hostname.IsName "-" := by
    simp [Hostname.IsName, Hostname.isNameChar, Hostname.isLabelChar]
  have hname : Hostname.IsName slug := fun c hc => by simp [Hostname.isNameChar, hslug c hc]
  refine ⟨by simp, ?_, Hostname.isName_append (Hostname.isName_append h.name hhyphen) hname⟩
  have hslugPoint : '.' ∉ slug.toList := fun hmem => absurd (hslug '.' hmem) (by decide)
  simp [h.point, hslugPoint]

variable (hbase : r.baseDomain ≠ "")

include hbase

theorem covered_base {label : String} (h : IsFirstLabel label) :
    CoveredBy r.wildcardPatterns (label ++ "." ++ r.baseDomain) :=
  ⟨label, r.baseDomain, rfl, h.nonempty, h.point, mem_wildcardPatterns.mpr ⟨hbase, .inl rfl⟩⟩

theorem covered_labels {label labels : String} (h : IsFirstLabel label) {e : Environment}
    (he : e ∈ r.environments) (hmem : labels ∈ [e.frontendPrefix, e.apiPrefix])
    (hlabels : labels ≠ "") :
    CoveredBy r.wildcardPatterns (label ++ "." ++ labels ++ "." ++ r.baseDomain) := by
  refine ⟨label, labels ++ "." ++ r.baseDomain, ?_, h.nonempty, h.point,
    mem_wildcardPatterns.mpr ⟨hbase, .inr ⟨e, he, labels, hmem, hlabels, ?_⟩⟩⟩
  · simp [String.append_assoc]
  · simp [wildcardBelow, String.append_assoc]

theorem covered_system {rule domain : String} (h : (rule, domain) ∈ systemDomains r.baseDomain) :
    CoveredBy r.wildcardPatterns domain := by
  have hempty : r.baseDomain.isEmpty = false := by simpa using hbase
  simp only [systemDomains, hempty, Bool.false_eq_true, ↓reduceIte, List.mem_cons, Prod.mk.injEq,
    List.not_mem_nil, or_false] at h
  have hproxy : IsFirstLabel "proxy" := isFirstLabel_of_isLabelText (by decide)
  have hauth : IsFirstLabel "auth" := isFirstLabel_of_isLabelText (by decide)
  rcases h with ⟨-, rfl⟩ | ⟨-, rfl⟩
  · exact covered_base hbase hproxy
  · exact covered_base hbase hauth

variable (hnamed : r.WellNamed)

include hnamed

theorem isName_baseDomain : Hostname.IsName r.baseDomain :=
  Hostname.isName_of_isDomainText (hnamed.baseDomain.resolve_left hbase)

/-- The lower-case form of a name below the base domain. -/
theorem covered_lower_base {label : String} (h : IsFirstLabel label) :
    CoveredBy r.wildcardPatterns (Text.lower (label ++ "." ++ r.baseDomain)) := by
  rw [Hostname.lower_of_isName (Hostname.isName_below h.name (isName_baseDomain hbase hnamed))]
  exact covered_base hbase h

/-- The lower-case form of a name below the labels of an environment. -/
theorem covered_lower_labels {label labels : String} (h : IsFirstLabel label) {e : Environment}
    (he : e ∈ r.environments) (hmem : labels ∈ [e.frontendPrefix, e.apiPrefix])
    (hlabels : Hostname.isLabelsText labels = true) :
    CoveredBy r.wildcardPatterns (Text.lower (label ++ "." ++ labels ++ "." ++ r.baseDomain)) := by
  have hfront := Hostname.isName_below h.name (Hostname.isName_of_isLabelsText hlabels)
  rw [Hostname.lower_of_isName (Hostname.isName_below hfront (isName_baseDomain hbase hnamed))]
  exact covered_labels hbase h he hmem (Hostname.ne_empty_of_isLabelsText hlabels)

theorem covered_host {h : Host} (hmem : h ∈ r.hosts) (hcustom : isGiven h.customDomain = false) :
    CoveredBy r.wildcardPatterns (h.domain r.baseDomain) := by
  obtain ⟨s, hsubdomain, hfree⟩ := (hnamed.hosts h hmem).label hcustom
  rw [Host.domain, hcustom, if_neg Bool.false_ne_true, hsubdomain, partText]
  exact covered_lower_base hbase hnamed (isFirstLabel_of_isLabelText hfree.label)

theorem covered_endpoint {app : Application} (happ : app ∈ r.applications) {e : Environment}
    {kind : EndpointKind} {backend : Backend}
    (hmem : (e, kind, backend) ∈ app.endpointsIn r.environments) :
    CoveredBy r.wildcardPatterns (app.domain kind e r.baseDomain) := by
  obtain ⟨he, set, hset, hendpoint⟩ := Application.mem_endpointsIn.mp hmem
  have hslug := isFirstLabel_of_isLabelText (hnamed.slugs app happ).label
  have henvironment := hnamed.environments e he
  rcases EndpointSet.mem_endpoints.mp hendpoint with ⟨endpoint, -, rfl, -⟩ | ⟨api, hapi, rfl, -⟩
  · rw [Application.domain]
    cases hprefix : e.frontendPrefix.isEmpty with
    | true =>
        rw [if_pos rfl]
        exact covered_lower_base hbase hnamed hslug
    | false =>
        have hne : e.frontendPrefix ≠ "" := by simpa using hprefix
        rw [if_neg Bool.false_ne_true]
        exact covered_lower_labels hbase hnamed hslug he List.mem_cons_self
          (henvironment.frontendPrefix.resolve_left hne)
  · have hset' : (e.id, set) ∈ app.endpoints := by
      obtain ⟨before, after, heq, -⟩ := List.lookup_eq_some_iff.mp hset
      simp [heq]
    have hin : e.apiPrefix ∈ [e.frontendPrefix, e.apiPrefix] := by simp
    rw [Application.domain]
    split
    · exact covered_lower_labels hbase hnamed hslug he hin henvironment.apiPrefix
    · have hboth := isFirstLabel_append hslug (hnamed.sets app happ _ hset' api hapi)
      exact covered_lower_labels hbase hnamed hboth he hin henvironment.apiPrefix

/-- Every name below the base domain is covered by the patterns of the registry. -/
theorem covered_of_belowBase {route : Route} (h : r.BelowBase settings route) :
    CoveredBy r.wildcardPatterns route.domain := by
  cases h with
  | system h =>
      obtain ⟨⟨rule, domain⟩, hmem, rfl⟩ := List.mem_map.mp h
      exact covered_system hbase hmem
  | endpoint happ h => exact covered_endpoint hbase hnamed happ h
  | host hmem hcustom => exact covered_host hbase hnamed hmem hcustom

end Covered

end Registry

namespace World

theorem Reachable.history {settings : Settings} {w : World}
    (h : Reachable settings.registryPath w) (steps : List (Surroundings × Operation)) :
    Reachable settings.registryPath (w.history settings steps) := by
  induction steps generalizing w with
  | nil => exact h
  | cons step rest ih => exact ih (h.step rfl step.1 step.2)

/-- Wherever operations lead, under any settings: if the compiled configuration asks for wildcard
certificates, they cover every route that is named below the base domain, and no other routes are compiled
but those of hosts with a domain of their own. -/
theorem wildcards_cover_names_below_base {path : Path} {w : World} (hreach : Reachable path w)
    (settings : Settings) :
    ∃ r : Registry, (∀ supply, Store.load supply w.files path = (.ok r, supply)) ∧
      ((r.compile settings).tls.isWildcard = true →
        (∀ route, r.BelowBase settings route →
          CoveredBy (r.compile settings).tls.subjects route.domain) ∧
        ∀ route ∈ (r.compile settings).routes, r.BelowBase settings route ∨
          ∃ h ∈ r.hosts, isGiven h.customDomain = true ∧
            route = Route.ofTarget settings r.baseDomain (h.target r.baseDomain)) := by
  have hstable (settings : Settings) := (Registry.stable_patternsCurrent settings).and
    (Registry.stable_wellNamed settings)
  obtain ⟨r, hload, hcurrent, hnamed⟩ :=
    hreach.holds hstable ⟨Registry.patternsCurrent_initial, Registry.wellNamed_initial⟩
  refine ⟨r, hload, fun hwildcard => ⟨fun route hroute => ?_, fun route => Registry.routes_cases⟩⟩
  obtain ⟨hon, hpolicy⟩ := hcurrent.tls settings
  rw [hpolicy hwildcard]
  exact Registry.covered_of_belowBase (hcurrent.base (hon.mp hwildcard).1) hnamed hroute

/-- After the provider is switched on, wildcard certificates are asked for and cover the dashboard. -/
theorem wildcards_cover_names_switched_on :
    Reachable Clash.shelf (empty.history tokenSettings switchedOn) ∧
      ∃ r : Registry, (∀ supply, Store.load supply (empty.history tokenSettings switchedOn).files
          Clash.shelf = (.ok r, supply)) ∧
        (r.compile tokenSettings).tls.isWildcard = true ∧
        CoveredBy (r.compile tokenSettings).tls.subjects "proxy.example.org" := by
  have hstart : Reachable tokenSettings.registryPath empty := .start rfl
  have hreach : Reachable Clash.shelf (empty.history tokenSettings switchedOn) := hstart.history _
  obtain ⟨r, hload, hcovers⟩ := wildcards_cover_names_below_base hreach tokenSettings
  have heq : r = providerOn 2 := by
    have hboth := (hload empty.supply).symm.trans (onShelf_switchedOn.ready.load empty.supply)
    cases hboth
    rfl
  subst heq
  have hpatterns : (Clash.registry 1 [] []).wildcardPatterns = (providerOn 2).wildcardPatterns :=
    Registry.wildcardPatterns_congr rfl rfl
  have hcurrent : (providerOn 2).PatternsCurrent := ⟨hpatterns, fun _ => by decide⟩
  have hwildcard : ((providerOn 2).compile tokenSettings).tls.isWildcard = true :=
    (hcurrent.tls tokenSettings).1.mpr ⟨rfl, by decide⟩
  have hdashboard :
      (dashboardRule, "proxy.example.org") ∈ systemDomains (providerOn 2).baseDomain := by decide
  exact ⟨hreach, _, hload, hwildcard,
    (hcovers hwildcard).1 _ (.system (List.mem_map.mpr ⟨_, hdashboard, rfl⟩))⟩

end World

end EdgeProxy
