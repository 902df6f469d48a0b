import EdgeProxy.Proofs.Registry.Validity
import EdgeProxy.Proofs.Route.Places
/-!
The report of violations and the documented data model.  A registry without violations is one in which the
environments, the names of the hosts and the names of all places are as documented, and the applications are
told apart by their slugs.  The report does not look at the identifiers of applications and hosts, which the
data model also asks to be unique.
-/

namespace EdgeProxy

namespace Registry

variable {r : Registry}

/-- The names that the places of a registry claim.  The system and the endpoints have names only while the base
domain is set, and so have hosts without a domain of their own; being switched off makes no difference. -/
inductive Claims (r : Registry) : Place → String → Prop where
  | dashboard (hbase : r.baseDomain ≠ "") : Claims r .dashboard ("proxy." ++ r.baseDomain)
  | portal (hbase : r.baseDomain ≠ "") : Claims r .portal ("auth." ++ r.baseDomain)
  | frontend {i : Nat} {app : Application} {e : Environment} {set : EndpointSet} {endpoint : Endpoint}
      (hbase : r.baseDomain ≠ "") (happ : r.applications[i]? = some app) (he : e ∈ r.environments)
      (hset : app.endpointSet? e.id = some set) (hfrontend : set.frontend = some endpoint) :
      Claims r (.frontend i e.id) (app.domain .frontend e r.baseDomain)
  | api {i k : Nat} {app : Application} {e : Environment} {set : EndpointSet} {api : Api}
      (hbase : r.baseDomain ≠ "") (happ : r.applications[i]? = some app) (he : e ∈ r.environments)
      (hset : app.endpointSet? e.id = some set) (hapi : set.apis[k]? = some api) :
      Claims r (.api i e.id k) (app.domain (.api api.slug) e r.baseDomain)
  | host {i : Nat} {h : Host} (hhost : r.hosts[i]? = some h)
      (hname : isGiven h.customDomain = true ∨ r.baseDomain ≠ "") :
      Claims r (.host i) (h.domain r.baseDomain)

/-- What the report of violations checks. -/
structure Consistent (r : Registry) : Prop where
  environments : (r.environments.map (·.id)).Nodup
  defaults : (r.environments.filter (·.isDefault)).length ≤ 1
  slugs : (r.applications.map (·.slug)).Nodup
  /-- Every host has a subdomain or a domain of its own, and not both. -/
  hosts : ∀ h ∈ r.hosts, Xor (∃ s, h.subdomain = some s ∧ s ≠ "") (∃ s, h.customDomain = some s ∧ s ≠ "")
  /-- No two places have names that are equal ignoring case. -/
  names : ∀ {p q : Place} {name name' : String}, r.Claims p name → r.Claims q name' →
    Text.lower name = Text.lower name' → p = q

/-- What the data model asks of a registry. -/
structure Documented (r : Registry) : Prop extends Consistent r where
  applicationIds : (r.applications.map (·.id)).Nodup
  hostIds : (r.hosts.map (·.id)).Nodup

/-- The places of the system with their names. -/
def systemNames (r : Registry) : List (Place × String) :=
  if r.baseDomain.isEmpty then []
  else [(.dashboard, "proxy." ++ r.baseDomain), (.portal, "auth." ++ r.baseDomain)]

/-- The applications whose endpoints have names, with their positions. -/
def namedApplications (r : Registry) : List (Application × Nat) :=
  if r.baseDomain.isEmpty then [] else r.applications.zipIdx

/-- The hosts that have names, with their positions. -/
def namedHosts (r : Registry) : List (Host × Nat) := r.hosts.zipIdx.filter (·.1.isNamed r.baseDomain)

/-- The places that claim names, in order, with their names. -/
def claimed (r : Registry) : List (Place × String) :=
  r.systemNames ++
    (r.placedOf r.namedApplications ++ r.hostsAt r.namedHosts).map fun x => (x.1, x.2.domain)

theorem namedApplications_sublist (r : Registry) : r.namedApplications.Sublist r.applications.zipIdx := by
  rw [namedApplications]
  split
  · exact List.nil_sublist _
  · exact List.Sublist.refl _

theorem mem_namedApplications {app : Application} {i : Nat} :
    (app, i) ∈ r.namedApplications ↔ r.baseDomain ≠ "" ∧ r.applications[i]? = some app := by
  rw [namedApplications]
  by_cases hbase : r.baseDomain = ""
  · simp [hbase]
  · rw [if_neg (by simpa using hbase), List.mk_mem_zipIdx_iff_getElem?]
    exact (and_iff_right hbase).symm

/-- No place is listed twice. -/
theorem nodup_places_claimed (hids : (r.environments.map (·.id)).Nodup) : (r.claimed.map Prod.fst).Nodup := by
  have hplaces : r.claimed.map Prod.fst =
      r.systemPlaces ++ (r.placedOf r.namedApplications ++ r.hostsAt r.namedHosts).map Prod.fst := by
    rw [claimed, List.map_append, List.map_map, systemNames, systemPlaces]
    split <;> rfl
  rw [hplaces]
  refine (pairwise_systemPlaces_append hids r.namedApplications_sublist List.filter_sublist).imp ?_
  rintro p q hlt rfl
  exact lt_irrefl _ hlt

/-- All targets, each with its place. -/
theorem allTargets_eq_placed (r : Registry) :
    r.allTargets = (r.placedOf r.namedApplications ++ r.hostsAt r.namedHosts).map Prod.snd := by
  rw [List.map_append, map_snd_placedOf, map_snd_hostsAt, namedHosts,
    map_fst_filter_zipIdx (fun h : Host => h.isNamed r.baseDomain), allTargets, namedApplications]
  split
  · rfl
  · rw [List.zipIdx_map_fst]

/-- The names of the places are the claimed ones. -/
theorem map_lower_claimed (r : Registry) :
    r.claimed.map (fun x => Text.lower x.2) = r.claims.map Prod.fst := by
  rw [claimed, claims, allTargets_eq_placed, systemNames, systemDomains]
  simp only [List.map_append, List.map_map]
  congr 1
  split <;> rfl

theorem mem_systemNames {p : Place} {name : String} :
    (p, name) ∈ r.systemNames ↔ r.baseDomain ≠ "" ∧
      (p = .dashboard ∧ name = "proxy." ++ r.baseDomain ∨ p = .portal ∧ name = "auth." ++ r.baseDomain) := by
  rw [systemNames]
  by_cases hbase : r.baseDomain = ""
  · simp [hbase]
  · rw [if_neg (by simpa using hbase)]
    simp [hbase]

theorem claims_of_mem_placedOf {x : Place × Target} (h : x ∈ r.placedOf r.namedApplications) :
    r.Claims x.1 x.2.domain := by
  obtain ⟨app, i, happ, e, he, hx⟩ := mem_placedOf.mp h
  obtain ⟨hbase, happ⟩ := mem_namedApplications.mp happ
  obtain ⟨set, hset, ⟨f, hf, rfl⟩ | ⟨a, k, ha, rfl⟩⟩ := Application.mem_placed.mp hx
  · exact .frontend hbase happ he hset hf
  · exact .api hbase happ he hset ha

theorem claims_of_mem_hostsAt {x : Place × Target} (h : x ∈ r.hostsAt r.namedHosts) :
    r.Claims x.1 x.2.domain := by
  obtain ⟨⟨host, i⟩, hmem, rfl⟩ := List.mem_map.mp h
  obtain ⟨hhost, hnamed⟩ := (mem_filter_zipIdx (p := fun h : Host => h.isNamed r.baseDomain)).mp hmem
  exact .host hhost (isNamed_iff.mp hnamed)

/-- The places that claim names are listed with them. -/
theorem mem_claimed {p : Place} {name : String} : (p, name) ∈ r.claimed ↔ r.Claims p name := by
  rw [claimed, List.mem_append, mem_systemNames, List.mem_map]
  constructor
  · rintro (⟨hbase, ⟨rfl, rfl⟩ | ⟨rfl, rfl⟩⟩ | ⟨x, hx, heq⟩)
    · exact .dashboard hbase
    · exact .portal hbase
    · cases heq
      exact (List.mem_append.mp hx).elim claims_of_mem_placedOf claims_of_mem_hostsAt
  · intro h
    cases h with
    | dashboard hbase => exact .inl ⟨hbase, .inl ⟨rfl, rfl⟩⟩
    | portal hbase => exact .inl ⟨hbase, .inr ⟨rfl, rfl⟩⟩
    | @frontend i app e set f hbase happ he hset hf =>
        have hplaced : (Place.frontend i e.id, app.target r.baseDomain e .frontend f.toBackend) ∈
            app.placed i r.baseDomain e := Application.mem_placed.mpr ⟨set, hset, .inl ⟨f, hf, rfl⟩⟩
        have hmem := mem_placedOf.mpr ⟨app, i, mem_namedApplications.mpr ⟨hbase, happ⟩, e, he, hplaced⟩
        exact .inr ⟨_, List.mem_append_left _ hmem, rfl⟩
    | @api i k app e set a hbase happ he hset ha =>
        have hplaced : (Place.api i e.id k, app.target r.baseDomain e (.api a.slug) a.toBackend) ∈
            app.placed i r.baseDomain e := Application.mem_placed.mpr ⟨set, hset, .inr ⟨a, k, ha, rfl⟩⟩
        have hmem := mem_placedOf.mpr ⟨app, i, mem_namedApplications.mpr ⟨hbase, happ⟩, e, he, hplaced⟩
        exact .inr ⟨_, List.mem_append_left _ hmem, rfl⟩
    | @host i host hhost hname =>
        have hnamed := (mem_filter_zipIdx (p := fun h : Host => h.isNamed r.baseDomain)).mpr
          ⟨hhost, isNamed_iff.mpr hname⟩
        exact .inr ⟨_, List.mem_append_right _ (List.mem_map.mpr ⟨_, hnamed, rfl⟩), rfl⟩

/-- The claimed names are distinct exactly if no two places have names that are equal ignoring case. -/
theorem nodup_claims_iff (hids : (r.environments.map (·.id)).Nodup) :
    (r.claims.map Prod.fst).Nodup ↔
      ∀ {p q : Place} {name name' : String}, r.Claims p name → r.Claims q name' →
        Text.lower name = Text.lower name' → p = q := by
  have hplaces := nodup_places_claimed hids
  rw [← map_lower_claimed, List.nodup_map_iff_inj_on hplaces.of_map]
  constructor
  · intro hinjective p q name name' hp hq heq
    exact congrArg Prod.fst (hinjective _ (mem_claimed.mpr hp) _ (mem_claimed.mpr hq) heq)
  · rintro hnames ⟨p, name⟩ hp ⟨q, name'⟩ hq heq
    exact List.inj_on_of_nodup_map hplaces hp hq (hnames (mem_claimed.mp hp) (mem_claimed.mp hq) heq)

theorem isGiven_iff {s : Option String} : isGiven s = true ↔ ∃ t, s = some t ∧ t ≠ "" := by
  cases s <;> simp [isGiven]

theorem isGiven_ne_iff {s t : Option String} :
    isGiven s ≠ isGiven t ↔ Xor (∃ u, s = some u ∧ u ≠ "") (∃ u, t = some u ∧ u ≠ "") := by
  rw [← isGiven_iff, ← isGiven_iff]
  cases isGiven s <;> cases isGiven t <;> simp [Xor]

theorem valid_iff_consistent (r : Registry) : r.Valid ↔ r.Consistent := by
  constructor
  · intro h
    exact ⟨h.environments, h.defaults, h.slugs, fun host hhost => isGiven_ne_iff.mp (h.hosts host hhost),
      (nodup_claims_iff h.environments).mp h.names⟩
  · intro h
    exact ⟨h.environments, h.defaults, h.slugs, fun host hhost => isGiven_ne_iff.mpr (h.hosts host hhost),
      (nodup_claims_iff h.environments).mpr h.names⟩

/-- The report of violations is empty exactly if everything that it checks is as documented; so the data model
holds exactly if it is empty and no identifier of an application or of a host occurs twice. -/
theorem documented_iff_no_violations_and_unique_ids (r : Registry) :
    (r.violations = [] ↔ r.Consistent) ∧
      (r.Documented ↔ r.violations = [] ∧ (r.applications.map (·.id)).Nodup ∧ (r.hosts.map (·.id)).Nodup) := by
  have hconsistent : r.violations = [] ↔ r.Consistent := by rw [violations_eq_nil_iff, valid_iff_consistent]
  refine ⟨hconsistent, ?_⟩
  rw [hconsistent]
  constructor
  · intro h
    exact ⟨h.toConsistent, h.applicationIds, h.hostIds⟩
  · rintro ⟨h, happlications, hhosts⟩
    exact ⟨h, happlications, hhosts⟩

/-- Two hosts with one identifier, and two applications with one. -/
def doubled : Registry :=
  let backend : Backend := ⟨"10.0.0.8", ⟨7001, by decide, by decide⟩, true, true⟩
  { initial with
    baseDomain := "example.org"
    applications := [⟨"a", "Shop", "shop", true, "", [], []⟩, ⟨"a", "Club", "club", true, "", [], []⟩]
    hosts := [⟨backend, "h", some "nas", none, true, "", []⟩, ⟨backend, "h", some "tv", none, true, "", []⟩] }

/-- No violation is reported where two hosts, and two applications, have one identifier. -/
theorem repeated_ids_are_no_violation :
    doubled.violations = [] ∧ ¬ (doubled.hosts.map (·.id)).Nodup ∧
      ¬ (doubled.applications.map (·.id)).Nodup ∧ ¬ doubled.Documented := by
  have hvalid : doubled.Valid := ⟨by decide, by decide, by decide, by decide, by decide⟩
  have hhosts : ¬ (doubled.hosts.map (·.id)).Nodup := by decide
  exact ⟨(violations_eq_nil_iff _).mpr hvalid, hhosts, by decide, fun h => hhosts h.hostIds⟩

end Registry

end EdgeProxy
