import EdgeProxy.Proofs.Operation.Toggle
import EdgeProxy.Proofs.Registry.Documented
/-!
The names that are claimed more than once.  A claim is told by who makes it: the system, an endpoint, by the positions
of its application, its environment and itself, or a host.  The collisions are the names that are claimed at least
twice, each with the rules of all its claimants in the order of these, whatever the identifiers of environments are and
whether an entity is switched on or off.
-/

namespace EdgeProxy

/-- Who claims a name. -/
inductive Claimant where
  | dashboard
  | portal
  | frontend (application environment : Nat)
  | api (application environment position : Nat)
  | host (position : Nat)
deriving DecidableEq

namespace Claimant

/-- Where a claimant stands, read from the left: the system comes before the applications, these before the hosts; of
an application, the environments follow in the order of the registry, each with its frontend before its APIs. -/
def rank : Claimant → List Nat
  | dashboard => [0, 0]
  | portal => [0, 1]
  | frontend application environment => [1, application, environment, 0]
  | api application environment position => [1, application, environment, position + 1]
  | host position => [2, position]

/-- A claimant comes before another one. -/
def Before (c d : Claimant) : Prop := c.rank < d.rank

/-- The claimant at a place, where the environment of an endpoint stands at a position. -/
def ofPlace (environment : Nat) : Place → Claimant
  | .dashboard => .dashboard
  | .portal => .portal
  | .frontend application _ => .frontend application environment
  | .api application _ position => .api application environment position
  | .host position => .host position

end Claimant

/-- A claim of a name by a rule. -/
structure Claim where
  claimant : Claimant
  name : String
  rule : String
deriving DecidableEq

/-- A claim as it is looked up: the name in lower case, and the rule. -/
def Claim.entry (x : Claim) : String × String := (Text.lower x.name, x.rule)

namespace Registry

variable {r : Registry}

/-- The claims that are made in a registry.  The system and the endpoints claim names only while the base domain is
set, and so do hosts without a domain of their own; being switched off makes no difference. -/
inductive Makes (r : Registry) : Claim → Prop where
  | dashboard (hbase : r.baseDomain ≠ "") :
      Makes r ⟨.dashboard, "proxy." ++ r.baseDomain, dashboardRule⟩
  | portal (hbase : r.baseDomain ≠ "") : Makes r ⟨.portal, "auth." ++ r.baseDomain, portalRule⟩
  | frontend {i j : Nat} {app : Application} {e : Environment} {set : EndpointSet} {endpoint : Endpoint}
      (hbase : r.baseDomain ≠ "") (happ : r.applications[i]? = some app) (he : r.environments[j]? = some e)
      (hset : app.endpointSet? e.id = some set) (hfrontend : set.frontend = some endpoint) :
      Makes r ⟨.frontend i j, app.domain .frontend e r.baseDomain, app.ruleId .frontend e⟩
  | api {i j k : Nat} {app : Application} {e : Environment} {set : EndpointSet} {api : Api}
      (hbase : r.baseDomain ≠ "") (happ : r.applications[i]? = some app) (he : r.environments[j]? = some e)
      (hset : app.endpointSet? e.id = some set) (hapi : set.apis[k]? = some api) :
      Makes r ⟨.api i j k, app.domain (.api api.slug) e r.baseDomain, app.ruleId (.api api.slug) e⟩
  | host {i : Nat} {h : Host} (hhost : r.hosts[i]? = some h)
      (hname : isGiven h.customDomain = true ∨ r.baseDomain ≠ "") :
      Makes r ⟨.host i, h.domain r.baseDomain, h.id⟩

def systemClaims (r : Registry) : List Claim :=
  if r.baseDomain.isEmpty then []
  else [⟨.dashboard, "proxy." ++ r.baseDomain, dashboardRule⟩, ⟨.portal, "auth." ++ r.baseDomain, portalRule⟩]

/-- The claims of an application, for the environments with their positions. -/
def claimsOf (r : Registry) (app : Application) (i : Nat) : List Claim :=
  r.environments.zipIdx.flatMap fun a =>
    (app.placed i r.baseDomain a.1).map fun x => ⟨.ofPlace a.2 x.1, x.2.domain, x.2.ruleId⟩

def endpointClaims (r : Registry) : List Claim := r.namedApplications.flatMap fun a => r.claimsOf a.1 a.2

def hostClaims (r : Registry) : List Claim :=
  r.namedHosts.map fun a => ⟨.host a.2, a.1.domain r.baseDomain, a.1.id⟩

/-- The claims that are made, in the order of the claimants. -/
def made (r : Registry) : List Claim := r.systemClaims ++ (r.endpointClaims ++ r.hostClaims)

theorem map_entry_claimsOf (r : Registry) (app : Application) (i : Nat) :
    (r.claimsOf app i).map Claim.entry =
      (r.environments.flatMap (app.placed i r.baseDomain)).map
        fun x => (Text.lower x.2.domain, x.2.ruleId) := by
  conv_rhs => rw [← List.zipIdx_map_fst 0 r.environments, List.flatMap_map, List.map_flatMap]
  rw [claimsOf, List.map_flatMap]
  congr 1
  funext a
  rw [List.map_map]
  rfl

theorem map_entry_endpointClaims (r : Registry) :
    r.endpointClaims.map Claim.entry =
      (r.placedOf r.namedApplications).map fun x => (Text.lower x.2.domain, x.2.ruleId) := by
  rw [endpointClaims, placedOf, List.map_flatMap, List.map_flatMap]
  congr 1
  funext a
  exact r.map_entry_claimsOf a.1 a.2

/-- The claims are looked up in the order of the claimants. -/
theorem map_entry_made (r : Registry) : r.made.map Claim.entry = r.claims := by
  have hhosts : r.hostClaims.map Claim.entry =
      (r.hostsAt r.namedHosts).map fun x => (Text.lower x.2.domain, x.2.ruleId) := by
    rw [hostClaims, hostsAt, List.map_map, List.map_map]
    rfl
  rw [made, List.map_append, List.map_append, map_entry_endpointClaims, hhosts, claims,
    allTargets_eq_placed, List.map_map, List.map_append, systemClaims, systemDomains]
  congr 1
  split <;> rfl

theorem mem_systemClaims {x : Claim} :
    x ∈ r.systemClaims ↔ r.baseDomain ≠ "" ∧
      (x = ⟨.dashboard, "proxy." ++ r.baseDomain, dashboardRule⟩ ∨
        x = ⟨.portal, "auth." ++ r.baseDomain, portalRule⟩) := by
  rw [systemClaims]
  by_cases hbase : r.baseDomain = ""
  · simp [hbase]
  · rw [if_neg (by simpa using hbase)]
    simp [hbase]

theorem mem_endpointClaims {x : Claim} :
    x ∈ r.endpointClaims ↔ r.baseDomain ≠ "" ∧ ∃ (app : Application) (i : Nat) (e : Environment) (j : Nat),
      r.applications[i]? = some app ∧ r.environments[j]? = some e ∧
        ∃ y ∈ app.placed i r.baseDomain e, x = ⟨.ofPlace j y.1, y.2.domain, y.2.ruleId⟩ := by
  simp only [endpointClaims, claimsOf, List.mem_flatMap, List.mem_map, Prod.exists, mem_namedApplications,
    List.mk_mem_zipIdx_iff_getElem?, eq_comm (b := x)]
  constructor
  · rintro ⟨app, i, ⟨hbase, happ⟩, e, j, he, p, t, hy, hx⟩
    exact ⟨hbase, app, i, e, j, happ, he, p, t, hy, hx⟩
  · rintro ⟨hbase, app, i, e, j, happ, he, p, t, hy, hx⟩
    exact ⟨app, i, ⟨hbase, happ⟩, e, j, he, p, t, hy, hx⟩

theorem mem_hostClaims {x : Claim} :
    x ∈ r.hostClaims ↔ ∃ (h : Host) (i : Nat), r.hosts[i]? = some h ∧
      (isGiven h.customDomain = true ∨ r.baseDomain ≠ "") ∧ x = ⟨.host i, h.domain r.baseDomain, h.id⟩ := by
  simp only [hostClaims, namedHosts, List.mem_map, Prod.exists,
    mem_filter_zipIdx (p := fun h : Host => h.isNamed r.baseDomain), isNamed_iff, and_assoc, eq_comm (b := x)]

/-- The claims that are listed are those that are made. -/
theorem mem_made {x : Claim} : x ∈ r.made ↔ r.Makes x := by
  rw [made, List.mem_append, List.mem_append, mem_systemClaims, mem_endpointClaims, mem_hostClaims]
  constructor
  · rintro (⟨hbase, rfl | rfl⟩ | ⟨hbase, app, i, e, j, happ, he, y, hy, rfl⟩ | ⟨h, i, hhost, hname, rfl⟩)
    · exact .dashboard hbase
    · exact .portal hbase
    · obtain ⟨set, hset, ⟨f, hf, rfl⟩ | ⟨a, k, ha, rfl⟩⟩ := Application.mem_placed.mp hy
      · exact .frontend hbase happ he hset hf
      · exact .api hbase happ he hset ha
    · exact .host hhost hname
  · intro h
    cases h with
    | dashboard hbase => exact .inl ⟨hbase, .inl rfl⟩
    | portal hbase => exact .inl ⟨hbase, .inr rfl⟩
    | @frontend i j app e set f hbase happ he hset hf =>
        exact .inr (.inl ⟨hbase, app, i, e, j, happ, he, _,
          Application.mem_placed.mpr ⟨set, hset, .inl ⟨f, hf, rfl⟩⟩, rfl⟩)
    | @api i j k app e set a hbase happ he hset ha =>
        exact .inr (.inl ⟨hbase, app, i, e, j, happ, he, _,
          Application.mem_placed.mpr ⟨set, hset, .inr ⟨a, k, ha, rfl⟩⟩, rfl⟩)
    | host hhost hname => exact .inr (.inr ⟨_, _, hhost, hname, rfl⟩)

/-- Where the claimant of an endpoint stands, beside its place. -/
theorem rank_ofPlace {app : Application} {i : Nat} {base : String} {e : Environment} {y : Place × Target}
    (h : y ∈ app.placed i base e) (environments : List Environment) (j : Nat) :
    ∃ slot, y.1.rank environments = [1, i, (environments.map (·.id)).idxOf e.id, slot] ∧
      (Claimant.ofPlace j y.1).rank = [1, i, j, slot] := by
  obtain ⟨set, -, ⟨f, -, rfl⟩ | ⟨a, k, -, rfl⟩⟩ := Application.mem_placed.mp h
  · exact ⟨_, rfl, rfl⟩
  · exact ⟨_, rfl, rfl⟩

/-- The claims of an application stand in the order of the environments, whatever the identifiers of these are. -/
theorem pairwise_claimsOf (r : Registry) (app : Application) (i : Nat) :
    (r.claimsOf app i).Pairwise fun x y => x.claimant.Before y.claimant := by
  rw [claimsOf, List.pairwise_flatMap]
  refine ⟨fun a _ => ?_, ?_⟩
  · rw [List.pairwise_map]
    refine (app.pairwise_placed i r.baseDomain a.1 r.environments).imp_of_mem ?_
    intro x y hx hy hlt
    obtain ⟨slot, hplace, hclaimant⟩ := rank_ofPlace hx r.environments a.2
    obtain ⟨slot', hplace', hclaimant'⟩ := rank_ofPlace hy r.environments a.2
    rw [Place.Before, hplace, hplace'] at hlt
    rw [Claimant.Before, hclaimant, hclaimant']
    simpa [List.cons_lt_cons_iff] using hlt
  · refine (pairwise_zipIdx r.environments 0).imp ?_
    intro a b hlt x hx y hy
    obtain ⟨p, hp, rfl⟩ := List.mem_map.mp hx
    obtain ⟨q, hq, rfl⟩ := List.mem_map.mp hy
    obtain ⟨slot, -, hclaimant⟩ := rank_ofPlace hp r.environments a.2
    obtain ⟨slot', -, hclaimant'⟩ := rank_ofPlace hq r.environments b.2
    rw [Claimant.Before, hclaimant, hclaimant']
    simp [List.cons_lt_cons_iff, hlt]

theorem rank_of_mem_claimsOf {app : Application} {i : Nat} {x : Claim} (h : x ∈ r.claimsOf app i) :
    ∃ rest, x.claimant.rank = 1 :: i :: rest := by
  obtain ⟨a, -, hx⟩ := List.mem_flatMap.mp h
  obtain ⟨y, hy, rfl⟩ := List.mem_map.mp hx
  obtain ⟨slot, -, hclaimant⟩ := rank_ofPlace hy r.environments a.2
  exact ⟨_, hclaimant⟩

theorem rank_of_mem_endpointClaims {x : Claim} (h : x ∈ r.endpointClaims) :
    ∃ rest, x.claimant.rank = 1 :: rest := by
  obtain ⟨a, -, hx⟩ := List.mem_flatMap.mp h
  obtain ⟨rest, hrank⟩ := rank_of_mem_claimsOf hx
  exact ⟨_, hrank⟩

theorem rank_of_mem_hostClaims {x : Claim} (h : x ∈ r.hostClaims) :
    ∃ rest, x.claimant.rank = 2 :: rest := by
  obtain ⟨host, i, -, -, rfl⟩ := mem_hostClaims.mp h
  exact ⟨_, rfl⟩

theorem pairwise_endpointClaims (r : Registry) :
    r.endpointClaims.Pairwise fun x y => x.claimant.Before y.claimant := by
  rw [endpointClaims, List.pairwise_flatMap]
  refine ⟨fun a _ => r.pairwise_claimsOf a.1 a.2, ?_⟩
  refine ((pairwise_zipIdx r.applications 0).sublist r.namedApplications_sublist).imp ?_
  intro a b hlt x hx y hy
  obtain ⟨rest, hrank⟩ := rank_of_mem_claimsOf hx
  obtain ⟨rest', hrank'⟩ := rank_of_mem_claimsOf hy
  rw [Claimant.Before, hrank, hrank']
  simp [List.cons_lt_cons_iff, hlt]

theorem pairwise_hostClaims (r : Registry) :
    r.hostClaims.Pairwise fun x y => x.claimant.Before y.claimant := by
  rw [hostClaims, List.pairwise_map]
  refine ((pairwise_zipIdx r.hosts 0).sublist List.filter_sublist).imp ?_
  intro a b hlt
  simpa [Claimant.Before, Claimant.rank, List.cons_lt_cons_iff] using hlt

/-- The claims are listed in the order of the claimants, so no claimant is listed twice. -/
theorem pairwise_made (r : Registry) : r.made.Pairwise fun x y => x.claimant.Before y.claimant := by
  have hentities : (r.endpointClaims ++ r.hostClaims).Pairwise fun x y =>
      x.claimant.rank < y.claimant.rank := by
    apply pairwise_append_of_head_lt (fun x : Claim => x.claimant.rank) r.pairwise_endpointClaims
      r.pairwise_hostClaims fun x hx => rank_of_mem_endpointClaims hx
    intro y hy
    obtain ⟨rest, hrank⟩ := rank_of_mem_hostClaims hy
    exact ⟨2, rest, by decide, hrank⟩
  have hsystem : r.systemClaims.Pairwise fun x y => x.claimant.rank < y.claimant.rank := by
    rw [systemClaims]
    split
    · exact .nil
    · simp [Claimant.rank, List.cons_lt_cons_iff]
  apply pairwise_append_of_head_lt (fun x : Claim => x.claimant.rank) hsystem hentities
  · intro x hx
    rcases (mem_systemClaims.mp hx).2 with rfl | rfl
    · exact ⟨[0], rfl⟩
    · exact ⟨[1], rfl⟩
  · intro y hy
    rcases List.mem_append.mp hy with hy | hy
    · obtain ⟨rest, hrank⟩ := rank_of_mem_endpointClaims hy
      exact ⟨1, rest, by decide, hrank⟩
    · obtain ⟨rest, hrank⟩ := rank_of_mem_hostClaims hy
      exact ⟨2, rest, by decide, hrank⟩

/-- The rules that claim a name, ignoring case, in the order of the claimants. -/
theorem map_rule_filter (r : Registry) (name : String) :
    (r.made.filter fun x => Text.lower x.name = name).map Claim.rule =
      (r.claims.filter (·.1 == name)).map Prod.snd := by
  rw [← map_entry_made, List.filter_map, List.map_map]
  rfl

/-- A name is listed with its claimants if there are any. -/
theorem mem_claimants_iff {name : String} {rules : List String} (hrules : rules ≠ []) :
    (name, rules) ∈ r.claimants ↔ rules = (r.claims.filter (·.1 == name)).map Prod.snd := by
  rw [← lookup_claimants]
  constructor
  · intro h
    rw [lookup_of_mem_of_nodup r.nodup_keys_claimants h, Option.getD_some]
  · intro h
    cases hlookup : r.claimants.lookup name with
    | none =>
        rw [hlookup, Option.getD_none] at h
        exact absurd h hrules
    | some found =>
        rw [hlookup, Option.getD_some] at h
        obtain ⟨before, after, heq, -⟩ := List.lookup_eq_some_iff.mp hlookup
        rw [heq, h]
        simp

theorem mem_collisions_iff {name : String} {rules : List String} :
    (name, rules) ∈ r.collisions ↔
      rules = (r.claims.filter (·.1 == name)).map Prod.snd ∧ 2 ≤ rules.length := by
  rw [collisions, List.mem_filter, decide_eq_true_iff]
  constructor
  · rintro ⟨hmem, hlength⟩
    have hrules : rules ≠ [] := List.ne_nil_of_length_pos (by omega)
    exact ⟨(mem_claimants_iff hrules).mp hmem, hlength⟩
  · rintro ⟨heq, hlength⟩
    have hrules : rules ≠ [] := List.ne_nil_of_length_pos (by omega)
    exact ⟨(mem_claimants_iff hrules).mpr heq, hlength⟩

theorem nodup_keys_collisions (r : Registry) : (r.collisions.map Prod.fst).Nodup :=
  r.nodup_keys_claimants.sublist (List.filter_sublist.map Prod.fst)

/-- The claims of the endpoints and hosts, item by item. -/
theorem claims_eq_flatten (r : Registry) :
    r.claims = (systemDomains r.baseDomain).map (fun (rule, domain) => (Text.lower domain, rule)) ++
      ((if r.baseDomain.isEmpty then []
        else (r.applications.map fun app =>
          (app.targets r.environments r.baseDomain).map fun t => (Text.lower t.domain, t.ruleId)).flatten) ++
        ((r.hosts.map fun h => (h.isNamed r.baseDomain, Text.lower (h.domain r.baseDomain), h.id)).filter
          Prod.fst).map Prod.snd) := by
  have hhosts : ((r.hosts.filter (·.isNamed r.baseDomain)).map (·.target r.baseDomain)).map
      (fun t => (Text.lower t.domain, t.ruleId)) =
        ((r.hosts.map fun h => (h.isNamed r.baseDomain, Text.lower (h.domain r.baseDomain), h.id)).filter
          Prod.fst).map Prod.snd := by
    rw [List.filter_map, List.map_map, List.map_map]
    rfl
  rw [claims, allTargets, List.map_append, hhosts]
  congr 2
  split
  · rfl
  · rw [List.map_flatMap, List.flatMap_def]

/-- The claims do not depend on what is switched on or off. -/
theorem claims_flagged (applications hosts : Nat → Bool) (r : Registry) :
    (r.flagged applications hosts).claims = r.claims := by
  have happlications := map_mapIdx (f := fun i a => Application.flagged (applications i) a)
    (k := fun app : Application =>
      (app.targets r.environments r.baseDomain).map fun t => (Text.lower t.domain, t.ruleId))
    (fun i app => by rw [Application.targets, Application.targets, List.map_map, List.map_map]; rfl)
    r.applications
  have hhosts := map_mapIdx (f := fun i h => Host.flagged (hosts i) h)
    (k := fun h : Host => (h.isNamed r.baseDomain, Text.lower (h.domain r.baseDomain), h.id))
    (fun _ _ => rfl) r.hosts
  rw [claims_eq_flatten, claims_eq_flatten, flagged, happlications, hhosts]

/-- The collisions are the names, ignoring case, that are claimed at least twice; each is listed once, with the rules of
all its claims in the order of the claimants.  They do not depend on what is switched on or off. -/
theorem collisions_are_the_repeated_claims (r : Registry) :
    ∃ claims : List Claim, (claims.Pairwise fun x y => x.claimant.Before y.claimant) ∧
      (∀ x, x ∈ claims ↔ r.Makes x) ∧
      (∀ name rules, (name, rules) ∈ r.collisions ↔
        rules = (claims.filter fun x => Text.lower x.name = name).map Claim.rule ∧ 2 ≤ rules.length) ∧
      (r.collisions.map Prod.fst).Nodup ∧
      ∀ applications hosts, (r.flagged applications hosts).collisions = r.collisions := by
  refine ⟨r.made, r.pairwise_made, fun x => mem_made, fun name rules => ?_, r.nodup_keys_collisions, ?_⟩
  · rw [map_rule_filter]
    exact mem_collisions_iff
  · intro applications hosts
    rw [collisions, collisions, claimants, claimants, claims_flagged]

/-- Two environments with one identifier, so that a frontend claims its name twice, and a host that is switched off and
has this name in capitals. -/
def echoed : Registry :=
  let backend : Backend := ⟨"10.0.0.9", ⟨7002, by decide, by decide⟩, true, true⟩
  { initial with
    baseDomain := "a.io"
    environments := [⟨"prod", "Production", "", "api", true, []⟩, ⟨"prod", "Again", "", "api", false, []⟩]
    applications := [⟨"a", "Shop", "shop", true, "", [("prod", ⟨some ⟨backend, []⟩, [], []⟩)], []⟩]
    hosts := [⟨backend, "h", some "SHOP", none, false, "", []⟩,
      ⟨backend, "i", some "tv", none, true, "", []⟩] }

example : echoed.collisions =
    [("shop.a.io", ["a-frontend-prod", "a-frontend-prod", "h"])] := by decide +kernel

end Registry

end EdgeProxy
