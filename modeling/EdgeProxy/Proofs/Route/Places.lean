import EdgeProxy.Proofs.Edge.Compile
import EdgeProxy.Proofs.Route.Reading
/-!
The compiled routes and the places of a registry that they are for.  A place is the dashboard, the portal, an
endpoint or a host; an endpoint is told by the position of its application, its environment and its position
among the APIs.  There is one route for each place that has one, in the order of the places.
-/

namespace EdgeProxy

/-- A place of a registry that may have a route. -/
inductive Place where
  | dashboard
  | portal
  | frontend (application : Nat) (environment : String)
  | api (application : Nat) (environment : String) (position : Nat)
  | host (position : Nat)
deriving DecidableEq

namespace Place

/-- Where a place stands, read from the left: the system comes before the applications, these before the
hosts; of an application, the environments follow in the order of the registry, each with its frontend before
its APIs. -/
def rank (environments : List Environment) : Place → List Nat
  | dashboard => [0, 0]
  | portal => [0, 1]
  | frontend application environment =>
    [1, application, (environments.map (·.id)).idxOf environment, 0]
  | api application environment position =>
    [1, application, (environments.map (·.id)).idxOf environment, position + 1]
  | host position => [2, position]

/-- A place comes before another one. -/
def Before (environments : List Environment) (p q : Place) : Prop :=
  p.rank environments < q.rank environments

end Place

/-- What the places of a registry have routes for.  The system and the endpoints have routes only while the
base domain is set, and so have hosts without a domain of their own; whatever is switched off has none. -/
inductive Registry.Assigns (r : Registry) (settings : Settings) : Place → Assignment → Prop where
  | dashboard (hbase : r.baseDomain ≠ "") :
      Assigns r settings .dashboard
        ⟨dashboardRule, "proxy." ++ r.baseDomain, settings.dashboardBackend, false, false⟩
  | portal (hbase : r.baseDomain ≠ "") :
      Assigns r settings .portal
        ⟨portalRule, "auth." ++ r.baseDomain, settings.authBackend, false, false⟩
  | frontend {i : Nat} {app : Application} {e : Environment} {set : EndpointSet} {endpoint : Endpoint}
      (hbase : r.baseDomain ≠ "") (happ : r.applications[i]? = some app) (henabled : app.enabled = true)
      (he : e ∈ r.environments) (hset : app.endpointSet? e.id = some set)
      (hfrontend : set.frontend = some endpoint) :
      Assigns r settings (.frontend i e.id)
        ⟨app.ruleId .frontend e, app.domain .frontend e r.baseDomain, endpoint.address,
          endpoint.requireAuth, endpoint.localOnly⟩
  | api {i k : Nat} {app : Application} {e : Environment} {set : EndpointSet} {api : Api}
      (hbase : r.baseDomain ≠ "") (happ : r.applications[i]? = some app) (henabled : app.enabled = true)
      (he : e ∈ r.environments) (hset : app.endpointSet? e.id = some set) (hapi : set.apis[k]? = some api) :
      Assigns r settings (.api i e.id k)
        ⟨app.ruleId (.api api.slug) e, app.domain (.api api.slug) e r.baseDomain, api.address,
          api.requireAuth, api.localOnly⟩
  | host {i : Nat} {h : Host} (hhost : r.hosts[i]? = some h) (henabled : h.enabled = true)
      (hname : isGiven h.customDomain = true ∨ r.baseDomain ≠ "") :
      Assigns r settings (.host i)
        ⟨h.id, h.domain r.baseDomain, h.address, h.requireAuth, h.localOnly⟩

def Target.assignment (t : Target) : Assignment :=
  ⟨t.ruleId, t.domain, t.backend.address, t.backend.requireAuth, t.backend.localOnly⟩

theorem Target.carries (settings : Settings) (base : String) (t : Target) :
    (Route.ofTarget settings base t).Carries t.assignment :=
  Route.carries_make settings base _ _ _ _ _ _ _

section Positions

variable {α : Type} {p : α → Bool} {l : List α}

theorem pairwise_zipIdx (l : List α) (start : Nat) :
    (l.zipIdx start).Pairwise fun a b => a.2 < b.2 := by
  induction l generalizing start with
  | nil => exact .nil
  | cons a rest ih =>
      exact List.pairwise_cons.mpr ⟨fun b hb => List.le_snd_of_mem_zipIdx hb, ih (start + 1)⟩

/-- Two lists in order, one after the other, are in order if the ranks of the second begin with larger numbers. -/
theorem pairwise_append_of_head_lt (rank : α → List Nat) {first second : List α} {n : Nat}
    (hfirst : first.Pairwise fun a b => rank a < rank b) (hsecond : second.Pairwise fun a b => rank a < rank b)
    (hn : ∀ a ∈ first, ∃ rest, rank a = n :: rest)
    (hlater : ∀ b ∈ second, ∃ m rest, n < m ∧ rank b = m :: rest) :
    (first ++ second).Pairwise fun a b => rank a < rank b := by
  refine List.pairwise_append.mpr ⟨hfirst, hsecond, ?_⟩
  intro a ha b hb
  obtain ⟨rest, hrank⟩ := hn a ha
  obtain ⟨m, rest', hlt, hrank'⟩ := hlater b hb
  rw [hrank, hrank']
  exact List.cons_lt_cons_iff.mpr (.inl hlt)

/-- Dropping items commutes with forgetting the positions. -/
theorem map_fst_filter_zipIdx (p : α → Bool) (l : List α) :
    (l.zipIdx.filter fun a => p a.1).map Prod.fst = l.filter p := by
  have hfilter := List.filter_map (p := p) (f := Prod.fst) (l := l.zipIdx)
  rw [List.zipIdx_map_fst] at hfilter
  exact hfilter.symm

theorem mem_filter_zipIdx {a : α} {i : Nat} :
    (a, i) ∈ l.zipIdx.filter (fun a => p a.1) ↔ l[i]? = some a ∧ p a = true := by
  rw [List.mem_filter, List.mk_mem_zipIdx_iff_getElem?]

end Positions

/-- The endpoints of an application in one environment, each with its place. -/
def Application.placed (app : Application) (i : Nat) (base : String) (e : Environment) :
    List (Place × Target) :=
  match app.endpointSet? e.id with
  | none => []
  | some set =>
    (set.frontend.map fun f =>
        (Place.frontend i e.id, app.target base e .frontend f.toBackend)).toList ++
      set.apis.zipIdx.map fun (a, k) => (.api i e.id k, app.target base e (.api a.slug) a.toBackend)

namespace Application

variable {app : Application} {i : Nat} {base : String} {e : Environment} {x : Place × Target}

theorem map_snd_placed (app : Application) (i : Nat) (base : String) (e : Environment) :
    (app.placed i base e).map Prod.snd =
      match app.endpointSet? e.id with
      | some set => set.endpoints.map fun (kind, backend) => app.target base e kind backend
      | none => [] := by
  rw [placed]
  cases app.endpointSet? e.id with
  | none => rfl
  | some set =>
      have hapis : (set.apis.zipIdx.map fun (a, k) =>
          ((Place.api i e.id k, app.target base e (.api a.slug) a.toBackend) : Place × Target)).map
            Prod.snd = set.apis.map fun a => app.target base e (.api a.slug) a.toBackend := by
        rw [List.map_map]
        conv_rhs => rw [← List.zipIdx_map_fst 0 set.apis, List.map_map]
        rfl
      dsimp only
      rw [List.map_append, hapis, EndpointSet.endpoints, List.map_append, List.map_map]
      cases set.frontend <;> rfl

theorem flatMap_placed (app : Application) (i : Nat) (base : String) (environments : List Environment) :
    (environments.flatMap (app.placed i base)).map Prod.snd = app.targets environments base := by
  rw [List.map_flatMap, targets, endpointsIn, List.map_flatMap]
  congr 1
  funext e
  rw [app.map_snd_placed]
  cases app.endpointSet? e.id with
  | none => rfl
  | some set => rw [List.map_map]; rfl

/-- What is placed is the frontend or one of the APIs. -/
theorem mem_placed :
    x ∈ app.placed i base e ↔ ∃ set, app.endpointSet? e.id = some set ∧
      ((∃ f, set.frontend = some f ∧
          x = (.frontend i e.id, app.target base e .frontend f.toBackend)) ∨
        ∃ a k, set.apis[k]? = some a ∧
          x = (.api i e.id k, app.target base e (.api a.slug) a.toBackend)) := by
  rw [placed]
  cases app.endpointSet? e.id with
  | none => simp
  | some set =>
      simp only [List.mem_append, Option.mem_toList, Option.map_eq_some_iff, List.mem_map, Prod.exists,
        List.mk_mem_zipIdx_iff_getElem?, Option.some.injEq, exists_eq_left', eq_comm (a := x)]

/-- In one environment, the frontend comes before the APIs, and these in their order. -/
theorem pairwise_placed (app : Application) (i : Nat) (base : String) (e : Environment)
    (environments : List Environment) :
    (app.placed i base e).Pairwise fun x y => x.1.Before environments y.1 := by
  rw [placed]
  cases app.endpointSet? e.id with
  | none => exact .nil
  | some set =>
      dsimp only
      rw [List.pairwise_append, List.pairwise_map]
      refine ⟨?_, (pairwise_zipIdx set.apis 0).imp ?_, ?_⟩
      · cases set.frontend with
        | none => exact .nil
        | some f => exact List.pairwise_singleton _ _
      · rintro ⟨a, k⟩ ⟨a', k'⟩ hk
        simpa [Place.Before, Place.rank, List.cons_lt_cons_iff] using hk
      · intro x hx y hy
        obtain ⟨f, -, rfl⟩ := Option.map_eq_some_iff.mp (Option.mem_toList.mp hx)
        obtain ⟨⟨a, k⟩, -, rfl⟩ := List.mem_map.mp hy
        simp [Place.Before, Place.rank, List.cons_lt_cons_iff]

/-- Where an endpoint stands. -/
theorem rank_of_mem_placed (h : x ∈ app.placed i base e) (environments : List Environment) :
    ∃ slot, x.1.rank environments = [1, i, (environments.map (·.id)).idxOf e.id, slot] := by
  obtain ⟨set, -, ⟨f, -, rfl⟩ | ⟨a, k, -, rfl⟩⟩ := mem_placed.mp h
  · exact ⟨_, rfl⟩
  · exact ⟨_, rfl⟩

/-- An application's endpoints stand in the order of the environments, if no two of these have one
identifier. -/
theorem pairwise_flatMap_placed (app : Application) (i : Nat) (base : String)
    {environments : List Environment} (hids : (environments.map (·.id)).Nodup) :
    (environments.flatMap (app.placed i base)).Pairwise fun x y => x.1.Before environments y.1 := by
  rw [List.pairwise_flatMap]
  refine ⟨fun e _ => app.pairwise_placed i base e environments, ?_⟩
  rw [List.pairwise_iff_getElem]
  intro j j' hj hj' hlt x hx y hy
  obtain ⟨slot, hrank⟩ := rank_of_mem_placed hx environments
  obtain ⟨slot', hrank'⟩ := rank_of_mem_placed hy environments
  have hindex : ∀ (k : Nat) (hk : k < environments.length),
      (environments.map (·.id)).idxOf environments[k].id = k := by
    intro k hk
    have hget := hids.idxOf_getElem k (by simpa using hk)
    rwa [List.getElem_map] at hget
  rw [Place.Before, hrank, hrank', hindex j hj, hindex j' hj']
  simp [List.cons_lt_cons_iff, hlt]

end Application

namespace Registry

variable {r : Registry} {settings : Settings}

/-- The endpoints that have a name, each with its place. -/
def placedEndpoints (r : Registry) : List (Place × Target) :=
  if r.baseDomain.isEmpty then []
  else (r.applications.zipIdx.filter (·.1.enabled)).flatMap fun a =>
    r.environments.flatMap (a.1.placed a.2 r.baseDomain)

/-- The hosts that have a name, each with its place. -/
def placedHosts (r : Registry) : List (Place × Target) :=
  (r.hosts.zipIdx.filter fun a => a.1.enabled && a.1.isNamed r.baseDomain).map fun a =>
    (.host a.2, a.1.target r.baseDomain)

/-- The endpoints of some applications, each with its place. -/
def placedOf (r : Registry) (apps : List (Application × Nat)) : List (Place × Target) :=
  apps.flatMap fun a => r.environments.flatMap (a.1.placed a.2 r.baseDomain)

theorem map_snd_placedOf (r : Registry) (apps : List (Application × Nat)) :
    (r.placedOf apps).map Prod.snd =
      (apps.map Prod.fst).flatMap (·.targets r.environments r.baseDomain) := by
  rw [placedOf, List.map_flatMap, List.flatMap_map]
  congr 1
  funext a
  exact a.1.flatMap_placed a.2 r.baseDomain r.environments

theorem mem_placedOf {apps : List (Application × Nat)} {x : Place × Target} :
    x ∈ r.placedOf apps ↔
      ∃ app i, (app, i) ∈ apps ∧ ∃ e ∈ r.environments, x ∈ app.placed i r.baseDomain e := by
  simp only [placedOf, List.mem_flatMap, Prod.exists]

theorem map_snd_placedEndpoints (r : Registry) :
    r.placedEndpoints.map Prod.snd = if r.baseDomain.isEmpty then []
      else (r.applications.filter (·.enabled)).flatMap (·.targets r.environments r.baseDomain) := by
  rw [placedEndpoints]
  split
  · rfl
  · rw [← map_fst_filter_zipIdx (fun app : Application => app.enabled) r.applications]
    exact r.map_snd_placedOf _

/-- Some hosts, each with its place. -/
def hostsAt (r : Registry) (hosts : List (Host × Nat)) : List (Place × Target) :=
  hosts.map fun a => (.host a.2, a.1.target r.baseDomain)

theorem map_snd_hostsAt (r : Registry) (hosts : List (Host × Nat)) :
    (r.hostsAt hosts).map Prod.snd = (hosts.map Prod.fst).map (·.target r.baseDomain) := by
  rw [hostsAt, List.map_map, List.map_map]
  rfl

theorem map_snd_placedHosts (r : Registry) :
    r.placedHosts.map Prod.snd =
      (r.hosts.filter fun h => h.enabled && h.isNamed r.baseDomain).map (·.target r.baseDomain) := by
  rw [← map_fst_filter_zipIdx (fun h : Host => h.enabled && h.isNamed r.baseDomain) r.hosts]
  exact r.map_snd_hostsAt _

/-- The targets, each with its place. -/
theorem targets_eq_placed (r : Registry) :
    r.targets = (r.placedEndpoints ++ r.placedHosts).map Prod.snd := by
  rw [List.map_append, map_snd_placedEndpoints, map_snd_placedHosts, targets]

theorem mem_placedEndpoints {x : Place × Target} :
    x ∈ r.placedEndpoints ↔ r.baseDomain ≠ "" ∧ ∃ (app : Application) (i : Nat),
      r.applications[i]? = some app ∧ app.enabled = true ∧
        ∃ e ∈ r.environments, x ∈ app.placed i r.baseDomain e := by
  rw [placedEndpoints]
  by_cases hbase : r.baseDomain = ""
  · simp [hbase]
  · rw [if_neg (by simpa using hbase)]
    have hmem : x ∈ r.placedOf (r.applications.zipIdx.filter (·.1.enabled)) ↔ _ := mem_placedOf
    simp only [mem_filter_zipIdx (p := Application.enabled), and_assoc] at hmem
    exact hmem.trans (and_iff_right hbase).symm

theorem mem_placedHosts {x : Place × Target} :
    x ∈ r.placedHosts ↔ ∃ (h : Host) (i : Nat), r.hosts[i]? = some h ∧ h.enabled = true ∧
      h.isNamed r.baseDomain = true ∧ x = (.host i, h.target r.baseDomain) := by
  rw [placedHosts]
  simp only [List.mem_map, Prod.exists,
    mem_filter_zipIdx (p := fun h : Host => h.enabled && h.isNamed r.baseDomain), Bool.and_eq_true,
    and_assoc, eq_comm (a := x)]

theorem isNamed_iff {h : Host} {base : String} :
    h.isNamed base = true ↔ isGiven h.customDomain = true ∨ base ≠ "" := by
  simp [Host.isNamed]

/-- Every placed target is the one that is assigned to its place. -/
theorem assigns_of_placed {x : Place × Target} (h : x ∈ r.placedEndpoints ++ r.placedHosts) :
    r.Assigns settings x.1 x.2.assignment := by
  rcases List.mem_append.mp h with h | h
  · obtain ⟨hbase, app, i, happ, henabled, e, he, hx⟩ := mem_placedEndpoints.mp h
    obtain ⟨set, hset, ⟨f, hf, rfl⟩ | ⟨a, k, ha, rfl⟩⟩ := Application.mem_placed.mp hx
    · exact .frontend hbase happ henabled he hset hf
    · exact .api hbase happ henabled he hset ha
  · obtain ⟨host, i, hhost, henabled, hnamed, rfl⟩ := mem_placedHosts.mp h
    exact .host hhost henabled (isNamed_iff.mp hnamed)

/-- What is assigned to an endpoint or a host is placed there. -/
theorem placed_of_assigns {p : Place} {a : Assignment} (h : r.Assigns settings p a) :
    (r.baseDomain ≠ "" ∧ (p = .dashboard ∨ p = .portal)) ∨
      p ∈ (r.placedEndpoints ++ r.placedHosts).map Prod.fst := by
  cases h with
  | dashboard hbase => exact .inl ⟨hbase, .inl rfl⟩
  | portal hbase => exact .inl ⟨hbase, .inr rfl⟩
  | @frontend i app e set f hbase happ henabled he hset hf =>
      have hplaced : (Place.frontend i e.id, app.target r.baseDomain e .frontend f.toBackend) ∈
          app.placed i r.baseDomain e := Application.mem_placed.mpr ⟨set, hset, .inl ⟨f, hf, rfl⟩⟩
      have hmem := mem_placedEndpoints.mpr ⟨hbase, app, i, happ, henabled, e, he, hplaced⟩
      exact .inr (List.mem_map.mpr ⟨_, List.mem_append_left _ hmem, rfl⟩)
  | @api i k app e set a hbase happ henabled he hset ha =>
      have hplaced : (Place.api i e.id k, app.target r.baseDomain e (.api a.slug) a.toBackend) ∈
          app.placed i r.baseDomain e := Application.mem_placed.mpr ⟨set, hset, .inr ⟨a, k, ha, rfl⟩⟩
      have hmem := mem_placedEndpoints.mpr ⟨hbase, app, i, happ, henabled, e, he, hplaced⟩
      exact .inr (List.mem_map.mpr ⟨_, List.mem_append_left _ hmem, rfl⟩)
  | @host i host hhost henabled hname =>
      have hmem := mem_placedHosts.mpr ⟨host, i, hhost, henabled, isNamed_iff.mpr hname, rfl⟩
      exact .inr (List.mem_map.mpr ⟨_, List.mem_append_right _ hmem, rfl⟩)

theorem rank_of_mem_placedOf {apps : List (Application × Nat)} {x : Place × Target}
    (h : x ∈ r.placedOf apps) : ∃ rest, x.1.rank r.environments = 1 :: rest := by
  obtain ⟨app, i, -, e, -, hx⟩ := mem_placedOf.mp h
  obtain ⟨slot, hrank⟩ := Application.rank_of_mem_placed hx r.environments
  exact ⟨_, hrank⟩

theorem rank_of_mem_hostsAt {hosts : List (Host × Nat)} {x : Place × Target} (h : x ∈ r.hostsAt hosts) :
    ∃ i, x.1.rank r.environments = [2, i] := by
  obtain ⟨a, -, rfl⟩ := List.mem_map.mp h
  exact ⟨a.2, rfl⟩

/-- Endpoints of applications in their order stand in order. -/
theorem pairwise_placedOf {apps : List (Application × Nat)} (hsub : apps.Sublist r.applications.zipIdx)
    (hids : (r.environments.map (·.id)).Nodup) :
    (r.placedOf apps).Pairwise fun x y => x.1.Before r.environments y.1 := by
  rw [placedOf, List.pairwise_flatMap]
  refine ⟨fun a _ => a.1.pairwise_flatMap_placed a.2 r.baseDomain hids, ?_⟩
  refine ((pairwise_zipIdx r.applications 0).sublist hsub).imp ?_
  rintro ⟨app, i⟩ ⟨app', i'⟩ hlt x hx y hy
  obtain ⟨e, -, hx⟩ := List.mem_flatMap.mp hx
  obtain ⟨e', -, hy⟩ := List.mem_flatMap.mp hy
  obtain ⟨slot, hrank⟩ := Application.rank_of_mem_placed hx r.environments
  obtain ⟨slot', hrank'⟩ := Application.rank_of_mem_placed hy r.environments
  have hlt : i < i' := hlt
  rw [Place.Before, hrank, hrank']
  simp [List.cons_lt_cons_iff, hlt]

theorem pairwise_hostsAt {hosts : List (Host × Nat)} (hsub : hosts.Sublist r.hosts.zipIdx) :
    (r.hostsAt hosts).Pairwise fun x y => x.1.Before r.environments y.1 := by
  rw [hostsAt, List.pairwise_map]
  refine ((pairwise_zipIdx r.hosts 0).sublist hsub).imp ?_
  rintro ⟨h, i⟩ ⟨h', i'⟩ hlt
  simpa [Place.Before, Place.rank, List.cons_lt_cons_iff] using hlt

def systemPlaces (r : Registry) : List Place :=
  if r.baseDomain.isEmpty then [] else [.dashboard, .portal]

/-- The places that have routes, in order. -/
def places (r : Registry) : List Place :=
  r.systemPlaces ++ (r.placedEndpoints ++ r.placedHosts).map Prod.fst

theorem mem_systemPlaces {p : Place} :
    p ∈ r.systemPlaces ↔ r.baseDomain ≠ "" ∧ (p = .dashboard ∨ p = .portal) := by
  rw [systemPlaces]
  by_cases hbase : r.baseDomain = ""
  · simp [hbase]
  · rw [if_neg (by simpa using hbase)]
    simp [hbase]

theorem mem_places (settings : Settings) {p : Place} :
    p ∈ r.places ↔ ∃ a, r.Assigns settings p a := by
  rw [places, List.mem_append, mem_systemPlaces]
  constructor
  · rintro (⟨hbase, rfl | rfl⟩ | hplaced)
    · exact ⟨_, .dashboard hbase⟩
    · exact ⟨_, .portal hbase⟩
    · obtain ⟨x, hx, rfl⟩ := List.mem_map.mp hplaced
      exact ⟨_, assigns_of_placed hx⟩
  · rintro ⟨a, h⟩
    exact placed_of_assigns h

/-- The system comes before the endpoints, these before the hosts, and all stand in order. -/
theorem pairwise_systemPlaces_append {apps : List (Application × Nat)} {hosts : List (Host × Nat)}
    (hids : (r.environments.map (·.id)).Nodup) (happs : apps.Sublist r.applications.zipIdx)
    (hhosts : hosts.Sublist r.hosts.zipIdx) :
    (r.systemPlaces ++ (r.placedOf apps ++ r.hostsAt hosts).map Prod.fst).Pairwise
      (Place.Before r.environments) := by
  have hentities : (r.placedOf apps ++ r.hostsAt hosts).Pairwise fun x y =>
      x.1.rank r.environments < y.1.rank r.environments := by
    apply pairwise_append_of_head_lt (fun x => x.1.rank r.environments)
      (pairwise_placedOf happs hids) (pairwise_hostsAt hhosts) fun x hx => rank_of_mem_placedOf hx
    intro y hy
    obtain ⟨i, hrank⟩ := rank_of_mem_hostsAt hy
    exact ⟨2, [i], by decide, hrank⟩
  have hsystem : r.systemPlaces.Pairwise fun p q => p.rank r.environments < q.rank r.environments := by
    rw [systemPlaces]
    split
    · exact .nil
    · simp [Place.rank, List.cons_lt_cons_iff]
  apply pairwise_append_of_head_lt (Place.rank r.environments) hsystem (List.pairwise_map.mpr hentities)
  · intro p hp
    rcases (mem_systemPlaces.mp hp).2 with rfl | rfl
    · exact ⟨[0], rfl⟩
    · exact ⟨[1], rfl⟩
  · intro q hq
    obtain ⟨x, hx, rfl⟩ := List.mem_map.mp hq
    rcases List.mem_append.mp hx with hx | hx
    · obtain ⟨rest, hrank⟩ := rank_of_mem_placedOf hx
      exact ⟨1, rest, by decide, hrank⟩
    · obtain ⟨i, hrank⟩ := rank_of_mem_hostsAt hx
      exact ⟨2, [i], by decide, hrank⟩

/-- The endpoints that have a name are those of some of the applications. -/
theorem placedEndpoints_eq (r : Registry) :
    ∃ apps, apps.Sublist r.applications.zipIdx ∧ r.placedEndpoints = r.placedOf apps := by
  rw [placedEndpoints]
  split
  · exact ⟨[], List.nil_sublist _, rfl⟩
  · exact ⟨_, List.filter_sublist, rfl⟩

theorem pairwise_places (hids : (r.environments.map (·.id)).Nodup) :
    r.places.Pairwise (Place.Before r.environments) := by
  obtain ⟨apps, hsub, heq⟩ := r.placedEndpoints_eq
  rw [places, heq]
  exact pairwise_systemPlaces_append hids hsub List.filter_sublist

/-- The routes of the system are for its places. -/
theorem forall₂_systemRoutes (r : Registry) (settings : Settings) :
    List.Forall₂ (fun p route => ∃ a, r.Assigns settings p a ∧ route.Carries a) r.systemPlaces
      (Route.systemRoutes settings r.baseDomain) := by
  rw [systemPlaces, Route.systemRoutes, systemDomains]
  by_cases hbase : r.baseDomain = ""
  · simp [hbase]
  · rw [if_neg (by simpa using hbase), if_neg (by simpa using hbase)]
    exact .cons ⟨_, .dashboard hbase, Route.carries_make _ _ _ _ _ _ _ _ _⟩
      (.cons ⟨_, .portal hbase, Route.carries_make _ _ _ _ _ _ _ _ _⟩ .nil)

/-- There is exactly one route for each place that is assigned one, in the order of the places, and it carries
what is assigned to its place; no place has two. -/
theorem one_route_for_each_place (hids : (r.environments.map (·.id)).Nodup) (settings : Settings) :
    ∃ places : List Place, places.Pairwise (Place.Before r.environments) ∧
      (∀ p, p ∈ places ↔ ∃ a, r.Assigns settings p a) ∧
      List.Forall₂ (fun p route => ∃ a, r.Assigns settings p a ∧ route.Carries a) places
        (r.routes settings) := by
  refine ⟨r.places, pairwise_places hids, fun p => mem_places settings, ?_⟩
  rw [places, routes, targets_eq_placed, List.map_map]
  refine List.rel_append (r.forall₂_systemRoutes settings) ?_
  rw [List.forall₂_map_left_iff, List.forall₂_map_right_iff, List.forall₂_same]
  exact fun x hx => ⟨_, assigns_of_placed hx, x.2.carries settings r.baseDomain⟩

/-- One application that is switched on, with endpoints in an environment that is not there, and one that is
switched off; one host that is switched off, and one that is not. -/
def bazaar : Registry :=
  let backend : Backend := ⟨"10.0.0.7", ⟨7000, by decide, by decide⟩, true, true⟩
  let both : EndpointSet := ⟨some ⟨backend, []⟩, [⟨backend, "", []⟩], []⟩
  { initial with
    baseDomain := "example.org"
    applications := [⟨"a", "Shop", "shop", true, "",
        [("gone", both), ("dev", both), ("prod", ⟨none, [⟨backend, "v1", []⟩], []⟩)], []⟩,
      ⟨"b", "Club", "club", false, "", [("dev", both)], []⟩]
    hosts := [⟨backend, "h", some "nas", none, false, "", []⟩, ⟨backend, "i", some "tv", none, true, "", []⟩] }

theorem one_route_for_each_place_at_bazaar :
    bazaar.places =
        [.dashboard, .portal, .api 0 "prod" 0, .frontend 0 "dev", .api 0 "dev" 0, .host 1] ∧
      (bazaar.environments.map (·.id)).Nodup ∧
      ∃ places : List Place, places.Pairwise (Place.Before bazaar.environments) ∧
        (∀ p, p ∈ places ↔ ∃ a, bazaar.Assigns .standard p a) ∧
        List.Forall₂ (fun p route => ∃ a, bazaar.Assigns .standard p a ∧ route.Carries a) places
          (bazaar.routes .standard) := by
  have hplaces : bazaar.places =
      [.dashboard, .portal, .api 0 "prod" 0, .frontend 0 "dev", .api 0 "dev" 0, .host 1] := by
    decide
  have hids : (bazaar.environments.map (·.id)).Nodup := by decide
  exact ⟨hplaces, hids, one_route_for_each_place hids .standard⟩

end Registry

end EdgeProxy
