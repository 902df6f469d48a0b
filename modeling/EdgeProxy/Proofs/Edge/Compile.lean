import EdgeProxy.Proofs.Edge.Handler
import EdgeProxy.Proofs.Operation.Valid
import EdgeProxy.Proofs.Registry.Targets
import EdgeProxy.Route.Config
/-!
The compiled document serves every request as the registry declares.
-/

namespace EdgeProxy

open Edge

variable {visit : Visit} {next : Option Outcome}

/-- Whether a route is for the host that a request asks for. -/
def Route.isFor (visit : Visit) (route : Route) : Bool := sameText route.domain visit.host

/-- What comes of a request for a route. -/
def Route.outcome? (visit : Visit) (route : Route) : Option Outcome :=
  Edge.handlers visit (some .nothing) (handlersJson route.handlers)

theorem Edge.rules_route (route : Route) (rest : List Json) :
    rules visit next (route.toJson :: rest) =
      if route.isFor visit then route.outcome? visit else rules visit next rest := by
  have hfits : ruleFits? visit [("@id", .str route.ruleId),
      ("match", .arr [.obj [("host", .texts [route.domain])]]),
      ("handle", .arr (handlersJson route.handlers)), ("terminal", .bool true)] =
        some (route.isFor visit) := by
    simp [ruleFits?, Fields.has, Fields.get?, Fields.listed, Fields.valueOf, Json.items, anyFits?,
      setFits?, matcherFits?, Json.fields, Json.texts, isNameOf, Route.isFor]
  rw [Route.toJson, rules]
  simp only [hfits]
  cases hfor : route.isFor visit with
  | false => rfl
  | true => simp [Fields.get?, Fields.listed, Fields.valueOf, Json.items, Route.outcome?]

/-- The first route for the host serves. -/
theorem Edge.rules_routes (routes : List Route) :
    rules visit next (routes.map Route.toJson) =
      match routes.find? (·.isFor visit) with
      | some route => route.outcome? visit
      | none => next := by
  induction routes with
  | nil =>
      rw [List.map_nil, rules]
      rfl
  | cons route rest ih =>
      rw [List.map_cons, rules_route, ih, List.find?_cons]
      cases route.isFor visit <;> rfl

theorem Edge.serve_compile (r : Registry) (settings : Settings) (visit : Visit) :
    serve settings.serverName (r.compile settings).toJson visit =
      rules visit (some .nothing) ((r.routes settings).map Route.toJson) := by
  have hserver : (Fields.get? (r.compile settings).serverFields "routes") =
      some (.arr ((r.routes settings).map Route.toJson)) := by
    simp [EdgeConfig.serverFields, Registry.compile, Fields.get?]
  have hname : (r.compile settings).serverName = settings.serverName := rfl
  rw [serve]
  congr 1
  simp [valueAt, EdgeConfig.toJson, Fields.valueOf, Fields.get?, Json.fields, Json.items, hname,
    hserver]

namespace Registry

variable {r : Registry} {settings : Settings}

/-- The named backends are those of the targets. -/
theorem named_iff {name : String} {backend : Backend} {environment : Option Environment} :
    r.Named name backend environment ↔ ∃ t ∈ r.targets,
      t.domain = name ∧ t.backend = backend ∧ t.environment = environment := by
  constructor
  · intro h
    cases h with
    | @frontend app e set endpoint happ henabled he hset hfrontend hbase =>
        have hendpoint : (.frontend, endpoint.toBackend) ∈ set.endpoints :=
          EndpointSet.mem_endpoints.mpr (Or.inl ⟨endpoint, hfrontend, rfl, rfl⟩)
        have hmem := Application.mem_endpointsIn.mpr ⟨he, set, hset, hendpoint⟩
        exact ⟨_, mem_targets.mpr (Or.inl ⟨hbase, app, happ, henabled, e, _, _, hmem, rfl⟩),
          rfl, rfl, rfl⟩
    | @api app e set api happ henabled he hset hapi hbase =>
        have hendpoint : (.api api.slug, api.toBackend) ∈ set.endpoints :=
          EndpointSet.mem_endpoints.mpr (Or.inr ⟨api, hapi, rfl, rfl⟩)
        have hmem := Application.mem_endpointsIn.mpr ⟨he, set, hset, hendpoint⟩
        exact ⟨_, mem_targets.mpr (Or.inl ⟨hbase, app, happ, henabled, e, _, _, hmem, rfl⟩),
          rfl, rfl, rfl⟩
    | @host h hhost henabled hname =>
        have hnamed : h.isNamed r.baseDomain = true := by simpa [Host.isNamed] using hname
        exact ⟨_, mem_targets.mpr (Or.inr ⟨h, hhost, henabled, hnamed, rfl⟩), rfl, rfl, rfl⟩
  · rintro ⟨t, ht, rfl, rfl, rfl⟩
    rcases mem_targets.mp ht with
      ⟨hbase, app, happ, henabled, e, kind, backend, hmem, rfl⟩ | ⟨h, hhost, henabled, hnamed, rfl⟩
    · obtain ⟨he, set, hset, hendpoint⟩ := Application.mem_endpointsIn.mp hmem
      rcases EndpointSet.mem_endpoints.mp hendpoint with
        ⟨endpoint, hfrontend, rfl, rfl⟩ | ⟨api, hapi, rfl, rfl⟩
      · exact .frontend happ henabled he hset hfrontend hbase
      · exact .api happ henabled he hset hapi hbase
    · exact .host hhost henabled (by simpa [Host.isNamed] using hnamed)

end Registry

namespace Route

def dashboard (settings : Settings) (base : String) : Route :=
  make settings base dashboardRule ("proxy." ++ base) settings.dashboardBackend false false true none

def portal (settings : Settings) (base : String) : Route :=
  make settings base portalRule ("auth." ++ base) settings.authBackend false false true none

theorem mem_systemRoutes {settings : Settings} {base : String} {route : Route} :
    route ∈ systemRoutes settings base ↔
      base ≠ "" ∧ (route = dashboard settings base ∨ route = portal settings base) := by
  by_cases hbase : base = ""
  · simp [systemRoutes, systemDomains, hbase]
  · have hportal : portalRule ≠ dashboardRule := by decide
    simp [systemRoutes, systemDomains, hbase, systemBackend, hportal, dashboard, portal]

theorem outcome?_open {route : Route} {policy address : String}
    (h : route.handlers = [.secure policy, .forward address]) :
    route.outcome? visit = some (.relay ⟨address, none⟩) := by
  rw [outcome?, h, handlersJson, handlersJson, handlers_secure, handlers_forward]

theorem outcome?_dashboard (settings : Settings) (base : String) :
    (dashboard settings base).outcome? visit = some (.relay ⟨settings.dashboardBackend, none⟩) :=
  outcome?_open rfl

theorem outcome?_portal (settings : Settings) (base : String) :
    (portal settings base).outcome? visit = some (.relay ⟨settings.authBackend, none⟩) :=
  outcome?_open rfl

theorem outcome?_target (visit : Visit) (settings : Settings) (base : String) (t : Target) :
    ∃ o, (ofTarget settings base t).outcome? visit = some o ∧
      Serves settings base visit t.backend t.environment o :=
  handlers_chain t.environment

theorem isFor_iff (route : Route) :
    route.isFor visit = true ↔ Text.lower route.domain = Text.lower visit.host := by
  rw [isFor, sameText, beq_iff_eq]

theorem isFor_dashboard_iff (settings : Settings) (base : String) :
    (dashboard settings base).isFor visit = true ↔
      Text.lower ("proxy." ++ base) = Text.lower visit.host :=
  isFor_iff _

theorem isFor_portal_iff (settings : Settings) (base : String) :
    (portal settings base).isFor visit = true ↔
      Text.lower ("auth." ++ base) = Text.lower visit.host :=
  isFor_iff _

theorem isFor_ofTarget_iff (settings : Settings) (base : String) (t : Target) :
    (ofTarget settings base t).isFor visit = true ↔ Text.lower t.domain = Text.lower visit.host :=
  isFor_iff _

end Route

theorem Edge.Guarded.unique {settings : Settings} {base : String} {backend : Backend}
    {o o' : Outcome} (h : Guarded settings base visit backend o)
    (h' : Guarded settings base visit backend o') : o = o' := by
  cases h <;> cases h' <;> first | rfl | contradiction | omega

theorem Edge.Serves.unique {settings : Settings} {base : String} {backend : Backend}
    {environment : Option Environment} {o o' : Outcome}
    (h : Serves settings base visit backend environment o)
    (h' : Serves settings base visit backend environment o') : o = o' := by
  cases h with
  | outside hlocal hclient =>
      cases h' with
      | outside => rfl
      | free hlocal' => exact absurd (hlocal' hlocal) hclient
      | webSocket hlocal' => exact absurd (hlocal' hlocal) hclient
      | guarded hlocal' => exact absurd (hlocal' hlocal) hclient
  | free hlocal hauth =>
      cases h' with
      | outside hlocal' hclient => exact absurd (hlocal hlocal') hclient
      | free => rfl
      | webSocket _ hauth' => exact absurd (hauth.symm.trans hauth') Bool.false_ne_true
      | guarded _ hauth' => exact absurd (hauth.symm.trans hauth') Bool.false_ne_true
  | webSocket hlocal hauth hdevelopment hsocket =>
      cases h' with
      | outside hlocal' hclient => exact absurd (hlocal hlocal') hclient
      | free _ hauth' => exact absurd (hauth'.symm.trans hauth) Bool.false_ne_true
      | webSocket => rfl
      | guarded _ _ hnot => exact absurd ⟨hdevelopment, hsocket⟩ hnot
  | guarded hlocal hauth hnot hguarded =>
      cases h' with
      | outside hlocal' hclient => exact absurd (hlocal hlocal') hclient
      | free _ hauth' => exact absurd (hauth'.symm.trans hauth) Bool.false_ne_true
      | webSocket _ _ hdevelopment hsocket => exact absurd ⟨hdevelopment, hsocket⟩ hnot
      | guarded _ _ _ hguarded' => exact hguarded.unique hguarded'

namespace Registry

variable {r : Registry} {settings : Settings}

theorem mem_routes {route : Route} :
    route ∈ r.routes settings ↔
      (r.baseDomain ≠ "" ∧
        (route = .dashboard settings r.baseDomain ∨ route = .portal settings r.baseDomain)) ∨
      ∃ t ∈ r.targets, route = .ofTarget settings r.baseDomain t := by
  rw [routes, List.mem_append, Route.mem_systemRoutes, List.mem_map]
  simp only [eq_comm]

/-- What is declared is what comes of a route for the host, or nothing if there is none. -/
theorem Declares.routed {o : Outcome} (h : r.Declares settings visit o) :
    (∃ route ∈ r.routes settings, route.isFor visit = true ∧ route.outcome? visit = some o) ∨
      (∀ route ∈ r.routes settings, ¬ route.isFor visit = true) ∧ o = .nothing := by
  cases h with
  | dashboard hbase hhost =>
      exact Or.inl ⟨.dashboard settings r.baseDomain, mem_routes.mpr (Or.inl ⟨hbase, Or.inl rfl⟩),
        (Route.isFor_dashboard_iff _ _).mpr hhost, Route.outcome?_dashboard _ _⟩
  | portal hbase hhost =>
      exact Or.inl ⟨.portal settings r.baseDomain, mem_routes.mpr (Or.inl ⟨hbase, Or.inr rfl⟩),
        (Route.isFor_portal_iff _ _).mpr hhost, Route.outcome?_portal _ _⟩
  | backend hnamed hhost hserves =>
      obtain ⟨t, ht, rfl, rfl, rfl⟩ := named_iff.mp hnamed
      obtain ⟨o', ho', hserves'⟩ := Route.outcome?_target visit settings r.baseDomain t
      obtain rfl := hserves.unique hserves'
      exact Or.inl ⟨.ofTarget settings r.baseDomain t, mem_routes.mpr (Or.inr ⟨t, ht, rfl⟩),
        (Route.isFor_ofTarget_iff _ _ _).mpr hhost, ho'⟩
  | unrouted hsystem hnamed =>
      refine Or.inr ⟨?_, rfl⟩
      intro route hroute hfor
      rcases mem_routes.mp hroute with ⟨hbase, rfl | rfl⟩ | ⟨t, ht, rfl⟩
      · exact (hsystem hbase).1 ((Route.isFor_dashboard_iff _ _).mp hfor)
      · exact (hsystem hbase).2 ((Route.isFor_portal_iff _ _).mp hfor)
      · have hname := named_iff.mpr ⟨t, ht, rfl, rfl, rfl⟩
        exact hnamed _ _ _ hname ((Route.isFor_ofTarget_iff _ _ _).mp hfor)

/-- What comes of a route for the host is declared. -/
theorem declares_of_route {route : Route} (hroute : route ∈ r.routes settings)
    (hfor : route.isFor visit = true) :
    ∃ o, route.outcome? visit = some o ∧ r.Declares settings visit o := by
  rcases mem_routes.mp hroute with ⟨hbase, rfl | rfl⟩ | ⟨t, ht, rfl⟩
  · exact ⟨_, Route.outcome?_dashboard _ _,
      .dashboard hbase ((Route.isFor_dashboard_iff _ _).mp hfor)⟩
  · exact ⟨_, Route.outcome?_portal _ _, .portal hbase ((Route.isFor_portal_iff _ _).mp hfor)⟩
  · obtain ⟨o, ho, hserves⟩ := Route.outcome?_target visit settings r.baseDomain t
    exact ⟨o, ho, .backend (named_iff.mpr ⟨t, ht, rfl, rfl, rfl⟩)
      ((Route.isFor_ofTarget_iff _ _ _).mp hfor) hserves⟩

/-- Without a route for the host nothing is declared. -/
theorem declares_nothing (h : ∀ route ∈ r.routes settings, ¬ route.isFor visit = true) :
    r.Declares settings visit .nothing := by
  refine .unrouted (fun hbase => ⟨fun hhost => ?_, fun hhost => ?_⟩)
    fun name backend environment hnamed hhost => ?_
  · exact h _ (mem_routes.mpr (Or.inl ⟨hbase, Or.inl rfl⟩))
      ((Route.isFor_dashboard_iff _ _).mpr hhost)
  · exact h _ (mem_routes.mpr (Or.inl ⟨hbase, Or.inr rfl⟩))
      ((Route.isFor_portal_iff _ _).mpr hhost)
  · obtain ⟨t, ht, rfl, rfl, rfl⟩ := named_iff.mp hnamed
    exact h _ (mem_routes.mpr (Or.inr ⟨t, ht, rfl⟩)) ((Route.isFor_ofTarget_iff _ _ _).mpr hhost)

/-- Two routes of a valid registry are not for the same host. -/
theorem Valid.route_unique (h : r.Valid) {route route' : Route} (hroute : route ∈ r.routes settings)
    (hroute' : route' ∈ r.routes settings) (hfor : route.isFor visit = true)
    (hfor' : route'.isFor visit = true) : route = route' := by
  have hnames := (h.inOrder settings).names
  have hsublist := ((h.inOrder settings).routes.map Text.lower)
  have hnodup : (((r.routes settings).map Route.domain).map Text.lower).Nodup :=
    hnames.sublist hsublist
  rw [List.map_map] at hnodup
  apply List.inj_on_of_nodup_map hnodup hroute hroute'
  exact ((Route.isFor_iff _).mp hfor).trans ((Route.isFor_iff _).mp hfor').symm

/-- The compiled document serves every request exactly as the registry declares. -/
theorem served_as_declared (hvalid : r.violations = []) (settings : Settings) (visit : Visit) :
    ∃ o, serve settings.serverName (r.compile settings).toJson visit = some o ∧
      ∀ o', r.Declares settings visit o' ↔ o' = o := by
  have hr : r.Valid := (violations_eq_nil_iff r).mp hvalid
  rw [serve_compile, rules_routes]
  cases hfind : (r.routes settings).find? (·.isFor visit) with
  | some route =>
      have hroute : route ∈ r.routes settings := List.mem_of_find?_eq_some hfind
      have hfor : route.isFor visit = true := List.find?_some hfind
      obtain ⟨o, ho, hdeclares⟩ := declares_of_route hroute hfor
      refine ⟨o, ho, fun o' => ⟨fun h => ?_, fun h => h ▸ hdeclares⟩⟩
      rcases h.routed with ⟨route', hroute', hfor', ho'⟩ | ⟨hnone, -⟩
      · rw [hr.route_unique hroute' hroute hfor' hfor, ho] at ho'
        exact (Option.some.inj ho').symm
      · exact absurd hfor (hnone route hroute)
  | none =>
      have hnone := List.find?_eq_none.mp hfind
      refine ⟨.nothing, rfl, fun o' => ⟨fun h => ?_, fun h => h ▸ declares_nothing hnone⟩⟩
      rcases h.routed with ⟨route', hroute', hfor', -⟩ | ⟨-, ho'⟩
      · exact absurd hfor' (hnone route' hroute')
      · exact ho'

/-- One application, guarded and local, in a development environment. -/
def workshop : Registry :=
  { initial with
    baseDomain := "example.org"
    applications := [⟨"a", "Shop", "shop", true, "",
      [("dev", ⟨some ⟨⟨"10.0.0.7", ⟨5173, by decide, by decide⟩, true, true⟩, []⟩, [], []⟩)], []⟩] }

theorem workshop_served_as_declared :
    workshop.violations = [] ∧
      ∃ o, serve Settings.standard.serverName (workshop.compile .standard).toJson
          ⟨"shop.dev.example.org", .v4 10 0 0 2, [("Upgrade", "websocket")],
            fun _ => ⟨401, [], by decide⟩⟩ = some o ∧
        ∀ o', workshop.Declares .standard
          ⟨"shop.dev.example.org", .v4 10 0 0 2, [("Upgrade", "websocket")],
            fun _ => ⟨401, [], by decide⟩⟩ o' ↔ o' = o := by
  have hvalid : workshop.Valid := {
    environments := by decide
    defaults := by decide
    slugs := by decide
    hosts := by simp [workshop, initial]
    names := by decide }
  have hviolations := (violations_eq_nil_iff _).mpr hvalid
  exact ⟨hviolations, served_as_declared hviolations _ _⟩

end Registry

end EdgeProxy
