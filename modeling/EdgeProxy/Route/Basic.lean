import EdgeProxy.Registry.Target
import EdgeProxy.Route.Handler
import EdgeProxy.Route.Login
import EdgeProxy.Settings.Basic
import EdgeProxy.Text.Search
/-!
Routes.  The registry is compiled to one route per name: the system routes, the endpoints of the
enabled applications, the enabled hosts.  Every route adds security headers, turns away callers from
outside if it is local, asks the authentication service if it is guarded, and passes the request on.
-/

namespace EdgeProxy

/-- A route for one hostname. -/
structure Route where
  ruleId : String
  domain : String
  backend : String
  requireAuth : Bool
  localOnly : Bool
  system : Bool
  handlers : List Handler

namespace Route

/-- Who may frame the pages of a route: its own site and the sites of the base domain. -/
def framePolicy (base : String) : String :=
  "frame-ancestors 'self'" ++
    if base.isEmpty then "" else " https://" ++ base ++ " https://*." ++ base

/-- Whether an environment is one for development, where web sockets are let through. -/
def isDevelopment (environment : Option String) : Bool :=
  environment.any fun id => Text.contains (Text.lower id) "dev"

/-- Where a caller returns to after the login: the page asked for, without its query. -/
def returnAddress : String :=
  "https://" ++ placeholder "http.request.host" ++ placeholder "http.request.uri.path"

/-- The handler that asks the authentication service. -/
def authenticate (settings : Settings) (base : String) : Handler :=
  .authenticate settings.authBackend settings.forwardAuthPath (loginUrl base returnAddress)

/-- Web sockets of a development environment pass without authentication. -/
def webSocketBranches (backend : String) (environment : Option String) : List Branch :=
  if isDevelopment environment then [.mk .webSocket [.forward backend] true] else []

/-- A backend behind the authentication service. -/
def guarded (settings : Settings) (base backend : String) (environment : Option String) :
    Handler :=
  .subroute (webSocketBranches backend environment ++
    [.mk .always [authenticate settings base, .forward backend] false])

/-- Handlers for callers from private networks only. -/
def restricted (inner : Handler) : Handler :=
  .subroute [.mk (.callerIn privateRanges) [inner] true, .mk .always [.respond 403] true]

/-- The handlers of a route. -/
def chain (settings : Settings) (base backend : String) (requireAuth localOnly : Bool)
    (environment : Option String) : List Handler :=
  let inner :=
    if requireAuth then guarded settings base backend environment else .forward backend
  [.secure (framePolicy base), if localOnly then restricted inner else inner]

/-- A route with its handlers. -/
def make (settings : Settings) (base ruleId domain backend : String)
    (requireAuth localOnly system : Bool) (environment : Option String) : Route :=
  ⟨ruleId, domain, backend, requireAuth, localOnly, system,
    chain settings base backend requireAuth localOnly environment⟩

def systemBackend (settings : Settings) (ruleId : String) : String :=
  if ruleId == dashboardRule then settings.dashboardBackend else settings.authBackend

def ofTarget (settings : Settings) (base : String) (t : Target) : Route :=
  make settings base t.ruleId t.domain t.backend.address t.backend.requireAuth
    t.backend.localOnly false (t.environment.map (·.id))

def systemRoutes (settings : Settings) (base : String) : List Route :=
  (systemDomains base).map fun (ruleId, domain) =>
    make settings base ruleId domain (systemBackend settings ruleId) false false true none

/-- The rule in the proxy's document. -/
def toJson (route : Route) : Json :=
  .obj [("@id", .str route.ruleId), ("match", .arr [.obj [("host", .texts [route.domain])]]),
    ("handle", .arr (handlersJson route.handlers)), ("terminal", .bool true)]

/-- The route in a list of routes. -/
def summary (route : Route) : Json :=
  .obj [("id", .str route.ruleId), ("domain", .str route.domain),
    ("upstream", .str route.backend), ("requireAuth", .bool route.requireAuth),
    ("localOnly", .bool route.localOnly), ("system", .bool route.system)]

end Route

/-- The routes of a registry, in order. -/
def Registry.routes (r : Registry) (settings : Settings) : List Route :=
  Route.systemRoutes settings r.baseDomain ++
    r.targets.map (Route.ofTarget settings r.baseDomain)

end EdgeProxy
