import EdgeProxy.Registry.Basic
import EdgeProxy.Text.Digit
import EdgeProxy.Text.LowerCase
/-!
Names of what is routed.  Hosts, application endpoints and the two system routes share one name
space: `Registry.targets` lists every named endpoint and host, `Registry.collisions` the names that
are claimed more than once.

A host is named by its custom domain, or by its subdomain below the base domain; a frontend by
slug, prefix and base domain; an API by slug, its own slug, API prefix and base domain.
-/

namespace EdgeProxy

/-- What an application endpoint is. -/
inductive EndpointKind where
  | frontend
  /-- An API; the slug tells several of one application apart. -/
  | api (slug : String)
deriving DecidableEq, Repr

namespace EndpointKind

/-- The kind as shown. -/
def label : EndpointKind → String
  | frontend => "frontend"
  | api _ => "api"

def slug? : EndpointKind → Option String
  | frontend => none
  | api slug => some slug

end EndpointKind

/-- The first labels of the names that belong to the system routes. -/
def reservedLabels : List String := ["proxy", "auth"]

def dashboardRule : String := "system-dashboard"

def portalRule : String := "system-auth"

/-- A text that may be absent, as part of a name. -/
def partText : Option String → String
  | some s => s
  | none => "None"

/-- Whether an optional text is there and not empty. -/
def isGiven (s : Option String) : Bool := s.any (!·.isEmpty)

/-- The name of a host. -/
def Host.domain (h : Host) (base : String) : String :=
  if isGiven h.customDomain then Text.lower (partText h.customDomain)
  else Text.lower (partText h.subdomain ++ "." ++ base)

/-- The name of an application endpoint. -/
def Application.domain (app : Application) (kind : EndpointKind) (environment : Environment)
    (base : String) : String :=
  match kind with
  | .api slug =>
    let label := if slug.isEmpty then app.slug else app.slug ++ "-" ++ slug
    Text.lower (label ++ "." ++ environment.apiPrefix ++ "." ++ base)
  | .frontend =>
    if environment.frontendPrefix.isEmpty then Text.lower (app.slug ++ "." ++ base)
    else Text.lower (app.slug ++ "." ++ environment.frontendPrefix ++ "." ++ base)

def Application.ruleId (app : Application) (kind : EndpointKind) (environment : Environment) :
    String :=
  match kind with
  | .frontend => app.id ++ "-frontend-" ++ environment.id
  | .api slug =>
    if slug.isEmpty then app.id ++ "-api-" ++ environment.id
    else app.id ++ "-api-" ++ slug ++ "-" ++ environment.id

/-- The system routes and their names; there are none while the base domain is empty. -/
def systemDomains (base : String) : List (String × String) :=
  if base.isEmpty then [] else [(dashboardRule, "proxy." ++ base), (portalRule, "auth." ++ base)]

/-- One routable name. -/
structure Target where
  ruleId : String
  domain : String
  backend : Backend
  owner : String
  environment : Option Environment
  kind : Option EndpointKind
  enabled : Bool
deriving DecidableEq

def Backend.address (backend : Backend) : String :=
  backend.targetHost ++ ":" ++ Text.decimal backend.targetPort.number

/-- The endpoints of a set: the frontend, then the APIs in order. -/
def EndpointSet.endpoints (set : EndpointSet) : List (EndpointKind × Backend) :=
  (set.frontend.map fun e => (EndpointKind.frontend, e.toBackend)).toList ++
    set.apis.map fun a => (.api a.slug, a.toBackend)

/-- The endpoints of an application in the order of the environments; sets of other environments
are passed over. -/
def Application.endpointsIn (app : Application) (environments : List Environment) :
    List (Environment × EndpointKind × Backend) :=
  environments.flatMap fun e =>
    match app.endpointSet? e.id with
    | some set => set.endpoints.map fun (kind, backend) => (e, kind, backend)
    | none => []

namespace Application

def target (app : Application) (base : String) (e : Environment) (kind : EndpointKind)
    (backend : Backend) : Target :=
  ⟨app.ruleId kind e, app.domain kind e base, backend, app.id, some e, some kind, app.enabled⟩

def targets (app : Application) (environments : List Environment) (base : String) : List Target :=
  (app.endpointsIn environments).map fun (e, kind, backend) => app.target base e kind backend

end Application

def Host.target (h : Host) (base : String) : Target :=
  ⟨h.id, h.domain base, h.toBackend, h.id, none, none, h.enabled⟩

/-- Whether a host has a name: its own domain, or a place below the base domain. -/
def Host.isNamed (h : Host) (base : String) : Bool := isGiven h.customDomain || !base.isEmpty

/-- What can be named: a host, or an application together with an endpoint and an environment. -/
inductive Entity where
  | host (h : Host)
  | application (app : Application)

/-- What is asked of an entity. -/
inductive NameKind where
  | domain
  | ruleId
deriving DecidableEq, Repr

/-- What is said when an application is named without an endpoint or without an environment. -/
def NameKind.missingText : NameKind → String
  | domain => "application domains need an endpoint kind and an environment"
  | ruleId => "application rule ids need an endpoint kind and an environment"

namespace Entity

/-- The domain of an entity; an application has one only for an endpoint in an environment. -/
def domain? (entity : Entity) (kind : Option EndpointKind) (environment : Option Environment)
    (base : String) : Option String :=
  match entity, kind, environment with
  | host h, _, _ => some (h.domain base)
  | application app, some kind, some e => some (app.domain kind e base)
  | application _, _, _ => none

/-- The rule of an entity; an application has one only for an endpoint in an environment. -/
def ruleId? (entity : Entity) (kind : Option EndpointKind) (environment : Option Environment) :
    Option String :=
  match entity, kind, environment with
  | host h, _, _ => some h.id
  | application app, some kind, some e => some (app.ruleId kind e)
  | application _, _, _ => none

end Entity

namespace Registry

/-- Every named endpoint, then every named host, whether enabled or not. -/
def allTargets (r : Registry) : List Target :=
  (if r.baseDomain.isEmpty then []
    else r.applications.flatMap (·.targets r.environments r.baseDomain)) ++
    (r.hosts.filter (·.isNamed r.baseDomain)).map (·.target r.baseDomain)

/-- Every enabled named endpoint, then every enabled named host. -/
def targets (r : Registry) : List Target :=
  (if r.baseDomain.isEmpty then []
    else (r.applications.filter (·.enabled)).flatMap (·.targets r.environments r.baseDomain)) ++
    (r.hosts.filter fun h => h.enabled && h.isNamed r.baseDomain).map (·.target r.baseDomain)

/-- Every claim of a name, as name and rule: the system routes, then all targets. -/
def claims (r : Registry) : List (String × String) :=
  (systemDomains r.baseDomain).map (fun (rule, domain) => (Text.lower domain, rule)) ++
    r.allTargets.map fun t => (Text.lower t.domain, t.ruleId)

/-- Add a claim to the list of names and their claimants. -/
def addClaim (names : List (String × List String)) (claim : String × String) :
    List (String × List String) :=
  match names with
  | [] => [(claim.1, [claim.2])]
  | (name, rules) :: rest =>
    if name == claim.1 then (name, rules ++ [claim.2]) :: rest
    else (name, rules) :: addClaim rest claim

/-- The names and their claimants, in the order of the first claims. -/
def claimants (r : Registry) : List (String × List String) := r.claims.foldl addClaim []

/-- The names that are claimed more than once, with the rules that claim them. -/
def collisions (r : Registry) : List (String × List String) :=
  r.claimants.filter fun (_, rules) => 1 < rules.length

end Registry

end EdgeProxy
