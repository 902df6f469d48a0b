import EdgeProxy.Json.Basic
/-!
The registry: everything that is routed.  It holds the base domain, the environments that give
names their middle part, the applications with their endpoints per environment, the standalone
hosts and the provider of wildcard certificates.  Every record keeps the fields of its document
that it has no meaning for.
-/

namespace EdgeProxy

/-- A TCP port that a connection can be opened to. -/
structure Port where
  number : Nat
  positive : 1 ≤ number
  bounded : number ≤ 65535
deriving DecidableEq

namespace Port

/-- The port with a number, if the number is in range. -/
def ofInt? (n : Int) : Option Port :=
  if h : 1 ≤ n.toNat ∧ n.toNat ≤ 65535 then some ⟨n.toNat, h.1, h.2⟩ else none

end Port

/-- Where a hostname is proxied to and how it is guarded. -/
structure Backend where
  targetHost : String
  targetPort : Port
  /-- Only callers from private networks are let through. -/
  localOnly : Bool
  /-- Only callers that the authentication service admits are let through. -/
  requireAuth : Bool
deriving DecidableEq

/-- The endpoint that browsers open. -/
structure Endpoint extends Backend where
  extra : Fields
deriving DecidableEq

/-- An endpoint for programs; the slug tells several of one application apart. -/
structure Api extends Backend where
  slug : String
  extra : Fields
deriving DecidableEq

/-- The endpoints of an application in one environment. -/
structure EndpointSet where
  frontend : Option Endpoint
  apis : List Api
  extra : Fields
deriving DecidableEq

/-- A naming context, such as production or development. -/
structure Environment where
  id : String
  name : String
  /-- The labels between a frontend's slug and the base domain. -/
  frontendPrefix : String
  /-- The labels between an API's slug and the base domain. -/
  apiPrefix : String
  isDefault : Bool
  extra : Fields
deriving DecidableEq

/-- An application with its endpoints per environment. -/
structure Application where
  id : String
  name : String
  slug : String
  enabled : Bool
  createdAt : String
  endpoints : List (String × EndpointSet)
  extra : Fields
deriving DecidableEq

/-- A standalone hostname with one backend. -/
structure Host extends Backend where
  id : String
  subdomain : Option String
  customDomain : Option String
  enabled : Bool
  createdAt : String
  extra : Fields
deriving DecidableEq

/-- The provider of wildcard certificates. -/
structure WildcardProvider where
  enabled : Bool
  domains : List String
  extra : Fields
deriving DecidableEq

/-- The whole registry; `version` counts the changes that were saved. -/
structure Registry where
  schemaVersion : Int
  version : Int
  baseDomain : String
  environments : List Environment
  applications : List Application
  hosts : List Host
  provider : WildcardProvider
  extra : Fields
deriving DecidableEq

/-- The layout of registry documents that is read and written. -/
def currentSchema : Int := 3

namespace WildcardProvider

/-- No wildcard certificates. -/
def off : WildcardProvider := ⟨false, [], []⟩

end WildcardProvider

namespace Environment

/-- The environments of a new registry. -/
def initial : List Environment :=
  [⟨"prod", "Production", "", "api", true, []⟩, ⟨"dev", "Development", "dev", "api.dev", false, []⟩]

end Environment

namespace EndpointSet

def inUse (set : EndpointSet) : Bool := set.frontend.isSome || !set.apis.isEmpty

end EndpointSet

namespace Application

def endpointSet? (app : Application) (environment : String) : Option EndpointSet :=
  app.endpoints.lookup environment

end Application

namespace Registry

/-- The registry before anything is stored. -/
def initial : Registry := ⟨currentSchema, 0, "", Environment.initial, [], [], .off, []⟩

/-- The first environment with an id. -/
def environment? (r : Registry) (id : String) : Option Environment :=
  r.environments.find? (·.id == id)

/-- The first application with an id. -/
def application? (r : Registry) (id : String) : Option Application :=
  r.applications.find? (·.id == id)

/-- The first host with an id. -/
def host? (r : Registry) (id : String) : Option Host := r.hosts.find? (·.id == id)

/-- The environment marked as default, or else the first one. -/
def defaultEnvironment? (r : Registry) : Option Environment :=
  match r.environments.find? (·.isDefault) with
  | some e => some e
  | none => r.environments.head?

/-- The applications with endpoints for an environment. -/
def applicationsUsing (r : Registry) (environment : String) : List Application :=
  r.applications.filter fun app => (app.endpointSet? environment).isSome

end Registry

end EdgeProxy
