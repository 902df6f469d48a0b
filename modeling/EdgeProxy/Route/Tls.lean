import EdgeProxy.Registry.Validity
import EdgeProxy.Route.Basic
/-!
How the proxy obtains certificates: wildcard certificates by way of the provider, or one for each
hostname.  The two are never mixed.
-/

namespace EdgeProxy

/-- How certificates are obtained. -/
inductive TlsPolicy where
  /-- Certificates for patterns; the proxy reads the provider token from a variable. -/
  | wildcard (patterns : List String) (tokenVariable : String)
  /-- One certificate per hostname. -/
  | perHost (hostnames : List String)
deriving DecidableEq, Repr

namespace TlsPolicy

def strategy : TlsPolicy → String
  | wildcard .. => "wildcard"
  | perHost _ => "per_host"

def subjects : TlsPolicy → List String
  | wildcard patterns _ => patterns
  | perHost hostnames => hostnames

/-- Whether the policy is the one by way of the provider. -/
def isWildcard : TlsPolicy → Bool
  | wildcard .. => true
  | perHost _ => false

/-- The policy in short. -/
def summary (policy : TlsPolicy) : Json :=
  .obj [("strategy", .str policy.strategy), ("subjects", .texts policy.subjects)]

/-- The issuer that proves ownership through the provider. -/
def providerIssuer (tokenVariable : String) : Json :=
  .obj [("module", .str "acme"), ("challenges", .obj [("dns", .obj [("provider",
    .obj [("name", .str "cloudflare"),
      ("api_token", .str (placeholder ("env." ++ tokenVariable)))])])])]

/-- The automation of certificates for subjects by one issuer. -/
def automation (subjects : List String) (issuer : Json) : Json :=
  .obj [("policies", .arr [.obj [("subjects", .texts subjects), ("issuers", .arr [issuer])]])]

/-- The part of the proxy's document on certificates. -/
def toJson : TlsPolicy → Json
  | wildcard patterns tokenVariable =>
    .obj [("certificates", .obj [("automate", .texts patterns)]),
      ("automation", automation patterns (providerIssuer tokenVariable))]
  | perHost [] => .obj []
  | perHost hostnames =>
    .obj [("automation", automation hostnames (.obj [("module", .str "acme")]))]

/-- What the server is told about certificates. -/
def automaticHttps : TlsPolicy → Fields
  | wildcard .. => [("prefer_wildcard", .bool true)]
  | perHost _ => []

end TlsPolicy

/-- The pattern that covers one label below labels and a base domain. -/
def wildcardBelow (labels base : String) : String := "*." ++ labels ++ "." ++ base

namespace Registry

/-- Patterns that cover the names of every environment, in order. -/
def wildcardPatterns (r : Registry) : List String :=
  if r.baseDomain.isEmpty then []
  else
    sortTexts (("*." ++ r.baseDomain) ::
      r.environments.flatMap fun e =>
        ([e.frontendPrefix, e.apiPrefix].filter (!·.isEmpty)).map fun labels =>
          wildcardBelow labels r.baseDomain).eraseDups

/-- The patterns that are asked for: the stored ones, or else those that cover every name. -/
def requestedPatterns (r : Registry) : List String :=
  if r.provider.domains.isEmpty then r.wildcardPatterns else r.provider.domains

/-- How the certificates of routes are obtained. -/
def tlsPolicy (r : Registry) (routes : List Route) (hasToken : Bool) (tokenVariable : String) :
    TlsPolicy :=
  if r.provider.enabled && hasToken && !r.requestedPatterns.isEmpty then
    .wildcard r.requestedPatterns tokenVariable
  else .perHost (routes.map (·.domain)).eraseDups

end Registry

end EdgeProxy
