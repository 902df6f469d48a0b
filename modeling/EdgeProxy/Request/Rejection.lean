import EdgeProxy.Fault
import EdgeProxy.Registry.Validity
/-!
Why a change is turned down.
-/

namespace EdgeProxy

/-- Why a change is turned down. -/
inductive Rejection where
  | noBaseDomain
  | domainFormat
  | subdomainFormat
  | subdomainReserved (label : String)
  | customDomainFormat
  | slugFormat
  | slugReserved (label : String)
  | prefixNotText (field : String)
  | prefixMissing (field : String)
  | prefixFormat (field : String)
  | port (subject : String)
  | targetHostMissing (subject : String)
  | endpointShape (subject : String)
  | apiShape (subject : String)
  | endpointsShape (environment : String)
  | duplicateApiSlug (subject : String)
  | noEndpoint (environment : String)
  | hostTargetMissing
  | hostTargetHostMissing
  | twoHostNames
  | noHostName
  | hostUnknown
  | environmentFieldsMissing
  | environmentNameMissing
  | environmentExists
  | environmentUnknown
  /-- The environment is used by a number of applications. -/
  | environmentInUse (applications : Nat)
  | applicationFieldsMissing
  | applicationEndpointsMissing
  | applicationExists
  | applicationEnvironmentsUnknown
  | applicationUnknown
  | providerFlagMissing
  /-- The variable that would hold the token is not set. -/
  | tokenMissing (tokenVariable : String)
  | providerBaseDomainMissing
  | violation (what : Violation)
deriving DecidableEq, Repr

namespace Rejection

/-- The reason as reported. -/
def text : Rejection → String
  | noBaseDomain => "Invalid base domain"
  | domainFormat => "Invalid domain format"
  | subdomainFormat => "Invalid subdomain format"
  | subdomainReserved label => "Subdomain '" ++ label ++ "' is reserved"
  | customDomainFormat => "Invalid custom domain format"
  | slugFormat => "Invalid slug format"
  | slugReserved label => "Slug '" ++ label ++ "' is reserved"
  | prefixNotText field => field ++ " must be a string"
  | prefixMissing field => field ++ " is required"
  | prefixFormat field => "Invalid " ++ field ++ " format"
  | port subject => "Invalid " ++ subject ++ " number"
  | targetHostMissing subject => "Target host is required for " ++ subject
  | endpointShape subject => "Invalid endpoint for " ++ subject
  | apiShape subject => "Invalid API endpoint for " ++ subject
  | endpointsShape environment => "Invalid endpoints for environment " ++ environment
  | duplicateApiSlug subject => "Duplicate API slug in " ++ subject
  | noEndpoint environment => "At least one endpoint is required for environment " ++ environment
  | hostTargetMissing => "Target host and port are required"
  | hostTargetHostMissing => "Target host is required"
  | twoHostNames => "Specify either a subdomain or a custom domain, not both"
  | noHostName => "Subdomain or custom domain is required"
  | hostUnknown => "Host not found"
  | environmentFieldsMissing => "Name, prefix and apiPrefix are required"
  | environmentNameMissing => "Name is required"
  | environmentExists => "Environment with this name already exists"
  | environmentUnknown => "Environment not found"
  | environmentInUse applications => "Cannot delete: " ++ Text.decimal applications ++
      " application(s) use this environment"
  | applicationFieldsMissing => "Name and slug are required"
  | applicationEndpointsMissing => "At least one environment endpoint is required"
  | applicationExists => "Application with this slug already exists"
  | applicationEnvironmentsUnknown => "No valid environment endpoints provided"
  | applicationUnknown => "Application not found"
  | providerFlagMissing => "'enabled' must be true or false"
  | tokenMissing tokenVariable =>
    "Cloudflare API token is not configured (set " ++ tokenVariable ++ ")"
  | providerBaseDomainMissing => "Set a base domain before enabling wildcard certificates"
  | violation what => what.text

/-- How many applications stand in the way of a change. -/
def references? : Rejection → Option Nat
  | environmentInUse applications => some applications
  | _ => none

end Rejection

/-- How a request can fail: it is turned down, or it holds a value that no rule provides for. -/
inductive RequestFailure where
  | rejected (why : Rejection)
  | fault (what : Fault)
deriving DecidableEq, Repr

/-- The result of reading or applying a request. -/
abbrev Requested (α : Type) := Except RequestFailure α

/-- Turn a request down. -/
def reject {α : Type} (why : Rejection) : Requested α := .error (.rejected why)

end EdgeProxy
