import EdgeProxy.Registry.Basic
import EdgeProxy.Registry.Scalar
import EdgeProxy.Registry.Supply
/-!
Reading a registry from a document of the current layout.  A field may be spelled with capitals or
with underscores; the spelling with capitals has precedence.  Hosts and applications without an
identifier or a time of creation are given them first, in document order, applications before hosts;
what is read after that is a function of the document alone.
-/

namespace EdgeProxy

/-- The two spellings of a field. -/
structure FieldName where
  name : String
  underscored : String

namespace FieldName

/-- A field with one spelling. -/
def word (name : String) : FieldName := ⟨name, name⟩

/-- The spelling under which a field is given. -/
def spelling? (field : FieldName) (fields : Fields) : Option String :=
  if fields.has field.name then some field.name
  else if fields.has field.underscored then some field.underscored
  else none

/-- A field that has to be given. -/
def required {α : Type} (field : FieldName) (check : Json → Checked α) (fields : Fields) :
    Checked α :=
  match field.spelling? fields with
  | none => .invalid [⟨[field.name], .missing⟩]
  | some key => (check (fields.valueOf key)).under key

/-- A field with a value for when it is not given. -/
def orElse {α : Type} (field : FieldName) (check : Json → Checked α) (value : α)
    (fields : Fields) : Checked α :=
  match field.spelling? fields with
  | none => .valid value
  | some key => (check (fields.valueOf key)).under key

end FieldName

namespace Field

def id : FieldName := .word "id"
def name : FieldName := .word "name"
def slug : FieldName := .word "slug"
def enabled : FieldName := .word "enabled"
def version : FieldName := .word "version"
def frontend : FieldName := .word "frontend"
def apis : FieldName := .word "apis"
def endpoints : FieldName := .word "endpoints"
def environments : FieldName := .word "environments"
def applications : FieldName := .word "applications"
def hosts : FieldName := .word "hosts"
def provider : FieldName := .word "cloudflare"
def subdomain : FieldName := .word "subdomain"
def customDomain : FieldName := ⟨"customDomain", "custom_domain"⟩
def frontendPrefix : FieldName := .word "prefix"
def apiPrefix : FieldName := ⟨"apiPrefix", "api_prefix"⟩
def isDefault : FieldName := ⟨"isDefault", "is_default"⟩
def createdAt : FieldName := ⟨"createdAt", "created_at"⟩
def targetHost : FieldName := ⟨"targetHost", "target_host"⟩
def targetPort : FieldName := ⟨"targetPort", "target_port"⟩
def localOnly : FieldName := ⟨"localOnly", "local_only"⟩
def requireAuth : FieldName := ⟨"requireAuth", "require_auth"⟩
def schemaVersion : FieldName := ⟨"schemaVersion", "schema_version"⟩
def baseDomain : FieldName := ⟨"baseDomain", "base_domain"⟩
def wildcardDomains : FieldName := ⟨"wildcardDomains", "wildcard_domains"⟩

def backend : List FieldName := [targetHost, targetPort, localOnly, requireAuth]

def api : List FieldName := backend ++ [slug]

/-- The fields of the endpoints of one environment. -/
def endpointSet : List FieldName := [frontend, apis]

def environment : List FieldName := [id, name, frontendPrefix, apiPrefix, isDefault]

def application : List FieldName := [id, name, slug, enabled, createdAt, endpoints]

def host : List FieldName := [id, subdomain, customDomain] ++ backend ++ [enabled, createdAt]

/-- The fields of the provider of wildcard certificates. -/
def wildcardProvider : List FieldName := [enabled, wildcardDomains]

def registry : List FieldName :=
  [schemaVersion, version, baseDomain, environments, applications, hosts, provider]

/-- What is left of a document when the named fields are taken. -/
def others (names : List FieldName) (fields : Fields) : Fields :=
  fields.drop (names.filterMap (·.spelling? fields))

end Field

def Port.decode (v : Json) : Checked Port :=
  (Scalar.integer v).andThen fun n =>
    match Port.ofInt? n with
    | some p => .valid p
    | none => .fail (if n < 1 then .tooSmall else .tooLarge)

/-- The backend among the fields of a record. -/
def Backend.decode (fields : Fields) : Checked Backend :=
  Backend.mk <$> Field.targetHost.required Scalar.text fields
    <*> Field.targetPort.required Port.decode fields
    <*> Field.localOnly.orElse Scalar.flag false fields
    <*> Field.requireAuth.orElse Scalar.flag false fields

def Endpoint.decode (fields : Fields) : Checked Endpoint :=
  (fun backend => ⟨backend, Field.others Field.backend fields⟩) <$> Backend.decode fields

def Api.decode (fields : Fields) : Checked Api :=
  (fun backend slug => ⟨backend, slug, Field.others Field.api fields⟩) <$>
    Backend.decode fields <*> Field.slug.orElse Scalar.text "" fields

def EndpointSet.decode (fields : Fields) : Checked EndpointSet :=
  (fun frontend apis =>
    ⟨frontend, apis, Field.others Field.endpointSet fields⟩) <$>
    Field.frontend.orElse (Scalar.optional (Scalar.record Endpoint.decode)) none fields <*>
    Field.apis.orElse (Scalar.list (Scalar.record Api.decode)) [] fields

def Environment.decode (fields : Fields) : Checked Environment :=
  (fun id name frontendPrefix apiPrefix isDefault =>
    ⟨id, name, frontendPrefix, apiPrefix, isDefault, Field.others Field.environment fields⟩) <$>
    Field.id.required Scalar.text fields <*>
    Field.name.required Scalar.text fields <*>
    Field.frontendPrefix.orElse Scalar.text "" fields <*>
    Field.apiPrefix.orElse Scalar.text "api" fields <*>
    Field.isDefault.orElse Scalar.flag false fields

/-- An application with its identifier and time of creation. -/
def Application.decode (fields : Fields) : Checked Application :=
  (fun id name slug enabled createdAt endpoints =>
    ⟨id, name, slug, enabled, createdAt, endpoints, Field.others Field.application fields⟩) <$>
    Field.id.required Scalar.text fields <*>
    Field.name.orElse Scalar.text "" fields <*>
    Field.slug.required Scalar.text fields <*>
    Field.enabled.orElse Scalar.flag true fields <*>
    Field.createdAt.required Scalar.text fields <*>
    Field.endpoints.orElse (Scalar.map (Scalar.record EndpointSet.decode)) [] fields

/-- A host with its identifier and time of creation. -/
def Host.decode (fields : Fields) : Checked Host :=
  (fun id subdomain customDomain backend enabled createdAt =>
    ⟨backend, id, subdomain, customDomain, enabled, createdAt, Field.others Field.host fields⟩) <$>
    Field.id.required Scalar.text fields <*>
    Field.subdomain.orElse Scalar.optionalText none fields <*>
    Field.customDomain.orElse Scalar.optionalText none fields <*>
    Backend.decode fields <*>
    Field.enabled.orElse Scalar.flag true fields <*>
    Field.createdAt.required Scalar.text fields

def WildcardProvider.decode (fields : Fields) : Checked WildcardProvider :=
  (fun enabled domains =>
    ⟨enabled, domains, Field.others Field.wildcardProvider fields⟩) <$>
    Field.enabled.orElse Scalar.flag false fields <*>
    Field.wildcardDomains.orElse (Scalar.list Scalar.text) [] fields

namespace Registry

/-- Give the fields of an entity an identifier and a time of creation if they have none. -/
def markEntity (supply : Supply) (fields : Fields) : Fields × Supply :=
  let (fields, supply) :=
    match Field.id.spelling? fields with
    | some _ => (fields, supply)
    | none =>
      let (id, supply) := supply.draw
      (fields.set Field.id.name (.str id), supply)
  match Field.createdAt.spelling? fields with
  | some _ => (fields, supply)
  | none => (fields.set Field.createdAt.name (.str supply.timestamp), supply)

/-- Mark every object of a list of entities. -/
def markEntities (supply : Supply) : List Json → List Json × Supply
  | [] => ([], supply)
  | .obj fields :: rest =>
    let (fields, supply) := markEntity supply fields
    let (rest, supply) := markEntities supply rest
    (.obj fields :: rest, supply)
  | v :: rest =>
    let (rest, supply) := markEntities supply rest
    (v :: rest, supply)

/-- Mark the entities under one key of a document. -/
def markUnder (key : String) (supply : Supply) (fields : Fields) : Fields × Supply :=
  match fields.get? key with
  | some (.arr items) =>
    let (items, supply) := markEntities supply items
    (fields.set key (.arr items), supply)
  | _ => (fields, supply)

/-- Give every application and then every host of a document an identifier and a time of creation
if it has none. -/
def mark (supply : Supply) (fields : Fields) : Fields × Supply :=
  let (fields, supply) := markUnder Field.applications.name supply fields
  markUnder Field.hosts.name supply fields

/-- The registry of a document in which every entity is marked. -/
def decode (fields : Fields) : Checked Registry :=
  (fun schemaVersion version baseDomain environments applications hosts provider =>
    ⟨schemaVersion, version, baseDomain, environments, applications, hosts, provider,
      Field.others Field.registry fields⟩) <$>
    Field.schemaVersion.orElse Scalar.integer currentSchema fields <*>
    Field.version.orElse Scalar.integer 0 fields <*>
    Field.baseDomain.orElse Scalar.text "" fields <*>
    Field.environments.orElse (Scalar.list (Scalar.record Environment.decode))
      Environment.initial fields <*>
    Field.applications.orElse (Scalar.list (Scalar.record Application.decode)) [] fields <*>
    Field.hosts.orElse (Scalar.list (Scalar.record Host.decode)) [] fields <*>
    Field.provider.orElse (Scalar.record WildcardProvider.decode) .off fields

end Registry

end EdgeProxy
