import EdgeProxy.Json.Writer
import EdgeProxy.Registry.Decode
/-!
Writing a registry as a document of the current layout: the known fields in a fixed order, then the
fields that were kept.  Numbers that are not finite are kept as null.
-/

namespace EdgeProxy

/-- The fields that a record keeps, as written. -/
def kept (extra : Fields) : Fields := Json.finiteFields extra

def Backend.encode (b : Backend) : Fields :=
  [(Field.targetHost.name, .str b.targetHost), (Field.targetPort.name, .int b.targetPort.number),
    (Field.localOnly.name, .bool b.localOnly), (Field.requireAuth.name, .bool b.requireAuth)]

def Endpoint.encode (e : Endpoint) : Json := .obj (e.toBackend.encode ++ kept e.extra)

def Api.encode (a : Api) : Json :=
  .obj (a.toBackend.encode ++ [(Field.slug.name, .str a.slug)] ++ kept a.extra)

def EndpointSet.encode (set : EndpointSet) : Json :=
  .obj ([(Field.frontend.name, (set.frontend.map Endpoint.encode).getD .null),
    (Field.apis.name, .arr (set.apis.map Api.encode))] ++ kept set.extra)

def Environment.encode (e : Environment) : Json :=
  .obj ([(Field.id.name, .str e.id), (Field.name.name, .str e.name),
    (Field.frontendPrefix.name, .str e.frontendPrefix), (Field.apiPrefix.name, .str e.apiPrefix),
    (Field.isDefault.name, .bool e.isDefault)] ++ kept e.extra)

def Application.encode (a : Application) : Json :=
  .obj ([(Field.id.name, .str a.id), (Field.name.name, .str a.name), (Field.slug.name, .str a.slug),
    (Field.enabled.name, .bool a.enabled), (Field.createdAt.name, .str a.createdAt),
    (Field.endpoints.name, .obj (a.endpoints.map fun (k, set) => (k, set.encode)))] ++ kept a.extra)

def Host.encode (h : Host) : Json :=
  .obj ([(Field.id.name, .str h.id), (Field.subdomain.name, .ofText? h.subdomain),
    (Field.customDomain.name, .ofText? h.customDomain)] ++ h.toBackend.encode ++
    [(Field.enabled.name, .bool h.enabled), (Field.createdAt.name, .str h.createdAt)] ++
    kept h.extra)

def WildcardProvider.encodeFields (p : WildcardProvider) : Fields :=
  [(Field.enabled.name, .bool p.enabled), (Field.wildcardDomains.name, .texts p.domains)] ++
    kept p.extra

def WildcardProvider.encode (p : WildcardProvider) : Json := .obj p.encodeFields

def Registry.encodeFields (r : Registry) : Fields :=
  [(Field.schemaVersion.name, .int r.schemaVersion), (Field.version.name, .int r.version),
    (Field.baseDomain.name, .str r.baseDomain),
    (Field.environments.name, .arr (r.environments.map Environment.encode)),
    (Field.applications.name, .arr (r.applications.map Application.encode)),
    (Field.hosts.name, .arr (r.hosts.map Host.encode)),
    (Field.provider.name, r.provider.encode)] ++ kept r.extra

def Registry.encode (r : Registry) : Json := .obj r.encodeFields

def Registry.fileText (r : Registry) : String := r.encode.render .file ++ "\n"

end EdgeProxy
