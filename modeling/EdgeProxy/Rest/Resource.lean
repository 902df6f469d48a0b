import EdgeProxy.Operation.Run
/-!
Resources of the REST interface: which path is which resource, and what a method does to it.
-/

namespace EdgeProxy.Rest

inductive Resource where
  | health
  | check
  | config
  | domain
  | hosts
  | host (id : String)
  | hostSwitch (id : String)
  | environments
  | environment (id : String)
  | applications
  | application (id : String)
  | applicationSwitch (id : String)
  | provider
  | status
  | reload
  | certificates
  | renewal
  | systemRoute
  | compiled
  /-- A file beside the interface. -/
  | asset
deriving DecidableEq, Repr

/-- What a request asks for. -/
inductive Action where
  | operation (op : Operation)
  | health
  | check
  /-- A file; there are none. -/
  | file

namespace Resource

/-- The resource below the part of the interface that is about the registry. -/
def ofRegistryPath : List String → Option Resource
  | ["config"] => some config
  | ["config", "domain"] => some domain
  | ["hosts"] => some hosts
  | ["hosts", id] => if id.isEmpty then none else some (host id)
  | ["hosts", id, "toggle"] => if id.isEmpty then none else some (hostSwitch id)
  | ["environments"] => some environments
  | ["environments", id] => if id.isEmpty then none else some (environment id)
  | ["applications"] => some applications
  | ["applications", id] => if id.isEmpty then none else some (application id)
  | ["applications", id, "toggle"] => if id.isEmpty then none else some (applicationSwitch id)
  | ["cloudflare"] => some provider
  | ["status"] => some status
  | ["reload"] => some reload
  | ["certificates", "status"] => some certificates
  | ["certificates", "renew"] => some renewal
  | ["system-route"] => some systemRoute
  | ["compiled"] => some compiled
  | _ => none

def ofPath : List String → Option Resource
  | "api" :: "reverseproxy" :: rest => ofRegistryPath rest
  | ["api", "health"] => some health
  | ["api", "config", "check"] => some check
  | "static" :: name :: _ => if name.isEmpty then none else some asset
  | _ => none

/-- What a method does to a resource, given the fields of the request's body. -/
def action (r : Resource) (method : String) (body : Fields) : Option Action :=
  match r, method with
  | health, "GET" => some .health
  | check, "GET" => some .check
  | config, "GET" => some (.operation .showConfig)
  | domain, "PUT" => some (.operation (.setBaseDomain (body.valueOf "baseDomain")))
  | hosts, "GET" => some (.operation .listHosts)
  | hosts, "POST" => some (.operation (.addHost (.obj body)))
  | host id, "PUT" => some (.operation (.updateHost id (.obj body)))
  | host id, "DELETE" => some (.operation (.deleteHost id))
  | hostSwitch id, "POST" => some (.operation (.toggleHost id (body.valueOf "enabled")))
  | environments, "GET" => some (.operation .listEnvironments)
  | environments, "POST" => some (.operation (.addEnvironment (.obj body)))
  | environment id, "PUT" => some (.operation (.updateEnvironment id (.obj body)))
  | environment id, "DELETE" => some (.operation (.deleteEnvironment id))
  | applications, "GET" => some (.operation .listApplications)
  | applications, "POST" => some (.operation (.addApplication (.obj body)))
  | application id, "PUT" => some (.operation (.updateApplication id (.obj body)))
  | application id, "DELETE" => some (.operation (.deleteApplication id))
  | applicationSwitch id, "POST" =>
    some (.operation (.toggleApplication id (body.valueOf "enabled")))
  | provider, "GET" => some (.operation .showProvider)
  | provider, "PUT" => some (.operation (.switchProvider (.obj body)))
  | status, "GET" => some (.operation .showStatus)
  | reload, "POST" => some (.operation .reload)
  | certificates, "GET" => some (.operation .showCertificates)
  | renewal, "POST" => some (.operation .renew)
  | systemRoute, "GET" => some (.operation .showSystemRoute)
  | compiled, "GET" => some (.operation .preview)
  | asset, "GET" => some .file
  | _, _ => none

/-- Whether a method uses the body of the request. -/
def readsBody (r : Resource) (method : String) : Bool :=
  match r, method with
  | domain, "PUT" | hosts, "POST" | host _, "PUT" | hostSwitch _, "POST"
  | environments, "POST" | environment _, "PUT" | applications, "POST"
  | application _, "PUT" | applicationSwitch _, "POST" | provider, "PUT" => true
  | _, _ => false

/-- Whether a method does something to a resource. -/
def accepts (r : Resource) (method : String) : Bool := (r.action method []).isSome

end Resource

end EdgeProxy.Rest
