import EdgeProxy.Change.Application
import EdgeProxy.Change.Environment
import EdgeProxy.Change.Host
import EdgeProxy.Operation.Commit
/-!
The operations on the registry, on the proxy and on the certificates, and how they run.
-/

namespace EdgeProxy

/-- An operation with its payload. -/
inductive Operation where
  | showConfig
  | setBaseDomain (value : Json)
  | listHosts
  | addHost (data : Json)
  | updateHost (id : String) (updates : Json)
  | deleteHost (id : String)
  | toggleHost (id : String) (enabled : Json)
  | listEnvironments
  | addEnvironment (data : Json)
  | updateEnvironment (id : String) (updates : Json)
  | deleteEnvironment (id : String)
  | listApplications
  | addApplication (data : Json)
  | updateApplication (id : String) (updates : Json)
  | deleteApplication (id : String)
  | toggleApplication (id : String) (enabled : Json)
  | showProvider
  | switchProvider (data : Json)
  | reload
  | renew
  | showStatus
  | showSystemRoute
  | showCertificates
  | preview

namespace World

/-- Show something of the stored registry. -/
def view (settings : Settings) (describe : Registry → Fields) (w : World) : Result × World :=
  w.withRegistry settings fun registry w => (.ok (.shown (describe registry)), w)

def setBaseDomain (settings : Settings) (value : Json) (w : World) : Result × World :=
  w.withRequest (Request.baseDomain value) fun domain w =>
    w.mutate settings (some "Base domain updated")
      (Edit.ofChange fun r => .ok (r.setBaseDomain domain, .baseDomain domain))

/-- Add a host; its identifier is drawn before the registry is read. -/
def addHost (settings : Settings) (data : Json) (w : World) : Result × World :=
  w.withRequest (Host.draft data) fun draft w =>
    let (id, supply) := w.supply.draw
    let h := Host.ofDraft draft id supply.timestamp
    { w with supply := supply }.mutate settings none
      (Edit.ofChange fun r => .ok (r.addHost h, .host h))

def updateHost (settings : Settings) (id : String) (updates : Json) (w : World) :
    Result × World :=
  w.mutate settings none (Edit.ofChange fun r =>
    (r.updateHost id updates).map fun (r, h) => (r, .host h))

def deleteHost (settings : Settings) (id : String) (w : World) : Result × World :=
  w.mutate settings (some "Host deleted") (Edit.ofChange fun r =>
    (r.deleteHost id).map fun (r, h) => (r, .host h))

/-- The payload that switches an entity on or off. -/
def switch (enabled : Json) : Json := .obj [("enabled", .bool enabled.truthy)]

def addEnvironment (settings : Settings) (data : Json) (w : World) : Result × World :=
  w.withRequest (Environment.requested data) fun e w =>
    w.mutate settings none (Edit.ofChange fun r =>
      (r.addEnvironment e).map fun r => (r, .environment e))

def updateEnvironment (settings : Settings) (id : String) (updates : Json) (w : World) :
    Result × World :=
  w.mutate settings none (Edit.ofChange fun r =>
    (r.updateEnvironment id updates).map fun (r, e) => (r, .environment e))

def deleteEnvironment (settings : Settings) (id : String) (w : World) : Result × World :=
  w.mutate settings (some "Environment deleted") (Edit.ofChange fun r =>
    (r.deleteEnvironment id).map fun (r, e) => (r, .environment e))

/-- The addition of an application, which draws an identifier once its endpoints are checked. -/
def additionOf (draft : Application.Draft) : Edit := fun supply r =>
  match r.newEndpoints draft with
  | .error e => (.error e, supply)
  | .ok endpoints =>
    let (id, supply) := supply.draw
    let app := Application.ofDraft draft endpoints id supply.timestamp
    (.ok (r.addApplication app, .application app), supply)

def addApplication (settings : Settings) (data : Json) (w : World) : Result × World :=
  w.withRequest (Application.draft data) fun draft w => w.mutate settings none (additionOf draft)

def updateApplication (settings : Settings) (id : String) (updates : Json) (w : World) :
    Result × World :=
  w.mutate settings none (Edit.ofChange fun r =>
    (r.updateApplication id updates).map fun (r, a) => (r, .application a))

def deleteApplication (settings : Settings) (id : String) (w : World) : Result × World :=
  w.mutate settings (some "Application deleted") (Edit.ofChange fun r =>
    (r.deleteApplication id).map fun (r, a) => (r, .application a))

def switchProvider (settings : Settings) (data : Json) (w : World) : Result × World :=
  w.withRequest (settings.providerSwitch data) fun enabled w =>
    w.mutate settings none (Edit.ofChange fun r =>
      (r.switchProvider enabled).map fun r => (r, .provider (r.providerView settings)))

/-- Push the stored registry again. -/
def repush (settings : Settings) (message : String) (w : World) : Result × World :=
  w.withRegistry settings fun registry w =>
    match w.apply settings registry with
    | (.error fault, w) => (.error fault, w)
    | (.ok applied, w) =>
      if applied.push.accepted then (.ok (.pushed message applied), w)
      else (.ok (.refused (.notPushed (applied.push.error.getD Answer.pushFailed))), w)

def showStatus (settings : Settings) (w : World) : Result × World :=
  let client := settings.client
  match w.exchange client.status with
  | (.error fault, w) => (.error fault, w)
  | (.ok status, w) => (.ok (.shown [("proxy", status.toJson client)]), w)

/-- Look at the certificates of everything that is routed. -/
def certificates (settings : Settings) (registry : Registry) (w : World) :
    Except Fault (ByRule CertificateStatus) × World :=
  let jobs := registry.probeDomains
  let pool := (Pool.start settings jobs).run w.peers w.supply.now (Pool.inTurn jobs)
  (registry.report pool.found, { w with probes := w.probes ++ pool.probes })

/-- Show the certificates of everything that is routed. -/
def showCertificates (settings : Settings) (w : World) : Result × World :=
  w.withRegistry settings fun registry w =>
    match w.certificates settings registry with
    | (.error fault, w) => (.error fault, w)
    | (.ok entries, w) =>
      (.ok (.shown [("certificates", .obj (entries.map fun (id, s) => (id, s.toJson)))]), w)

end World

/-- The dashboard's route as shown. -/
def Registry.systemRouteFields (r : Registry) (settings : Settings) : Fields :=
  let domain := (systemDomains r.baseDomain).lookup dashboardRule
  [("configured", .bool domain.isSome), ("domain", .ofText? domain),
    ("upstream", .str settings.dashboardBackend)]

/-- The compiled configuration and its routes as shown. -/
def Registry.previewFields (r : Registry) (settings : Settings) : Fields :=
  let config := r.compile settings
  [("routes", .arr (config.routes.map Route.summary)), ("config", config.toJson)]

def Operation.run (settings : Settings) (op : Operation) (w : World) : Result × World :=
  match op with
  | showConfig => w.view settings fun r => [("config", .obj [("baseDomain", .str r.baseDomain)])]
  | setBaseDomain value => w.setBaseDomain settings value
  | listHosts => w.view settings fun r => [("hosts", .arr (r.hosts.map Host.encode))]
  | addHost data => w.addHost settings data
  | updateHost id updates => w.updateHost settings id updates
  | deleteHost id => w.deleteHost settings id
  | toggleHost id enabled => w.updateHost settings id (World.switch enabled)
  | listEnvironments =>
    w.view settings fun r => [("environments", .arr (r.environments.map Environment.encode))]
  | addEnvironment data => w.addEnvironment settings data
  | updateEnvironment id updates => w.updateEnvironment settings id updates
  | deleteEnvironment id => w.deleteEnvironment settings id
  | listApplications =>
    w.view settings fun r => [("applications", .arr (r.applications.map Application.encode))]
  | addApplication data => w.addApplication settings data
  | updateApplication id updates => w.updateApplication settings id updates
  | deleteApplication id => w.deleteApplication settings id
  | toggleApplication id enabled => w.updateApplication settings id (World.switch enabled)
  | showProvider => w.view settings fun r => [("cloudflare", r.providerView settings)]
  | switchProvider data => w.switchProvider settings data
  | reload => w.repush settings "Proxy configuration reloaded"
  | renew => w.repush settings "Certificate renewal triggered"
  | showStatus => w.showStatus settings
  | showSystemRoute => w.view settings fun r => r.systemRouteFields settings
  | showCertificates => w.showCertificates settings
  | preview => w.view settings fun r => r.previewFields settings

end EdgeProxy
