import EdgeProxy.Operation.World
/-!
Health of the system: of the stored registry and of the proxy's control plane.  The whole is as
healthy as its least healthy part.
-/

namespace EdgeProxy

/-- How a part is doing. -/
inductive HealthStatus where
  | healthy
  | degraded
  | unhealthy
  | unknown
  /-- A status by another name. -/
  | other (name : String)
deriving DecidableEq, Repr

namespace HealthStatus

def name : HealthStatus → String
  | healthy => "healthy"
  | degraded => "degraded"
  | unhealthy => "unhealthy"
  | unknown => "unknown"
  | other name => name

/-- The status of the whole. -/
def overall (parts : List HealthStatus) : HealthStatus :=
  if parts.contains unhealthy then unhealthy
  else if parts.contains degraded then degraded
  else if parts.all (· == healthy) then healthy
  else unknown

end HealthStatus

/-- The health of one part. -/
structure ComponentHealth where
  name : String
  status : HealthStatus
  message : String
  details : Fields

structure SystemHealth where
  timestamp : String
  components : List ComponentHealth

namespace ComponentHealth

/-- A part of which nothing is known. -/
def unexamined (name : String) : ComponentHealth := ⟨name, .unknown, "", []⟩

/-- The health of a part as a value. -/
def toJson (c : ComponentHealth) : Json :=
  .obj [("name", .str c.name), ("status", .str c.status.name), ("message", .str c.message),
    ("details", .obj c.details)]

end ComponentHealth

namespace SystemHealth

/-- No parts yet. -/
def start (timestamp : String) : SystemHealth := ⟨timestamp, []⟩

def add (h : SystemHealth) (c : ComponentHealth) : SystemHealth :=
  { h with components := h.components ++ [c] }

def status (h : SystemHealth) : HealthStatus := .overall (h.components.map (·.status))

/-- The health of the system as a value. -/
def toJson (h : SystemHealth) : Json :=
  .obj [("status", .str h.status.name), ("timestamp", .str h.timestamp),
    ("components", .arr (h.components.map ComponentHealth.toJson))]

end SystemHealth

namespace Registry

/-- What is told of the registry besides its health. -/
def healthDetails (r : Registry) (path : Path) (exists_ : Bool) : Fields :=
  [("path", .str path.text), ("exists", .bool exists_), ("version", .int r.version),
    ("schemaVersion", .int r.schemaVersion), ("hosts", .int r.hosts.length),
    ("applications", .int r.applications.length), ("environments", .int r.environments.length)]

def health (r : Registry) (path : Path) (exists_ : Bool) : ComponentHealth :=
  let details := r.healthDetails path exists_
  match r.violations with
  | v :: rest =>
    ⟨"registry", .degraded, Text.decimal (rest.length + 1) ++ " invariant violation(s): " ++ v.text,
      details⟩
  | [] =>
    if r.baseDomain.isEmpty then ⟨"registry", .degraded, "No base domain configured", details⟩
    else
      ⟨"registry", .healthy, Text.decimal r.hosts.length ++ " hosts, " ++
        Text.decimal r.applications.length ++ " applications", details⟩

end Registry

/-- The health of the control plane, given its status. -/
def Client.health (client : Client) (status : Client.Status) : ComponentHealth :=
  let details :=
    match status.toJson client with
    | .obj fields => fields
    | _ => []
  match status with
  | .unreachable error _ => ⟨"proxy", .unhealthy, "Unreachable: " ++ error, details⟩
  | .reachable false _ _ =>
    ⟨"proxy", .degraded, "Reachable, no configuration loaded", details⟩
  | .reachable true routes _ =>
    ⟨"proxy", .healthy, Text.decimal routes ++ " routes active", details⟩

namespace World

def registryHealth (settings : Settings) (w : World) : Except Fault ComponentHealth × World :=
  let path := settings.registryPath
  match w.load settings with
  | (.error (.fault fault), w) => (.error fault, w)
  | (.error (.refused why), w) => (.ok ⟨"registry", .unhealthy, why.text, []⟩, w)
  | (.ok r, w) => (.ok (r.health path (w.files.isFile path)), w)

/-- Examine the control plane. -/
def proxyHealth (settings : Settings) (w : World) : Except Fault ComponentHealth × World :=
  let client := settings.client
  match w.exchange client.status with
  | (.error fault, w) => (.error fault, w)
  | (.ok status, w) => (.ok (client.health status), w)

/-- Examine everything. -/
def health (settings : Settings) (w : World) : Except Fault SystemHealth × World :=
  let start := SystemHealth.start w.supply.timestamp
  match w.registryHealth settings with
  | (.error fault, w) => (.error fault, w)
  | (.ok registry, w) =>
    match w.proxyHealth settings with
    | (.error fault, w) => (.error fault, w)
    | (.ok proxy, w) => (.ok ((start.add registry).add proxy), w)

end World

end EdgeProxy
