import EdgeProxy.Operation.Run
import EdgeProxy.Report.Check
import EdgeProxy.Report.Health
/-!
What commands print: the lines of each report.
-/

namespace EdgeProxy.Command

def jsonLines (v : Json) : List String := [v.render .report]

/-- The line that tells why a command failed. -/
def failureLine (why : String) : String := "❌ " ++ why

def warningLine (text : String) : String := "   ⚠️  " ++ text

/-- A text, or another one if it is empty. -/
def textOr (s default : String) : String := if s.isEmpty then default else s

def item (text : String) : String := "     • " ++ text

/-- One item of a list of findings. -/
def finding (text : String) : String := "   • " ++ text

def countLine (what : String) (n : Nat) : String := "   " ++ what ++ ": " ++ Text.decimal n

def environmentLine (e : Environment) : String :=
  item (e.name ++ (if e.isDefault then " (default)" else "") ++ "  prefix=" ++
    textOr e.frontendPrefix "-" ++ " api=" ++ e.apiPrefix)

/-- A route as an arrow to its backend. -/
def arrow (route : Route) : String := route.domain ++ " → " ++ route.backend

def routeFlags (route : Route) : List String :=
  (if route.requireAuth then ["auth"] else []) ++ (if route.localOnly then ["local"] else []) ++
    if route.system then ["system"] else []

def routeLine (route : Route) : String :=
  item (arrow route ++
    match routeFlags route with
    | [] => ""
    | flags => " [" ++ ", ".intercalate flags ++ "]")

def summaryHead (settings : Settings) (r : Registry) : List String :=
  ["", "📋 " ++ textOr r.baseDomain "(no base domain)",
    "   Registry: " ++ settings.registryPath.text ++ " (v" ++ Text.decimalInt r.version ++ ")", ""]

/-- The summary of the registry and its routes. -/
def summaryLines (quiet : Bool) (settings : Settings) (r : Registry) : List String :=
  let routes := r.routes settings
  (if quiet then [] else summaryHead settings r) ++
    [countLine "Environments" r.environments.length] ++ r.environments.map environmentLine ++
    ["", countLine "Routes" routes.length] ++ routes.map routeLine ++ [""]

def summaryJson (settings : Settings) (r : Registry) : Json :=
  .obj [("registryPath", .str settings.registryPath.text), ("version", .int r.version),
    ("baseDomain", .str r.baseDomain),
    ("environments", .arr (r.environments.map Environment.encode)),
    ("routes", .arr ((r.routes settings).map Route.summary))]

/-- What a check found in a valid registry. -/
def validLines (r : Registry) : List String :=
  ["✅ Registry is valid", "   Base domain: " ++ textOr r.baseDomain "-",
    countLine "Hosts" r.hosts.length, countLine "Applications" r.applications.length,
    countLine "Environments" r.environments.length]

/-- What a check found wrong. -/
def errorLines (errors : List String) : List String :=
  failureLine "Registry errors:" :: errors.map finding

def checkLines (c : CheckResult) : List String :=
  (match c.registry, c.errors with
    | some r, [] => validLines r
    | _, errors => errorLines errors) ++
    (if c.warnings.isEmpty then []
      else ["", "⚠️  Warnings:"] ++ c.warnings.map fun w => finding w.text) ++ [""]

def statusIcon : HealthStatus → String
  | .healthy => "💚"
  | .degraded => "🟡"
  | .unhealthy => "🔴"
  | _ => "❔"

def healthLines (h : SystemHealth) : List String :=
  ["", statusIcon h.status ++ " System Health: " ++
      String.ofList (h.status.name.toList.map Char.toUpper),
    "   " ++ h.timestamp, ""] ++
    h.components.map (fun c =>
      "   " ++ statusIcon c.status ++ " " ++ c.name ++ ": " ++ c.message) ++
    [""]

/-- The widest rule that routes are aligned by. -/
def ruleWidth : Nat := 40

/-- A text with spaces after it, up to a width. -/
def padded (width : Nat) (s : String) : String :=
  s ++ String.ofList (List.replicate (width - s.length) ' ')

def compiledLines (config : EdgeConfig) : List String :=
  ["🧭 Compiled routes (" ++ Text.decimal config.routes.length ++ "):"] ++
    config.routes.map (fun r => "   " ++ padded ruleWidth r.ruleId ++ " " ++ arrow r) ++
    ["", "   🔒 TLS: " ++ if config.tls.isWildcard then "wildcard (DNS-01)" else "per-host"]

def pushedLines (a : Applied) : List String :=
  ["✅ Pushed " ++ Text.decimal a.routes ++ " routes (" ++ Text.decimal a.push.elapsed ++ "ms)"] ++
    if a.push.converged == some false then
      [warningLine "The proxy does not report every pushed route"]
    else []

def renewedLines (message : String) (a : Applied) : List String :=
  ["✅ " ++ message ++ " (" ++
    String.ofList (a.strategy.toList.map fun c => if c == '_' then '-' else c) ++ ")"]

def domainLines (domain : String) (a : Applied) : List String :=
  ["✅ Base domain set to " ++ domain] ++
    if !a.push.accepted then
      [warningLine ("Saved but not applied: " ++ (Json.ofText? a.push.error).plainText)]
    else if a.push.converged == some false then
      [warningLine "Pushed, but the proxy does not report every route yet"]
    else []

/-- The status of the control plane. -/
def proxyLines (client : Client) : Client.Status → List String
  | .unreachable error _ => ["🔴 Unreachable: " ++ client.adminUrl, "   " ++ error]
  | .reachable loaded routes elapsed =>
    [(if loaded then
        "💚 " ++ client.adminUrl ++ " — " ++ Text.decimal routes ++ " routes loaded"
      else "🟡 " ++ client.adminUrl ++ " — no configuration loaded"),
      "   Latency: " ++ Text.decimal elapsed ++ "ms"]

def certificateLine (s : CertificateStatus) : String :=
  match s.outcome with
  | .error e => "   ❌ " ++ s.domain ++ ": " ++ e.text
  | .ok facts =>
    (if s.isValid then "   ✅ " else "   ❌ ") ++ s.domain ++ ": " ++ Text.decimalInt facts.days ++
      " days (" ++ facts.issuer ++ ")"

def certificateLines (entries : List CertificateStatus) : List String :=
  if entries.isEmpty then ["   📡 No hostnames configured"]
  else
    ("🔒 Certificates (" ++ Text.decimal entries.length ++ "):") ::
      (entries.mergeSort fun a b => decide (a.domain ≤ b.domain)).map certificateLine

/-- What is said before the server starts. -/
def serverLines (settings : Settings) (host : String) (port : Int) (debug : Bool) : List String :=
  ["", "⚡ HomeRoute — Routing API",
    "   API:      http://" ++ host ++ ":" ++ Text.decimalInt port ++ "/api/reverseproxy",
    "   Registry: " ++ settings.registryPath.text, "   Proxy:    " ++ settings.adminUrl] ++
    (if debug then ["   Logging: DEBUG (all output)"] else []) ++ [""]

end EdgeProxy.Command
