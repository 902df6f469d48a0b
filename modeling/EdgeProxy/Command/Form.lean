import EdgeProxy.Command.Basic
import EdgeProxy.Command.Switch
import EdgeProxy.Text.Numeral
/-!
The forms of the command line.  A form says by which words a command is asked for; the same table
reads command lines and lists them on the pages of help.
-/

namespace EdgeProxy.Command

/-- The form of a command. -/
structure Form where
  name : String
  about : String
  /-- What is said of it in a list of commands. -/
  brief : String
  switches : List Switch
  /-- The words that have to follow the options. -/
  words : List String
  build : List Mention → List String → Option Command

/-- A command or a group of commands. -/
inductive Entry where
  | form (f : Form)
  | group (name about : String) (forms : List Form)

def helpSwitch : Switch := .flag ["--help"] "Show this message and exit."

def jsonSwitch (help : String) : Switch := .flag ["--json-output", "--json"] help

def reportForm (name about help : String) (build : Bool → Command) : Form :=
  let json := jsonSwitch help
  ⟨name, about, about, [json], [], fun ms _ => some (build (json.isOn ms false))⟩

def jsonHelp : String := "Output as JSON."

def plainForm (name about brief : String) (command : Command) : Form :=
  ⟨name, about, brief, [], [], fun _ _ => some command⟩

/-- The address that the server listens on. -/
def hostSwitch : Switch := .value ["--host"] "TEXT" "Bind address."

def portSwitch : Switch := .value ["-p", "--port"] "INTEGER" "Port number."

/-- Whether the server begins with a push. -/
def syncSwitch : Switch :=
  ⟨["--sync"], ["--no-sync"], none, "Push the registry to the proxy on startup."⟩

def defaultHost : String := "127.0.0.1"

def defaultPort : Int := 8000

/-- The integer that the value of an option spells. -/
def integerOr (default : Int) (given : Option String) : Option Int :=
  match given with
  | some s => Text.readInteger s
  | none => some default

def webForm : Form where
  name := "web"
  about := "Start the routing API server."
  brief := "Start the routing API server."
  switches := [hostSwitch, portSwitch, syncSwitch]
  words := []
  build ms _ := (integerOr defaultPort (portSwitch.given? ms)).map fun port =>
    .web ((hostSwitch.given? ms).getD defaultHost) port (syncSwitch.isOn ms true)

def domainForm : Form where
  name := "domain"
  about := "Set the base domain and push the new routes."
  brief := "Set the base domain and push the new routes."
  switches := []
  words := ["BASE_DOMAIN"]
  build
    | _, [domain] => some (.setDomain domain)
    | _, _ => none

def proxyForms : List Form :=
  [reportForm "certs" "Check the TLS certificate served for every routed hostname." jsonHelp
      .certificates,
    reportForm "compile" "Compile the registry without pushing it." "Output the full document."
      .compile,
    domainForm,
    plainForm "push" "Recompile the registry and load it into the proxy."
      "Recompile the registry and load it into the proxy." .push,
    plainForm "renew" "Push the configuration again so the proxy retries certificate issuance."
      "Push the configuration again so the proxy retries certificate..." .renew,
    reportForm "status" "Show whether the proxy's admin endpoint is reachable." jsonHelp
      .proxyStatus]

def entries : List Entry :=
  [.group "config" "Registry configuration commands."
      [reportForm "check" "Validate the stored registry document." jsonHelp .check],
    .form (reportForm "health" "Show system health — registry and proxy control plane." jsonHelp
      .health),
    .group "proxy" "Edge proxy — compile, push, status, and certificates." proxyForms,
    .form (reportForm "status" "Show the registry summary and the routes it compiles to." jsonHelp
      .status),
    .form webForm]

namespace Entry

/-- The word that an entry goes by. -/
def name : Entry → String
  | form f => f.name
  | group name _ _ => name

/-- What is said of an entry in a list. -/
def brief : Entry → String
  | form f => f.brief
  | group _ about _ => about

end Entry

def versionSwitch : Switch := .flag ["--version"] "Show the version and exit."

def verboseSwitch : Switch := .flag ["-v", "--verbose"] "Enable verbose output."

def quietSwitch : Switch := .flag ["-q", "--quiet"] "Suppress non-essential output."

def debugSwitch : Switch := .flag ["--debug"] "Enable debug logging (very verbose)."

/-- The option that names the settings file. -/
def configSwitch : Switch :=
  .value ["-c", "--config"] "PATH" "Path to homeroute.yml (default: auto-detect)."

/-- The options that stand before the command. -/
def globalSwitches : List Switch :=
  [versionSwitch, verboseSwitch, quietSwitch, debugSwitch, configSwitch, helpSwitch]

/-- What the options before the command say. -/
def Globals.ofMentions (ms : List Mention) : Globals where
  verbose := verboseSwitch.isOn ms false
  quiet := quietSwitch.isOn ms false
  debug := debugSwitch.isOn ms false
  settingsPath := ((configSwitch.given? ms).filter (!·.isEmpty)).map Path.ofText

end EdgeProxy.Command
