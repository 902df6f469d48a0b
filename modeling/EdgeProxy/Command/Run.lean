import EdgeProxy.Command.Parse
import EdgeProxy.Command.Print
import EdgeProxy.Logging.Setup
import EdgeProxy.Settings.Load
import EdgeProxy.Text.Control
/-!
Running a command line: the log is set up before the command's own words are read, the settings are
loaded before the command runs.  What is left to the caller is to print the lines, to start a server
if that was asked for, and to end with the exit code.
-/

namespace EdgeProxy.Command

/-- A server that is to be started. -/
structure Server where
  host : String
  port : Int
  debug : Bool
deriving DecidableEq, Repr

/-- How a command line ends. -/
inductive Ending where
  | exit (code : Nat)
  | serve (server : Server)
  | fault (what : Fault)
deriving DecidableEq, Repr

/-- The exit code of a command that failed. -/
def failed : Nat := 1

/-- The exit code of words that make no sense. -/
def misused : Nat := 2

def Ending.code : Ending → Nat
  | exit code => code
  | serve _ => 0
  | fault _ => failed

/-- What a command line prints and how it ends. -/
structure Outcome where
  lines : List String
  ending : Ending
deriving DecidableEq, Repr

namespace Outcome

/-- A good end. -/
def good (lines : List String) : Outcome := ⟨lines, .exit 0⟩

/-- The end of a command that failed. -/
def bad (lines : List String) : Outcome := ⟨lines, .exit failed⟩

/-- The end of a command that was refused. -/
def refused (why : String) : Outcome := bad [failureLine why]

/-- An end without a word. -/
def fault (what : Fault) : Outcome := ⟨[], .fault what⟩

def text (o : Outcome) : String :=
  String.join (o.lines.map fun line => Text.withoutControls line ++ "\n")

/-- The end after an answer, given what is printed of a good one. -/
def ofAnswer (result : Result) (lines : Answer → List String) : Outcome :=
  match result with
  | .error what => fault what
  | .ok (.refused why) => refused why.text
  | .ok answer => good (lines answer)

/-- The end after an answer that is printed as a value. -/
def ofValue (result : Result) : Outcome :=
  match result with
  | .error what => fault what
  | .ok answer => good (jsonLines answer.toJson)

end Outcome

/-- Go on with the stored registry; `refused` is the end if there is none. -/
def onRegistry (settings : Settings) (w : World) (refused : String → Outcome)
    (next : Registry → World → Outcome × World) : Outcome × World :=
  match w.load settings with
  | (.error (.fault what), w) => (.fault what, w)
  | (.error (.refused why), w) => (refused why.text, w)
  | (.ok registry, w) => next registry w

/-- The summary of the registry. -/
def runStatus (json quiet : Bool) (settings : Settings) (w : World) : Outcome × World :=
  let refused (why : String) : Outcome :=
    if json then .bad (jsonLines (.obj [("error", .str why)])) else .refused why
  onRegistry settings w refused fun r w =>
    (.good (if json then jsonLines (summaryJson settings r) else summaryLines quiet settings r), w)

def runCheck (json : Bool) (settings : Settings) (w : World) : Outcome × World :=
  match w.check settings with
  | (.error what, w) => (.fault what, w)
  | (.ok c, w) =>
    (⟨if json then jsonLines c.toJson else checkLines c,
      .exit (if c.isValid then 0 else failed)⟩, w)

def runHealth (json : Bool) (settings : Settings) (w : World) : Outcome × World :=
  match w.health settings with
  | (.error what, w) => (.fault what, w)
  | (.ok h, w) => (.good (if json then jsonLines h.toJson else healthLines h), w)

/-- The preparation of the server; a push that is refused does not hinder its start. -/
def runServer (host : String) (port : Int) (sync debug : Bool) (settings : Settings) (w : World) :
    Outcome × World :=
  let ready : Outcome := ⟨serverLines settings host port debug, .serve ⟨host, port, debug⟩⟩
  if sync then
    match Operation.reload.run settings w with
    | (.error what, w) => (.fault what, w)
    | (.ok _, w) => (ready, w)
  else (ready, w)

def runCompile (json : Bool) (settings : Settings) (w : World) : Outcome × World :=
  onRegistry settings w .refused fun r w =>
    let config := r.compile settings
    (.good (if json then jsonLines config.toJson else compiledLines config), w)

def runProxyStatus (json : Bool) (settings : Settings) (w : World) : Outcome × World :=
  let client := settings.client
  match w.exchange client.status with
  | (.error what, w) => (.fault what, w)
  | (.ok found, w) =>
    if json then (.good (jsonLines (found.toJson client)), w)
    else
      match found with
      | .reachable .. => (.good (proxyLines client found), w)
      | .unreachable .. => (.bad (proxyLines client found), w)

def runCertificates (json : Bool) (settings : Settings) (w : World) : Outcome × World :=
  if json then
    let (result, w) := Operation.showCertificates.run settings w
    (.ofValue result, w)
  else
    onRegistry settings w .refused fun r w =>
      match w.certificates settings r with
      | (.error what, w) => (.fault what, w)
      | (.ok entries, w) => (.good (certificateLines (entries.map (·.2))), w)

/-- An operation, given what is printed of its answer. -/
def runOperation (op : Operation) (lines : Answer → List String) (settings : Settings) (w : World) :
    Outcome × World :=
  let (result, w) := op.run settings w
  (.ofAnswer result lines, w)

def run (globals : Globals) (settings : Settings) (command : Command) (w : World) :
    Outcome × World :=
  match command with
  | .status json => runStatus json globals.quiet settings w
  | .check json => runCheck json settings w
  | .health json => runHealth json settings w
  | .web host port sync => runServer host port sync globals.debug settings w
  | .compile json => runCompile json settings w
  | .push => runOperation .reload (fun
      | .pushed _ a => pushedLines a
      | _ => []) settings w
  | .proxyStatus json => runProxyStatus json settings w
  | .certificates json => runCertificates json settings w
  | .renew => runOperation .renew (fun
      | .pushed message a => renewedLines message a
      | _ => []) settings w
  | .setDomain domain => runOperation (.setBaseDomain (.str domain)) (fun
      | .saved _ (.baseDomain d) a => domainLines d a
      | _ => []) settings w

/-- The log that the options before the command ask for. -/
def Globals.logging (globals : Globals) : Logging.Options where
  level :=
    if globals.debug then some "DEBUG"
    else if globals.verbose then some "INFO"
    else if globals.quiet then some "ERROR"
    else none
  file := none
  fileLevel := none
  quietLibraries := !globals.debug

/-- Where a command line is run. -/
structure Place where
  /-- The name by which the program was called. -/
  program : String
  environment : Variables
  directory : Path

def runWithSettings (place : Place) (globals : Globals) (command : Command) (w : World) :
    Outcome × World :=
  match Settings.load w.files place.environment place.directory globals.settingsPath with
  | .error (.fault what) => (.fault what, w)
  | .error (.refused why) => (.refused why.text, w)
  | .ok settings => run globals settings command w

/-- Run the words after the options before the command. -/
def runEntry (place : Place) (globals : Globals) (entry : Entry) (words : List String) (w : World) :
    Outcome × World :=
  match (Logging.plan globals.logging place.environment.values).open w.files with
  | .error what => (.fault what, w)
  | .ok files =>
    let w := { w with files := files }
    match readEntry place.program entry words with
    | .misuse => (⟨[], .exit misused⟩, w)
    | .page lines => (.good lines, w)
    | .done command => runWithSettings place globals command w

def runWords (place : Place) (words : List String) (w : World) : Outcome × World :=
  match readProgram place.program words with
  | .misuse => (⟨[], .exit misused⟩, w)
  | .page lines => (.good lines, w)
  | .done (globals, entry, words) => runEntry place globals entry words w

end EdgeProxy.Command
