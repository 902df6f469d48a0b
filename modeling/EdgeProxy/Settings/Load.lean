import EdgeProxy.Settings.Decode
import EdgeProxy.Settings.Locate
import EdgeProxy.Yaml.Reader
/-!
Loading the settings that are in force: those of the settings file, if there is one, and above them
those of the environment.  `given` is what a file says, `overridden` puts the environment above it,
and `load` goes the whole way.
-/

namespace EdgeProxy

/-- Why there are no settings. -/
inductive SettingsError where
  /-- There is no file at the path that was asked for. -/
  | notFound (path : Path)
  /-- The system does not let the file be read. -/
  | notRead (path : Path) (why : String)
  /-- The file does not follow the grammar. -/
  | malformed (path : Path)
  /-- The file holds a value of another kind than a map. -/
  | notMap (path : Path) (kind : String)
  | invalid (issues : List Issue)
deriving DecidableEq, Repr

/-- What stands for the position and cause of a breach of the grammar. -/
def yamlErrorText : String := "<yaml error>"

/-- The reason as reported. -/
def SettingsError.text : SettingsError → String
  | notFound path => "Settings file not found: " ++ path.text
  | notRead path why => "Cannot read " ++ path.text ++ ": " ++ why
  | malformed path => "Invalid YAML in " ++ path.text ++ ": " ++ yamlErrorText
  | notMap path kind => "Expected a YAML mapping in " ++ path.text ++ ", got " ++ kind
  | invalid issues => "Invalid settings: " ++ Issue.report "Settings" issues

/-- How loading settings can fail. -/
inductive SettingsFailure where
  | refused (why : SettingsError)
  | fault (what : Fault)
deriving DecidableEq, Repr

/-- The variables of the environment. -/
structure Variables where
  values : List (String × String)
  /-- Whether a variable can only be asked for by a text, as it is for those of a process. -/
  named : Bool
deriving DecidableEq, Repr

namespace Variables

/-- The value of a variable that is set and not empty. -/
def get? (vars : Variables) (name : String) : Option String :=
  (vars.values.lookup name).filter (!·.isEmpty)

/-- The value of the variable that a value names. -/
def namedBy (vars : Variables) (name : Yaml.Value) : Except Fault (Option String) :=
  match name with
  | .text s => .ok (vars.get? s)
  | .list _ | .map _ => .error .wrongKind
  | _ => if vars.named then .error .wrongKind else .ok none

end Variables

namespace Yaml

mutual
/-- The value as JSON.  Of a map the pairs with text keys are kept; a date becomes an empty object,
which no setting accepts either. -/
def Value.toJson : Value → Json
  | .null => .null
  | .bool b => .bool b
  | .int n => .int n
  | .float x => .float x
  | .text s => .str s
  | .date | .dateTime => .obj []
  | .list items => .arr (itemsToJson items)
  | .map pairs => .obj (fieldsOf pairs)

def itemsToJson : List Value → List Json
  | [] => []
  | v :: rest => v.toJson :: itemsToJson rest

/-- The pairs with text keys. -/
def fieldsOf : List (Value × Value) → List (String × Json)
  | [] => []
  | (.text k, v) :: rest => (k, v.toJson) :: fieldsOf rest
  | _ :: rest => fieldsOf rest
end

/-- The pair that an item of a list of pairs spells: two items, two keys or two characters. -/
def pairOf : Value → Except Fault (Value × Value)
  | .list [k, v] => if k.isKey then .ok (k, v) else .error .wrongKind
  | .map [(k, _), (v, _)] => .ok (k, v)
  | .list _ | .map _ => .error .badValue
  | .text s =>
    match s.toList with
    | [k, v] => .ok (.text (String.singleton k), .text (String.singleton v))
    | _ => .error .badValue
  | _ => .error .wrongKind

/-- The pairs of a map, or of a list of pairs. -/
def pairsOf : Value → Except Fault (List (Value × Value))
  | .map pairs => .ok pairs
  | .list items => (items.mapM pairOf).map ofPairs
  | .text s => if s.isEmpty then .ok [] else .error .badValue
  | _ => .error .wrongKind

end Yaml

namespace Settings

/-- The key that the settings may be wrapped in. -/
def wrapper : String := "homeroute"

/-- What the map of a settings file says. -/
def unwrap (pairs : List (Yaml.Value × Yaml.Value)) :
    Except Fault (List (Yaml.Value × Yaml.Value)) :=
  match Yaml.lookup pairs wrapper with
  | some v => Yaml.pairsOf v
  | none => .ok pairs

def document (path : Path) (bytes : List UInt8) : Except SettingsFailure Yaml.Value :=
  match Text.decode bytes with
  | .error reason => .error (.fault (.undecodable reason))
  | .ok text =>
    match Yaml.read text with
    | .ok v => .ok v
    | .error .malformed => .error (.refused (.malformed path))
    | .error .badScalar => .error (.fault .badValue)

/-- What the document of a settings file says; an empty document says nothing. -/
def given (path : Path) (doc : Yaml.Value) :
    Except SettingsFailure (List (Yaml.Value × Yaml.Value)) :=
  match doc with
  | .null => .ok []
  | .map pairs =>
    match unwrap pairs with
    | .ok pairs => .ok pairs
    | .error fault => .error (.fault fault)
  | v => .error (.refused (.notMap path v.kindName))

/-- What the settings file at a path says. -/
def ofFile (files : Files) (path : Path) :
    Except SettingsFailure (List (Yaml.Value × Yaml.Value)) :=
  match files.content? path with
  | none => .error (.refused (.notFound path))
  | some (.error why) => .error (.refused (.notRead path why))
  | some (.ok bytes) => document path bytes >>= given path

/-- What the settings file says that is asked for, or else the one that is in force in a
directory. -/
def fromFile (files : Files) (directory : Path) (asked : Option Path) :
    Except SettingsFailure (List (Yaml.Value × Yaml.Value)) :=
  match asked with
  | some path => ofFile files path
  | none =>
    match locate files directory with
    | none => .ok []
    | some path => ofFile files path

/-- The variables that stand in for settings. -/
def overrides : List (String × String) :=
  [("HOMEROUTE_REGISTRY", registryPathName), ("HOMEROUTE_PROXY_ADMIN", adminUrlName),
    ("HOMEROUTE_DASHBOARD_UPSTREAM", dashboardBackendName),
    ("HOMEROUTE_AUTH_UPSTREAM", authBackendName)]

/-- Give a setting a text, if there is one. -/
def override (pairs : List (Yaml.Value × Yaml.Value)) (name : String) (text : Option String) :
    List (Yaml.Value × Yaml.Value) :=
  match text with
  | some s => Yaml.setKey pairs (.text name) (.text s)
  | none => pairs

/-- The settings of the environment above those of a file.  The provider token comes from the
variable that the settings name. -/
def overridden (vars : Variables) (pairs : List (Yaml.Value × Yaml.Value)) :
    Except Fault (List (Yaml.Value × Yaml.Value)) :=
  let pairs := overrides.foldl (fun m (name, setting) => override m setting (vars.get? name)) pairs
  let name := (Yaml.lookup pairs tokenVariableName).getD (.text standard.tokenVariable)
  (vars.namedBy name).map (override pairs tokenName)

def ofPairs (pairs : List (Yaml.Value × Yaml.Value)) : Except SettingsFailure Settings :=
  match decode standard (Yaml.fieldsOf pairs) with
  | .valid settings => .ok settings
  | .invalid issues => .error (.refused (.invalid issues))

/-- The settings that are in force in a directory. -/
def load (files : Files) (vars : Variables) (directory : Path) (asked : Option Path) :
    Except SettingsFailure Settings :=
  match fromFile files directory asked with
  | .error failure => .error failure
  | .ok pairs =>
    match overridden vars pairs with
    | .error fault => .error (.fault fault)
    | .ok pairs => ofPairs pairs

end Settings

end EdgeProxy
