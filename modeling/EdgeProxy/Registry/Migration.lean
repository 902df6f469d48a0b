import EdgeProxy.Fault
import EdgeProxy.Json.Writer
import EdgeProxy.Registry.Basic
import EdgeProxy.Registry.Issue
/-!
Bringing stored documents to the current layout.  Layout 1 has a frontend and an API per application
and a list of environment names; layout 2 has a map of endpoints per environment with one API each;
layout 3 has a list of APIs.  `upgrade` applies the steps from a document's own layout on.
-/

namespace EdgeProxy.Migration

/-- Why a document is refused. -/
inductive Refusal where
  /-- The layout is no positive integer. -/
  | invalidSchema (value : Json)
  /-- The layout is not known yet. -/
  | newerSchema (version : Int)

/-- The reason as reported. -/
def Refusal.text : Refusal → String
  | invalidSchema v => "Invalid schemaVersion: " ++ v.literal
  | newerSchema n => "Registry schema " ++ Text.decimalInt n ++ " is newer than supported (" ++
      Text.decimalInt currentSchema ++ ")"

/-- How an upgrade can fail. -/
inductive Failure where
  | refused (why : Refusal)
  | fault (what : Fault)

/-- Keys of earlier releases that are dropped from the top of every document. -/
def deprecatedKeys : List String := ["wildcardCert", "caddyAdminUrl"]

/-- A document without the deprecated keys. -/
def stripDeprecated (doc : Fields) : Fields := doc.drop deprecatedKeys

/-- The port of a frontend that gives none. -/
def frontendPort : Int := 3000

/-- The port of an API that gives none. -/
def apiPort : Int := 3001

/-- A value, or another one if the value is absent or counts as absent. -/
def orDefault (v : Option Json) (default : Json) : Json :=
  match v with
  | some v => if v.truthy then v else default
  | none => default

/-- Whether a field is present and counts as set. -/
def flag (fields : Fields) (key : String) : Bool := (fields.valueOf key).truthy

/-- The fields of an endpoint in the older layouts, completed. -/
def endpointFields (fields : Fields) (port : Int) : Fields :=
  [("targetHost", orDefault (fields.get? "targetHost") (.str "localhost")),
    ("targetPort", orDefault (fields.get? "targetPort") (.int port)),
    ("localOnly", .bool (flag fields "localOnly")),
    ("requireAuth", .bool (flag fields "requireAuth"))]

/-- An endpoint of the first layout: nothing, or an object. -/
def flatEndpoint (v : Json) (port : Int) : Except Fault Json :=
  if !v.truthy then .ok .null
  else
    match v with
    | .obj fields => .ok (.obj (endpointFields fields port))
    | _ => .error .noFields

/-- What a value is gone through as: the items of a list, the characters of a text, the keys of an
object. -/
def elements (v : Json) : Except Fault (List Json) :=
  match v with
  | .arr items => .ok items
  | .str s => .ok (s.toList.map fun c => .str (String.ofList [c]))
  | .obj fields => .ok (fields.map fun (k, _) => .str k)
  | _ => .error .wrongKind

def keyText (v : Json) : Except Fault String :=
  match v with
  | .str s => .ok s
  | .arr _ | .obj _ => .error .wrongKind
  | v => .ok (v.render .line)

/-- The endpoints of a flat application, one set of its frontend and API for each name. -/
def spread (frontend api : Json) : List Json → Except Fault Fields
  | [] => .ok []
  | name :: rest => do
    let f ← flatEndpoint frontend frontendPort
    let a ← flatEndpoint api apiPort
    let key ← keyText name
    let more ← spread frontend api rest
    .ok (Fields.set [] key (.obj [("frontend", f), ("api", a)]) ++ more.drop [key])

/-- The keys of a flat application that its map of endpoints replaces. -/
def flatKeys : List String := ["frontend", "api", "environments"]

/-- An application of layout 1 in layout 2. -/
def nestApplication (v : Json) : Except Fault Json :=
  match v with
  | .obj (fields : Fields) =>
    match fields.get? "endpoints" with
    | some (.obj _) => .ok v
    | _ => do
      let names ← elements (orDefault (fields.get? "environments") (.arr [.str "prod"]))
      let endpoints ← spread (fields.valueOf "frontend") (fields.valueOf "api") names
      let enabled := fields.get? "enabled" != some (.bool false)
      .ok (.obj (((fields.drop flatKeys).set "endpoints" (.obj endpoints)).set "enabled"
        (.bool enabled)))
  | _ => .error .noFields

/-- Apply a step to every item of a list. -/
def each (step : Json → Except Fault Json) : List Json → Except Fault (List Json)
  | [] => .ok []
  | v :: rest => do
    let v ← step v
    let rest ← each step rest
    .ok (v :: rest)

/-- The applications of a document, gone through. -/
def applications (doc : Fields) : Except Fault (List Json) :=
  elements (orDefault (doc.get? "applications") (.arr []))

/-- From layout 1 to layout 2. -/
def nest (doc : Fields) : Except Fault Fields := do
  let apps ← applications doc
  let apps ← each nestApplication apps
  .ok (doc.set "applications" (.arr apps))

/-- The endpoints of one environment of layout 2 in layout 3. -/
def listApis (v : Json) : Except Fault Json :=
  match v with
  | .obj (fields : Fields) =>
    let rest := fields.drop ["api"]
    if rest.has "apis" then .ok (.obj rest)
    else
      let api := fields.valueOf "api"
      if !api.truthy then .ok (.obj (rest.set "apis" (.arr [])))
      else
        match api with
        | .obj api =>
          let entry : Fields := ("slug", .str "") :: endpointFields api apiPort
          .ok (.obj (rest.set "apis" (.arr [.obj entry])))
        | _ => .error .noFields
  | v => .ok v

/-- Apply a step to every value of a map. -/
def eachValue (step : Json → Except Fault Json) : Fields → Except Fault Fields
  | [] => .ok []
  | (k, v) :: rest => do
    let v ← step v
    let rest ← eachValue step rest
    .ok ((k, v) :: rest)

/-- An application of layout 2 in layout 3. -/
def listApplication (v : Json) : Except Fault Json :=
  match v with
  | .obj (fields : Fields) =>
    match fields.get? "endpoints" with
    | some (.obj endpoints) => do
      let endpoints ← eachValue listApis endpoints
      .ok (.obj (fields.set "endpoints" (.obj endpoints)))
    | some e => if e.truthy then .error .noFields else .ok v
    | none => .ok v
  | _ => .error .noFields

/-- From layout 2 to layout 3. -/
def list (doc : Fields) : Except Fault Fields := do
  let apps ← applications doc
  let apps ← each listApplication apps
  match doc.get? "applications" with
  | some (.arr _) => .ok (doc.set "applications" (.arr apps))
  | _ => .ok doc

/-- The layout that a document says it has; documents from before layouts were marked say
nothing. -/
def schemaOf (doc : Fields) : Except Refusal Int :=
  match doc.get? "schemaVersion" with
  | none => .ok 1
  | some (.int n) =>
    if n < 1 then .error (.invalidSchema (.int n))
    else if currentSchema < n then .error (.newerSchema n)
    else .ok n
  | some (.bool true) => .ok 1
  | some v => .error (.invalidSchema v)

/-- A name of an environment that is no text, as it is shown in a place. -/
def oddName? : Json → Option String
  | .str _ => none
  | .bool b => some (if b then "1" else "0")
  | v => some v.literal

/-- The names of environments in an application of layout 1 that are no texts. -/
def oddNames : Json → List String
  | .obj (fields : Fields) =>
    match fields.get? "endpoints", elements (orDefault (fields.get? "environments") (.arr [])) with
    | some (.obj _), _ => []
    | _, .ok names => (names.filterMap oddName?).eraseDups
    | _, .error _ => []
  | _ => []

/-- The issues of names in applications, given the position of the first one. -/
def nameIssuesFrom (position : Nat) : List Json → List Issue
  | [] => []
  | v :: rest =>
    (oddNames v).map (fun name =>
      ⟨["applications", Text.decimal position, "endpoints", name, "[key]"], .notText⟩) ++
      nameIssuesFrom (position + 1) rest

/-- What is wrong with the names of environments in a document: they become keys in layout 2 and
have to be texts. -/
def nameIssues (doc : Fields) : List Issue :=
  match schemaOf doc, applications doc with
  | .ok 1, .ok apps => nameIssuesFrom 0 apps
  | _, _ => []

/-- A step and the mark of the layout it leads to. -/
def stepTo (version : Int) (step : Fields → Except Fault Fields) (doc : Fields) :
    Except Failure Fields :=
  match step doc with
  | .ok doc => .ok (doc.set "schemaVersion" (.int version))
  | .error fault => .error (.fault fault)

/-- A document in the current layout. -/
def upgrade (doc : Fields) : Except Failure Fields :=
  match schemaOf doc with
  | .error why => .error (.refused why)
  | .ok 1 => do
    let doc ← stepTo 2 nest doc
    stepTo 3 list doc
  | .ok 2 => stepTo 3 list doc
  | .ok _ => .ok doc

end EdgeProxy.Migration
