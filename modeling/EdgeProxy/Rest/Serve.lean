import EdgeProxy.Report.Check
import EdgeProxy.Report.Health
import EdgeProxy.Rest.Resource
import EdgeProxy.Text.Percent
/-!
Serving REST requests.  Refusals of operations are ordinary answers; a fault becomes an error of the
server, and a request that no rule covers an error of the client.
-/

namespace EdgeProxy.Rest

structure Request where
  method : String
  /-- The path as written, with its query. -/
  target : String
  contentType : String
  body : List UInt8

/-- A response; a body that is no JSON is left out. -/
structure Response where
  status : Nat
  body : Option Json

def maxBody : Nat := 1024 * 1024

/-- The path of a target, without query and fragment, decoded. -/
def decodedPath (target : String) : String :=
  let cs := target.toList.takeWhile fun c => c != '?' && c != '#'
  let path := Text.decodeLossy (Text.percentDecode cs)
  if path.toList.head? == some '/' then path else "/" ++ path

/-- Put one slash for two in a row. -/
def mergeSlashes : List Char → List Char
  | '/' :: '/' :: rest => '/' :: mergeSlashes rest
  | c :: rest => c :: mergeSlashes rest
  | [] => []

/-- The parts of a path after its first slash. -/
def partsOf (path : List Char) : List String := ((Path.split path).drop 1).map String.ofList

def isJsonType (contentType : String) : Bool :=
  let type := Text.lower (Text.trim (Text.beforeFirst ";" contentType))
  type == "application/json" ||
    ("application/".toList.isPrefixOf type.toList && "+json".toList.isSuffixOf type.toList)

/-- The text of a body without a mark of its byte order. -/
def withoutMark (s : String) : String :=
  match s.toList with
  | '\uFEFF' :: rest => String.ofList rest
  | _ => s

/-- The fields of a body; a body that is no object has none. -/
def fieldsOf (request : Request) : Fields :=
  if !isJsonType request.contentType then []
  else
    match Text.decode request.body with
    | .error _ => []
    | .ok text =>
      match Json.read (withoutMark text) with
      | .ok (.obj fields) => fields
      | _ => []

/-- The response to a result; the answer to a question for the head has no body. -/
def response (headOnly : Bool) : Except Fault Json → Response
  | .error _ => ⟨500, none⟩
  | .ok v => ⟨200, if headOnly then none else some v⟩

/-- Do what a request asks for. -/
def respond (settings : Settings) (headOnly : Bool) (action : Action) (w : World) :
    Response × World :=
  match action with
  | .operation op =>
    let (result, w) := op.run settings w
    (response headOnly (result.map Answer.toJson), w)
  | .health =>
    let (result, w) := w.health settings
    (response headOnly (result.map SystemHealth.toJson), w)
  | .check =>
    let (result, w) := w.check settings
    (response headOnly (result.map CheckResult.toJson), w)
  | .file => (⟨404, none⟩, w)

/-- The method that is served for a method: the head of a resource is served as the whole. -/
def servedMethod (method : String) : String := if method == "HEAD" then "GET" else method

def serveResource (settings : Settings) (resource : Resource) (request : Request) (w : World) :
    Response × World :=
  let method := servedMethod request.method
  if request.method == "OPTIONS" then (⟨200, none⟩, w)
  else if resource.readsBody method && isJsonType request.contentType &&
      maxBody < request.body.length then (⟨413, none⟩, w)
  else
    match resource.action method (fieldsOf request) with
    | none => (⟨405, none⟩, w)
    | some action => respond settings (request.method == "HEAD") action w

/-- Serve a request.  Methods go by their names in capitals.  A path with doubled slashes leads on
to the path without them. -/
def serve (settings : Settings) (request : Request) (w : World) : Response × World :=
  let request := { request with method := request.method.toUpper }
  let path := (decodedPath request.target).toList
  match Resource.ofPath (partsOf path) with
  | some resource => serveResource settings resource request w
  | none =>
    match Resource.ofPath (partsOf (mergeSlashes path)) with
    | some resource =>
      if mergeSlashes path == path then (⟨404, none⟩, w)
      else if resource.accepts (servedMethod request.method) then (⟨308, none⟩, w)
      else (⟨405, none⟩, w)
    | none => (⟨404, none⟩, w)

end EdgeProxy.Rest
