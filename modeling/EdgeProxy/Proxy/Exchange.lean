import EdgeProxy.Json.Nesting
import EdgeProxy.Proxy.Control
import EdgeProxy.Route.Config
/-!
Exchanges with the control plane: a push of a configuration, the question for the live one, the
status of the control plane and the check that pushed rules are live.  Each is one attempt.  What goes wrong is
told by the result, as far as the exchange expects it; the rest is a fault.
-/

namespace EdgeProxy

/-- How deep the values may be nested that an exchange can read, and those that it can go through. -/
structure Room where
  reads : Nat
  walks : Nat
deriving DecidableEq, Repr

/-- Room for everything that is compiled. -/
def Room.safe : Room := ⟨Json.safeDepth, Json.safeDepth⟩

/-- The line to the proxy: the proxy, what stands at addresses that do not lead there, the room for what is
read, and the requests that were made, in order. -/
structure Line where
  proxy : Proxy
  elsewhere : String → Reply
  room : Room
  requests : List ProxyRequest

/-- Why a request has no good answer. -/
inductive ExchangeError where
  | unreachable (reason : String)
  | timedOut (reason : String)
  | refused (status : Int) (phrase : String)
  | stopped (why : Obstacle)
  | undecodable (reason : Text.Utf8Error)
  | notJson
  | longInteger (digits : Nat)
  | tooDeep
deriving DecidableEq, Repr

/-- What is said of an address without a scheme. -/
def noSchemeText (address : String) : String := "unknown url type: " ++ Text.quoted address

/-- What is said of an address with another scheme. -/
def otherSchemeText (scheme : String) : String := "unknown url type: " ++ scheme

namespace ExchangeError

/-- The fault of an error that is not expected when the live configuration is asked for. -/
def fault? : ExchangeError → Option Fault
  | stopped .range => some Obstacle.range.fault
  | stopped .protocol => some Obstacle.protocol.fault
  | tooDeep => some .tooDeep
  | _ => none

/-- The error in the status of the control plane; those that are faults are never told. -/
def text : ExchangeError → String
  | unreachable reason => reason
  | timedOut reason => reason
  | refused _ phrase => phrase
  | stopped (.noScheme address) => noSchemeText address
  | stopped (.value why) => why
  | undecodable reason => reason.reason
  | notJson => "<json error>"
  | longInteger digits =>
    "Exceeds the limit (4300 digits) for integer string conversion: value has " ++
      Text.decimal digits ++
      " digits; use sys.set_int_max_str_digits() to increase the limit"
  | stopped .range | stopped .protocol | tooDeep => ""

end ExchangeError

/-- What becomes of a request to an address that takes a course where the proxy is asked. -/
def Line.reply (line : Line) (address : String) (course : Course) : Reply :=
  match Address.reach address with
  | .noScheme => .stopped (.noScheme address)
  | .otherScheme scheme => .unreachable (otherSchemeText scheme)
  | .elsewhere => line.elsewhere address
  | .proxy => course.reply

/-- How a push ended. -/
structure PushResult where
  accepted : Bool
  status : Option Int
  error : Option String
  /-- How many milliseconds it took. -/
  elapsed : Nat
  /-- Whether every pushed rule is live; nothing if that was not asked. -/
  converged : Option Bool
deriving DecidableEq, Repr

namespace PushResult

def flagJson : Option Bool → Json
  | some b => .bool b
  | none => .null

/-- The fields of the result besides its success. -/
def details (r : PushResult) : Fields :=
  [("statusCode", match r.status with | some n => .int n | none => .null),
    ("error", .ofText? r.error), ("durationMs", .int r.elapsed),
    ("converged", flagJson r.converged)]

/-- The result as a value. -/
def toJson (r : PushResult) : Json := .obj (("ok", .bool r.accepted) :: r.details)

end PushResult

namespace Client

/-- The most characters of a refused push's answer that are reported. -/
def maxDetail : Nat := 300

/-- The most characters of an error that the status reports. -/
def maxStatusError : Nat := 200

/-- What is reported of an answer with another status than success. -/
def refusalText (status : Int) (body : List UInt8) : String :=
  let detail := Text.clip maxDetail (Text.trim (Text.decodeLossy body))
  "Proxy returned HTTP " ++ Text.decimalInt status ++
    if detail.isEmpty then "" else ": " ++ detail

/-- What is reported when the control plane does not answer. -/
def unreachableText (reason : String) : String := "Proxy control plane unreachable: " ++ reason

/-- The result of a push that got a reply.  Whatever stops it is a fault, and so is a refusal whose body
breaks off. -/
def pushResult (elapsed : Nat) : Reply → Except Fault PushResult
  | .unreachable reason => .ok ⟨false, none, some (unreachableText reason), elapsed, none⟩
  | .timedOut reason => .ok ⟨false, none, some (unreachableText reason), elapsed, none⟩
  | .answered status _ body =>
    if isAccepted status then .ok ⟨true, some status, none, elapsed, none⟩
    else .ok ⟨false, some status, some (refusalText status (body.getD [])), elapsed, none⟩
  | .found _ => .ok ⟨true, none, none, elapsed, none⟩
  | .cutShort _ _ cut => .error cut.fault
  | .stopped why => .error why.fault

/-- The request of a push; null stands for no document. -/
def pushRequest (client : Client) (config : Json) : ProxyRequest :=
  if config == .null then
    ⟨"POST", client.address loadPath, client.timeout, none, none⟩
  else ⟨"POST", client.address loadPath, client.timeout, some configContentType, some config⟩

/-- Send a configuration. -/
def push (client : Client) (config : Json) (line : Line) : Except Fault PushResult × Line :=
  let request := client.pushRequest config
  let course := line.proxy.onPush
  (pushResult course.elapsed (line.reply request.address course),
    { line with
      proxy := if request.arrives then line.proxy.receive config else line.proxy
      requests := line.requests ++ client.sent request course })

/-- The document of a body; a blank body is no document. -/
def documentOf (room : Nat) (body : List UInt8) : Except ExchangeError Json :=
  match Text.decode body with
  | .error reason => .error (.undecodable reason)
  | .ok text =>
    let text := Text.trim text
    if text.isEmpty then .ok .null
    else if Json.overflows room text then .error .tooDeep
    else
      match Json.read text with
      | .ok v => .ok v
      | .error .malformed => .error .notJson
      | .error (.longInteger digits) => .error (.longInteger digits)

/-- The live configuration in a reply. -/
def readReply (room : Nat) (proxy : Proxy) : Reply → Except ExchangeError Json
  | .unreachable reason => .error (.unreachable reason)
  | .timedOut reason => .error (.timedOut reason)
  | .answered status phrase body =>
    if !isAccepted status then .error (.refused status phrase)
    else documentOf room (body.getD (if status == 200 then proxy.shown else []))
  | .found body => documentOf room body
  | .cutShort status phrase _ => .error (.refused status phrase)
  | .stopped why => .error (.stopped why)

def readRequest (client : Client) : ProxyRequest :=
  ⟨"GET", client.address configPath, client.timeout, none, none⟩

/-- Ask for the live configuration. -/
def active (client : Client) (line : Line) : Except ExchangeError Json × Line :=
  let request := client.readRequest
  let course := line.proxy.onRead
  (readReply line.room.reads line.proxy (line.reply request.address course),
    { line with requests := line.requests ++ client.sent request course })

/-- What is made of the answer to the question for the live configuration: `use` makes something of a
configuration that can be gone through, `other` of an error that is expected. -/
def conclude {α : Type} (walks : Nat) (use : Json → α) (other : ExchangeError → α) :
    Except ExchangeError Json → Except Fault α
  | .ok config => if walks < config.depth then .error .tooDeep else .ok (use config)
  | .error e =>
    match e.fault? with
    | some fault => .error fault
    | none => .ok (other e)

/-- The status of the control plane. -/
inductive Status where
  | reachable (loaded : Bool) (routes : Nat) (elapsed : Nat)
  | unreachable (error : String) (elapsed : Nat)
deriving DecidableEq, Repr

/-- Ask for the status of the control plane. -/
def status (client : Client) (line : Line) : Except Fault Status × Line :=
  let elapsed := line.proxy.onRead.elapsed
  let (answer, after) := client.active line
  (conclude line.room.walks
    (fun config => .reachable config.truthy config.ruleIdSet.length elapsed)
    (fun e => .unreachable (Text.clip maxStatusError e.text) elapsed) answer, after)

def Status.toJson (client : Client) : Status → Json
  | .reachable loaded routes elapsed =>
    .obj [("reachable", .bool true), ("loaded", .bool loaded), ("adminUrl", .str client.adminUrl),
      ("routes", .int routes), ("latencyMs", .int elapsed)]
  | .unreachable error elapsed =>
    .obj [("reachable", .bool false), ("loaded", .bool false), ("adminUrl", .str client.adminUrl),
      ("error", .str error), ("latencyMs", .int elapsed)]

/-- Whether a configuration has every rule. -/
def hasRules (config : Json) (ruleIds : List String) : Bool :=
  ruleIds.all (config.ruleIds.contains ·)

/-- Ask whether every rule is live. -/
def confirm (client : Client) (ruleIds : List String) (line : Line) : Except Fault Bool × Line :=
  let (answer, after) := client.active line
  (conclude line.room.walks (hasRules · ruleIds) (fun _ => false) answer, after)

end Client

end EdgeProxy
