import EdgeProxy.Fault
import EdgeProxy.Json.Writer
import EdgeProxy.Proxy.Address
/-!
The proxy's control plane as its client sees it: what it answers to a new configuration and to the
question for the live one.  A request may be sent on to other addresses before it is answered, and its
answer may break off.
-/

namespace EdgeProxy

/-- What stands in the way of a request, or of its answer. -/
inductive Obstacle where
  /-- The address has no scheme. -/
  | noScheme (address : String)
  /-- No connection can be asked for with this address or timeout. -/
  | value (why : String)
  /-- The timeout is too long for the clock. -/
  | range
  /-- The address, or what comes back, is none that the protocol knows, or breaks off. -/
  | protocol
deriving DecidableEq, Repr

/-- The fault that an obstacle is to those who do not expect it. -/
def Obstacle.fault : Obstacle → Fault
  | noScheme address => .noScheme address
  | value _ => .badTarget
  | range => .overflow
  | protocol => .offProtocol

/-- How the body of an answer breaks off. -/
inductive Cut where
  | early
  /-- The line was lost. -/
  | lost (why : String)
deriving DecidableEq, Repr

/-- The fault of a body that breaks off. -/
def Cut.fault : Cut → Fault
  | early => .offProtocol
  | lost why => .lineLost why

/-- Whether a status means that the request was accepted. -/
def isAccepted (status : Int) : Bool := 200 ≤ status && status < 300

/-- What becomes of a request. -/
inductive Reply where
  | unreachable (reason : String)
  | timedOut (reason : String)
  /-- An answer with a status, its phrase and its body; without a body of its own the answer to the
  question for the live configuration is that configuration. -/
  | answered (status : Int) (phrase : String) (body : Option (List UInt8))
  /-- What stands at an address where no proxy is asked. -/
  | found (body : List UInt8)
  /-- A refusal whose body breaks off. -/
  | cutShort (status : Int) (phrase : String) (cut : Cut)
  | stopped (why : Obstacle)
deriving DecidableEq, Repr

/-- Whether a reply means that the request was accepted. -/
def Reply.isAccepted : Reply → Bool
  | answered status _ _ => EdgeProxy.isAccepted status
  | found _ => true
  | _ => false

/-- The course that a request takes: the addresses it is sent on to, one after the other, its reply and the
milliseconds until then. -/
structure Course where
  hops : List String
  reply : Reply
  elapsed : Nat
deriving DecidableEq, Repr

namespace Course

/-- A request that is replied to where it was sent. -/
def straight (reply : Reply) : Course := ⟨[], reply, 0⟩

/-- A plain good answer. -/
def good : Course := straight (.answered 200 "" none)

end Course

/-- The proxy: what becomes of requests to it, whether a configuration that is sent becomes the live one, which
rules it loses, and its live configuration. -/
structure Proxy where
  onPush : Course
  onRead : Course
  takes : Bool
  lost : List String
  live : Json

namespace Proxy

/-- A proxy that accepts everything and has no configuration yet. -/
def fresh : Proxy := ⟨.good, .good, true, [], .null⟩

/-- Whether a value is a rule that the proxy loses. -/
def isLost (lost : List String) : Json → Bool
  | .obj fields =>
    match Fields.get? fields "@id" with
    | some (.str id) => lost.contains id
    | _ => false
  | _ => false

mutual
/-- A document without the lost rules. -/
def keep (lost : List String) : Json → Json
  | .arr items => .arr (keepItems lost items)
  | .obj fields => .obj (keepFields lost fields)
  | v => v

/-- The items of a list that are not lost. -/
def keepItems (lost : List String) : List Json → List Json
  | [] => []
  | v :: rest => if isLost lost v then keepItems lost rest else keep lost v :: keepItems lost rest

/-- The fields of an object without the lost rules. -/
def keepFields (lost : List String) : List (String × Json) → List (String × Json)
  | [] => []
  | (k, v) :: rest => (k, keep lost v) :: keepFields lost rest
end

/-- The configuration that the proxy reports. -/
def reported (proxy : Proxy) : Json := keep proxy.lost proxy.live

/-- The text in which the proxy shows its configuration. -/
def shown (proxy : Proxy) : List UInt8 := Text.encode (proxy.reported.render .line ++ "\n")

/-- The proxy after a configuration was sent to it. -/
def receive (proxy : Proxy) (config : Json) : Proxy :=
  if proxy.takes then { proxy with live := config } else proxy

end Proxy

/-- A request that was made. -/
structure ProxyRequest where
  method : String
  address : String
  timeout : Binary64
  contentType : Option String
  /-- The configuration that was sent. -/
  body : Option Json

/-- Whether a request leads to the proxy; only such a request is seen there. -/
def ProxyRequest.arrives (q : ProxyRequest) : Bool := Address.reach q.address == .proxy

/-- The name by which the client makes itself known. -/
def userAgent : String := "homeroute/1.0"

def configContentType : String := "application/json"

/-- A client of the control plane. -/
structure Client where
  adminUrl : String
  timeout : Binary64

namespace Client

/-- The client of an address; slashes at its end are dropped. -/
def make (address : String) (timeout : Binary64) : Client :=
  ⟨Text.dropTrailing '/' address, timeout⟩

/-- The address of a path of the control plane. -/
def address (client : Client) (path : String) : String := Address.unwrap (client.adminUrl ++ path)

def loadPath : String := "/load"

def configPath : String := "/config/"

/-- The request by which an address is followed that a request was sent on to. -/
def follow (client : Client) (address : String) : ProxyRequest :=
  ⟨"GET", address, client.timeout, none, none⟩

/-- The requests that are made where one takes a course. -/
def sent (client : Client) (first : ProxyRequest) (course : Course) : List ProxyRequest :=
  if first.arrives then first :: course.hops.map client.follow else []

end Client

end EdgeProxy
