import EdgeProxy.Proofs.Edge.Serve
import EdgeProxy.Route.Basic
/-!
What a route can be read to be for, from its line in the list of routes and from its rule in the proxy's
document.  The two are written separately; both tell the same.
-/

namespace EdgeProxy

/-- What a route is for: its rule, the hostname, the address that requests are passed on to, and the guards. -/
structure Assignment where
  ruleId : String
  hostname : String
  upstream : String
  requireAuth : Bool
  localOnly : Bool
deriving DecidableEq

namespace Reading

def text? : Json → Option String
  | .str s => some s
  | _ => none

def flag? : Json → Option Bool
  | .bool b => some b
  | _ => none

/-- The only item of a list. -/
def only? : List Json → Option Json
  | [v] => some v
  | _ => none

/-- What the line of a route in the list of routes says. -/
def summary? (line : Json) : Option Assignment := do
  let ruleId ← text? (line.fields.valueOf "id")
  let hostname ← text? (line.fields.valueOf "domain")
  let upstream ← text? (line.fields.valueOf "upstream")
  let requireAuth ← flag? (line.fields.valueOf "requireAuth")
  let localOnly ← flag? (line.fields.valueOf "localOnly")
  some ⟨ruleId, hostname, upstream, requireAuth, localOnly⟩

/-- The branches of a subroute; other handlers have none. -/
def branches (handler : Json) : List Json :=
  if handler.fields.valueOf "handler" == .str "subroute" then handler.fields.listed "routes" else []

/-- The branch for callers from certain addresses, if a handler lets only those through: it comes first, and
no other one is tried after it. -/
def localBranch? (handler : Json) : Option Json :=
  (branches handler).head?.filter fun branch =>
    branch.fields.valueOf "terminal" == .bool true &&
      (branch.fields.listed "match").any (·.fields.has "remote_ip")

/-- The handlers that any request comes to: those of the last branch of a subroute, or the handler itself. -/
def general (handler : Json) : List Json :=
  match (branches handler).getLast? with
  | some branch => branch.fields.listed "handle"
  | none => [handler]

/-- Whether a handler goes by what another service answers. -/
def isInquiry (handler : Json) : Bool := handler.fields.has "handle_response"

/-- The address that a handler passes requests on to. -/
def dialled? (handler : Json) : Option String := do
  let upstream ← only? (handler.fields.listed "upstreams")
  text? (upstream.fields.valueOf "dial")

/-- The hostname that a rule is for. -/
def hostname? (rule : Json) : Option String := do
  let matcher ← only? (rule.fields.listed "match")
  let hostname ← only? (matcher.fields.listed "host")
  text? hostname

/-- What a rule of the document says.  Its last handler does the work: it may let only some callers through,
and what is behind that may ask another service first. -/
def rule? (rule : Json) : Option Assignment := do
  let ruleId ← text? (rule.fields.valueOf "@id")
  let hostname ← hostname? rule
  let handler ← (rule.fields.listed "handle").getLast?
  let inner ← match localBranch? handler with
    | some branch => only? (branch.fields.listed "handle")
    | none => some handler
  let last ← (general inner).getLast?
  let upstream ← dialled? last
  some ⟨ruleId, hostname, upstream, (general inner).any isInquiry, (localBranch? handler).isSome⟩

end Reading

namespace Route

/-- A route that both its line and its rule tell to be for something. -/
structure Carries (route : Route) (a : Assignment) : Prop where
  summary : Reading.summary? route.summary = some a
  rule : Reading.rule? route.toJson = some a

theorem carries_make (settings : Settings) (base ruleId domain backend : String)
    (requireAuth localOnly system : Bool) (environment : Option String) :
    (make settings base ruleId domain backend requireAuth localOnly system environment).Carries
      ⟨ruleId, domain, backend, requireAuth, localOnly⟩ where
  summary := rfl
  rule := by
    cases requireAuth with
    | false => cases localOnly <;> rfl
    | true =>
        -- In a development environment the branch for web sockets comes before the general one.
        have hbranches : webSocketBranches backend environment = [] ∨
            webSocketBranches backend environment =
              [.mk .webSocket [.forward backend] true] := by
          rw [webSocketBranches]
          split
          · exact .inr rfl
          · exact .inl rfl
        rw [toJson, make, chain, guarded]
        rcases hbranches with hnone | hsocket
        · rw [hnone]
          cases localOnly <;> rfl
        · rw [hsocket]
          cases localOnly <;> rfl

end Route

end EdgeProxy
