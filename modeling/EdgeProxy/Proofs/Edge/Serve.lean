import EdgeProxy.Proofs.Edge.Range
import EdgeProxy.Text.LowerCase
/-!
How the proxy serves a request by its document.  Rules are gone through in order; the handlers of a rule
that fits the request run one after the other, and each may answer or hand over to what comes next.
What comes next after a terminal rule is nothing at all, after any other rule it is the next rule, and
after a subroute it is whatever came next for the subroute itself.

This is the part of the proxy's language that compiled documents are written in.  Whatever lies outside
of it has no outcome.  Hosts are compared as wholes, ignoring case; a star in one, which no request can
bring into a registry, has no meaning of its own.  Headers that are added on the way are left out: no
rule reads them.
-/

namespace EdgeProxy

/-- The items of a list; other values have none. -/
def Json.items : Json → List Json
  | .arr items => items
  | _ => []

/-- The fields of an object; other values have none. -/
def Json.fields : Json → Fields
  | .obj fields => fields
  | _ => []

/-- The items of the list under a key. -/
def Fields.listed (fields : Fields) (key : String) : List Json := (fields.valueOf key).items

theorem Fields.sizeOf_valueOf (fields : Fields) (key : String) :
    sizeOf (fields.valueOf key) ≤ sizeOf fields := by
  induction fields with
  | nil => simp [valueOf, get?]
  | cons p rest ih =>
      obtain ⟨k, v⟩ := p
      by_cases hk : k = key
      · have hvalue : valueOf ((k, v) :: rest) key = v := by simp [valueOf, get?, hk]
        rw [hvalue]
        simp only [List.cons.sizeOf_spec, Prod.mk.sizeOf_spec]
        omega
      · have hvalue : valueOf ((k, v) :: rest) key = valueOf rest key := by
          simp [valueOf, get?, hk]
        rw [hvalue]
        simp only [List.cons.sizeOf_spec]
        omega

theorem Fields.sizeOf_listed (fields : Fields) (key : String) :
    sizeOf (fields.listed key) ≤ sizeOf fields := by
  have hvalue := fields.sizeOf_valueOf key
  rw [listed]
  cases hv : fields.valueOf key with
  | arr items =>
      rw [hv, Json.arr.sizeOf_spec] at hvalue
      simp only [Json.items]
      omega
  | _ =>
      have hpositive : 1 ≤ sizeOf fields := by
        cases fields <;> simp only [List.nil.sizeOf_spec, List.cons.sizeOf_spec] <;> omega
      simp only [Json.items, List.nil.sizeOf_spec]
      exact hpositive

namespace Edge

/-- A request that the proxy makes of a backend, perhaps for another path than it was asked for. -/
structure Contact where
  address : String
  path : Option String
deriving DecidableEq

/-- The answer of a backend; a status has three digits. -/
structure Reply where
  status : Nat
  headers : List (String × String)
  digits : 100 ≤ status ∧ status < 1000

/-- A request that reaches the proxy, and what the backends would answer. -/
structure Visit where
  host : String
  client : Address
  headers : List (String × String)
  reply : Contact → Reply

/-- What the caller is answered. -/
inductive Answer where
  /-- No handler answers. -/
  | nothing
  /-- The answer of a backend. -/
  | relayed (contact : Contact)
  /-- An answer of the proxy's own. -/
  | own (status : Int) (location : Option String)
deriving DecidableEq

/-- The backends that are contacted, in order, and the answer. -/
structure Outcome where
  contacts : List Contact
  answer : Answer
deriving DecidableEq

namespace Outcome

/-- Nothing happens. -/
def nothing : Outcome := ⟨[], .nothing⟩

/-- A backend's answer is the answer. -/
def relay (contact : Contact) : Outcome := ⟨[contact], .relayed contact⟩

/-- A backend is contacted before. -/
def after (contact : Contact) (o : Outcome) : Outcome := ⟨contact :: o.contacts, o.answer⟩

end Outcome

/-- Whether two texts are equal ignoring case. -/
def sameText (a b : String) : Bool := Text.lower a == Text.lower b

/-- Whether a value is the wanted one; a star stands for any. -/
def valueFits (value : String) (wanted : Json) : Bool := wanted == .str "*" || wanted == .str value

/-- Whether every wanted header is there with a wanted value. -/
def headersFit (headers : List (String × String)) (wanted : Fields) : Bool :=
  wanted.all fun (name, values) =>
    headers.any fun (n, value) => sameText n name && values.items.any (valueFits value)

/-- Whether a caller's address lies in one of the ranges. -/
def callerFits? (client : Address) : List Json → Option Bool
  | [] => some false
  | .str s :: rest => do
    let range ← Range.ofText? s
    let more ← callerFits? client rest
    some (range.contains client || more)
  | _ :: _ => none

/-- Whether a value is the name of a host. -/
def isNameOf (host : String) : Json → Bool
  | .str name => sameText name host
  | _ => false

def matcherFits? (visit : Visit) (kind : String) (wanted : Json) : Option Bool :=
  if kind = "host" then some (wanted.items.any (isNameOf visit.host))
  else if kind = "header" then some (headersFit visit.headers wanted.fields)
  else if kind = "remote_ip" then callerFits? visit.client (wanted.fields.listed "ranges")
  else none

/-- Whether a request fits all matchers of a set. -/
def setFits? (visit : Visit) : Fields → Option Bool
  | [] => some true
  | (kind, wanted) :: rest => do
    let fits ← matcherFits? visit kind wanted
    let more ← setFits? visit rest
    some (fits && more)

/-- Whether a request fits one of several sets of matchers. -/
def anyFits? (visit : Visit) : List Json → Option Bool
  | [] => some false
  | set :: rest => do
    let fits ← setFits? visit set.fields
    let more ← anyFits? visit rest
    some (fits || more)

/-- Whether a request fits a rule; a rule without matchers fits every request. -/
def ruleFits? (visit : Visit) (rule : Fields) : Option Bool :=
  if rule.has "match" then anyFits? visit (rule.listed "match") else some true

/-- Whether a status is the wanted one, or of the wanted class. -/
def statusFits (status : Nat) : Json → Bool
  | .int n => n == status || n < 100 && n == status / 100
  | _ => false

/-- Whether an answer fits all of some matchers. -/
def replyFits? (reply : Reply) : Fields → Option Bool
  | [] => some true
  | (kind, wanted) :: rest => do
    let fits ←
      if kind = "status_code" then some (wanted.items.any (statusFits reply.status))
      else if kind = "headers" then some (headersFit reply.headers wanted.fields)
      else none
    let more ← replyFits? reply rest
    some (fits && more)

/-- The one backend of a handler, and the path that it is asked for. -/
def contact? (handler : Fields) : Option Contact :=
  match handler.listed "upstreams" with
  | [backend] =>
    match backend.fields.get? "dial", (handler.valueOf "rewrite").fields.get? "uri" with
    | some (.str address), none => some ⟨address, none⟩
    | some (.str address), some (.str path) => some ⟨address, some path⟩
    | _, _ => none
  | _ => none

/-- An answer of the proxy's own. -/
def ownAnswer? (handler : Fields) : Option Outcome :=
  match handler.get? "status_code", (handler.valueOf "headers").fields.listed "Location" with
  | some (.int status), [] => some ⟨[], .own status none⟩
  | some (.int status), [.str location] => some ⟨[], .own status (some location)⟩
  | _, _ => none

mutual
/-- What comes of rules, where `next` is what comes of what follows them. -/
def rules (visit : Visit) (next : Option Outcome) : List Json → Option Outcome
  | .obj rule :: rest =>
    match ruleFits? visit rule with
    | none => none
    | some false => rules visit next rest
    | some true =>
      handlers visit
        (if Fields.get? rule "terminal" = some (.bool true) then some .nothing else rules visit next rest)
        (Fields.listed rule "handle")
  | [] => next
  | _ :: _ => none
termination_by l => sizeOf l
decreasing_by
  all_goals
    have hlisted := Fields.sizeOf_listed rule "handle"
    simp only [List.cons.sizeOf_spec, Json.obj.sizeOf_spec]
    omega

/-- What comes of handlers, where `next` is what comes of what follows them. -/
def handlers (visit : Visit) (next : Option Outcome) : List Json → Option Outcome
  | .obj handler :: rest =>
    if Fields.get? handler "handler" = some (.str "headers") then handlers visit next rest
    else if Fields.get? handler "handler" = some (.str "static_response") then ownAnswer? handler
    else if Fields.get? handler "handler" = some (.str "subroute") then
      rules visit (handlers visit next rest) (Fields.listed handler "routes")
    else if Fields.get? handler "handler" = some (.str "reverse_proxy") then
      match contact? handler with
      | none => none
      | some contact =>
        (replies visit (handlers visit next rest) contact (Fields.listed handler "handle_response")).map
          (.after contact)
    else none
  | [] => next
  | _ :: _ => none
termination_by l => sizeOf l
decreasing_by
  all_goals
    have hroutes := Fields.sizeOf_listed handler "routes"
    have hreplies := Fields.sizeOf_listed handler "handle_response"
    simp only [List.cons.sizeOf_spec, Json.obj.sizeOf_spec]
    omega

/-- What comes of a backend's answer: the first case that fits it is gone through, and without any the
caller is given the answer. -/
def replies (visit : Visit) (next : Option Outcome) (contact : Contact) :
    List Json → Option Outcome
  | .obj entry :: rest =>
    match replyFits? (visit.reply contact) (Fields.valueOf entry "match").fields with
    | none => none
    | some false => replies visit next contact rest
    | some true => rules visit next (Fields.listed entry "routes")
  | [] => some ⟨[], .relayed contact⟩
  | _ :: _ => none
termination_by l => sizeOf l
decreasing_by
  all_goals
    have hlisted := Fields.sizeOf_listed entry "routes"
    simp only [List.cons.sizeOf_spec, Json.obj.sizeOf_spec]
    omega
end

/-- The value that a path of keys leads to. -/
def valueAt (v : Json) (keys : List String) : Json :=
  keys.foldl (fun v key => v.fields.valueOf key) v

/-- What comes of a request to a server of a document. -/
def serve (server : String) (document : Json) (visit : Visit) : Option Outcome :=
  rules visit (some .nothing) (valueAt document ["apps", "http", "servers", server, "routes"]).items

end Edge

end EdgeProxy
