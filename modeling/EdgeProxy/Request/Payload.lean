import EdgeProxy.Request.Rejection
import EdgeProxy.Text.Search
/-!
Looking into the payload of a request, which may be any value.
-/

namespace EdgeProxy.Payload

/-- A field of a payload that has to be an object; null if the object lacks it. -/
def field (v : Json) (key : String) : Requested Json :=
  match v with
  | .obj fields => .ok (Fields.valueOf fields key)
  | _ => .error (.fault .noFields)

/-- Whether and with what value a key is given.  A list or a text mentions a key if it holds it, and
then has no value for it; other values cannot be searched. -/
def given (v : Json) (key : String) : Requested (Option Json) :=
  match v with
  | .obj fields => .ok (Fields.get? fields key)
  | .arr items => if items.contains (.str key) then .error (.fault .wrongKind) else .ok none
  | .str s => if Text.contains s key then .error (.fault .wrongKind) else .ok none
  | _ => .error (.fault .wrongKind)

/-- Let the value of a key, if it is given, act on something. -/
def whenGiven {α : Type} (v : Json) (key : String) (act : Json → α → Requested α) (a : α) :
    Requested α := do
  match ← given v key with
  | some value => act value a
  | none => .ok a

end EdgeProxy.Payload
