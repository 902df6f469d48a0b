import EdgeProxy.Change.Provider
import EdgeProxy.Operation.World
/-!
Answers of operations.
-/

namespace EdgeProxy

/-- Why an operation is refused. -/
inductive Refusal where
  | rejected (why : Rejection)
  | store (why : StoreError)
  /-- The proxy did not accept the configuration. -/
  | notPushed (why : String)

namespace Refusal

/-- The reason as reported. -/
def text : Refusal → String
  | rejected why => why.text
  | store why => why.text
  | notPushed why => why

/-- How many entities stand in the way. -/
def references? : Refusal → Option Nat
  | rejected why => why.references?
  | _ => none

end Refusal

/-- What a change was about. -/
inductive Subject where
  | baseDomain (domain : String)
  | host (h : Host)
  | environment (e : Environment)
  | application (a : Application)
  /-- The provider, as it is shown. -/
  | provider (view : Json)

namespace Subject

def key : Subject → String
  | baseDomain _ => "baseDomain"
  | host _ => "host"
  | environment _ => "environment"
  | application _ => "application"
  | provider _ => "cloudflare"

/-- The subject as a value. -/
def toJson : Subject → Json
  | baseDomain domain => .str domain
  | host h => h.encode
  | environment e => e.encode
  | application a => a.encode
  | provider view => view

end Subject

/-- The answer of an operation. -/
inductive Answer where
  /-- Nothing was changed. -/
  | refused (why : Refusal)
  /-- The change was saved; whether it is live is told by `applied`. -/
  | saved (message : Option String) (subject : Subject) (applied : Applied)
  /-- The stored registry was pushed again. -/
  | pushed (message : String) (applied : Applied)
  /-- What was asked for. -/
  | shown (fields : Fields)

namespace Answer

def isSuccess : Answer → Bool
  | refused _ => false
  | _ => true

/-- What is said of a push that was refused without a reason. -/
def pushFailed : String := "Push failed"

/-- What is said of the push after a change. -/
def applyFields (a : Applied) : Fields :=
  [("applied", .bool a.push.accepted)] ++
    (if a.push.accepted then [] else [("applyError", .ofText? a.push.error)]) ++
    match a.push.converged with
    | some b => [("converged", .bool b)]
    | none => []

def fields : Answer → Fields
  | refused why =>
    [("success", .bool false), ("error", .str why.text)] ++
      match why.references? with
      | some n => [("references", .int n)]
      | none => []
  | saved message subject applied =>
    [("success", .bool true)] ++
      (match message with
        | some text => [("message", .str text)]
        | none => []) ++
      [(subject.key, subject.toJson)] ++ applyFields applied
  | pushed message applied =>
    [("success", .bool true), ("message", .str message), ("apply", applied.toJson)]
  | shown fields => ("success", .bool true) :: fields

def toJson (a : Answer) : Json := .obj a.fields

end Answer

end EdgeProxy
