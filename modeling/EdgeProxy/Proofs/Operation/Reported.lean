import EdgeProxy.Proofs.Operation.Once
/-!
What is told of a change that was saved.  As long as the exchange with the control plane returns, the answer is a
success, whatever becomes of the push; otherwise there is no answer although the file was replaced.
-/

namespace EdgeProxy

/-- An answer tells that a change was saved, and whether the proxy accepted it. -/
structure Answer.Reports (answer : Answer) (accepted : Bool) : Prop where
  success : Fields.get? answer.fields "success" = some (.bool true)
  applied : Fields.get? answer.fields "applied" = some (.bool accepted)
  silent : accepted = true → Fields.get? answer.fields "applyError" = none
  reason : accepted = false → ∃ why, Fields.get? answer.fields "applyError" = some (.str why)

namespace Answer

/-- What is said of the push stands behind what is said of the change. -/
theorem get?_saved (message : Option String) {subject : Subject} (applied : Applied) {key : String}
    (hsuccess : "success" ≠ key) (hmessage : "message" ≠ key) (hsubject : subject.key ≠ key) :
    Fields.get? (saved message subject applied).fields key = Fields.get? (applyFields applied) key := by
  cases message with
  | none => simp [fields, Fields.get?, hsuccess, hsubject]
  | some text => simp [fields, Fields.get?, hsuccess, hmessage, hsubject]

end Answer

namespace World

/-- A proxy that accepts everything and answers to the question for its live configuration with what is no
answer. -/
def garbling : Line :=
  { empty.line with proxy := { Proxy.fresh with onRead := .straight (.stopped .protocol) } }

end World

end EdgeProxy
