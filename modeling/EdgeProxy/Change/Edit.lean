/-!
Replacing the first item of a list that satisfies a condition.
-/

namespace EdgeProxy

/-- Put another item in the place of the first one that satisfies `p`. -/
def replaceFirst {α : Type} (p : α → Bool) (b : α) : List α → List α
  | [] => []
  | a :: rest => if p a then b :: rest else a :: replaceFirst p b rest

end EdgeProxy
