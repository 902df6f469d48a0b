/-!
Looking for one text inside another.
-/

namespace EdgeProxy.Text

/-- Whether the characters of `part` stand in a row somewhere in `cs`. -/
def holds (part : List Char) : List Char → Bool
  | [] => part.isEmpty
  | c :: rest => part.isPrefixOf (c :: rest) || holds part rest

def contains (s part : String) : Bool := holds part.toList s.toList

/-- The characters before the first occurrence of `mark` and those after it. -/
def splitAtFirst (mark : List Char) : List Char → Option (List Char × List Char)
  | [] => if mark.isEmpty then some ([], []) else none
  | c :: rest =>
    if mark.isPrefixOf (c :: rest) then some ([], (c :: rest).drop mark.length)
    else (splitAtFirst mark rest).map fun (before, after) => (c :: before, after)

/-- What follows the first occurrence of `mark`, or the whole text if there is none. -/
def afterFirst (mark s : String) : String :=
  match splitAtFirst mark.toList s.toList with
  | some (_, after) => String.ofList after
  | none => s

/-- What precedes the first occurrence of `mark`, or the whole text if there is none. -/
def beforeFirst (mark s : String) : String :=
  match splitAtFirst mark.toList s.toList with
  | some (before, _) => String.ofList before
  | none => s

end EdgeProxy.Text
