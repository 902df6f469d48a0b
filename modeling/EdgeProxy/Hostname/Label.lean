/-!
Names of hosts.  A label has one to sixty-three lower-case letters, digits and hyphens and neither
begins nor ends with a hyphen.  A domain is one or more labels, each followed by a point, and a last
part of two or more letters.  One line break at the very end of a name is passed over.
-/

namespace EdgeProxy.Hostname

/-- A lower-case ASCII letter. -/
def isLetter (c : Char) : Bool := 'a' ≤ c && c ≤ 'z'

/-- A character that a label may begin or end with. -/
def isLabelEdge (c : Char) : Bool := isLetter c || c.isDigit

def isLabelChar (c : Char) : Bool := isLabelEdge c || c == '-'

def maxLabelLength : Nat := 63

def isLabel (cs : List Char) : Bool :=
  cs.all isLabelChar && cs.head?.any isLabelEdge && cs.getLast?.any isLabelEdge &&
    cs.length ≤ maxLabelLength

/-- The parts of a name between its points; there is always at least one. -/
def parts : List Char → List (List Char)
  | [] => [[]]
  | c :: rest =>
    if c == '.' then [] :: parts rest
    else
      match parts rest with
      | [] => [[c]]
      | part :: more => (c :: part) :: more

/-- Drop one line break at the end. -/
def dropLineBreak (cs : List Char) : List Char :=
  if cs.getLast? == some '\n' then cs.dropLast else cs

/-- Whether the characters are labels separated by points. -/
def isLabels (cs : List Char) : Bool := (parts cs).all isLabel

/-- Whether the characters end a domain: two or more letters. -/
def isTopPart (cs : List Char) : Bool := 2 ≤ cs.length && cs.all isLetter

/-- Whether the characters are one or more labels with a point after each, and a last part. -/
def isDomainName (cs : List Char) : Bool :=
  let ps := parts cs
  2 ≤ ps.length && ps.dropLast.all isLabel && ps.getLast?.any isTopPart

def isLabelText (s : String) : Bool := isLabel (dropLineBreak s.toList)

def isLabelsText (s : String) : Bool := isLabels (dropLineBreak s.toList)

def isDomainText (s : String) : Bool := isDomainName (dropLineBreak s.toList)

theorem parts_ne_nil (cs : List Char) : parts cs ≠ [] := by
  cases cs with
  | nil => simp [parts]
  | cons c rest =>
    unfold parts
    split
    · simp
    · split <;> simp

end EdgeProxy.Hostname
