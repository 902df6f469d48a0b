import EdgeProxy.File.Path
import EdgeProxy.Json.Basic
import EdgeProxy.Registry.Issue
import EdgeProxy.Text.LowerCase
import EdgeProxy.Text.Numeral
/-!
Reading single values of a document.  A text is accepted for a number or a flag if it spells one,
and a number for a flag if it is zero or one.
-/

namespace EdgeProxy.Scalar

def text : Json → Checked String
  | .str s => .valid s
  | _ => .fail .notText

def optionalText : Json → Checked (Option String)
  | .null => .valid none
  | .str s => .valid (some s)
  | _ => .fail .notText

/-- Numbers from here on are not taken for integers unless they are written as such. -/
def wordLimit : Int := twoTo 63

/-- Whether an integer lies strictly between the limits of a signed word. -/
def inWord (n : Int) : Bool := -wordLimit < n && n < wordLimit

/-- The integer that a number without fraction is equal to. -/
def integerOfNumber (x : Binary64) : Checked Int :=
  match x.truncate? with
  | none => .fail .notFinite
  | some n =>
    if !x.isWhole then .fail .integerFraction
    else if inWord n then .valid n
    else .fail .integerSize

/-- The most bytes of a text that is taken for an integer. -/
def maxIntegerBytes : Nat := 4300

/-- The integer that a text spells. -/
def integerOfText (s : String) : Checked Int :=
  if maxIntegerBytes < (String.ofList (Text.trimWith Text.isSpace s.toList)).utf8ByteSize then
    .fail .integerSize
  else
    match Text.readPlainInteger s with
    | some n => .valid n
    | none => .fail .integerText

def integer : Json → Checked Int
  | .int n => .valid n
  | .bool b => .valid (if b then 1 else 0)
  | .float x => integerOfNumber x
  | .str s => integerOfText s
  | _ => .fail .notInteger

def yesTexts : List String := ["true", "t", "yes", "y", "on", "1"]

def noTexts : List String := ["false", "f", "no", "n", "off", "0"]

/-- The flag that a text spells, letters of either case. -/
def flagOfText (s : String) : Checked Bool :=
  let s := String.ofList (s.toList.map Char.toLower)
  if yesTexts.contains s then .valid true
  else if noTexts.contains s then .valid false
  else .fail .flagText

def flagOfInteger (n : Int) : Checked Bool :=
  if n == 0 then .valid false
  else if n == 1 then .valid true
  else if inWord n || n == -wordLimit then .fail .flagText
  else .fail .notFlag

def flag : Json → Checked Bool
  | .bool b => .valid b
  | .int n => flagOfInteger n
  | .float x =>
    match integerOfNumber x with
    | .valid n => flagOfInteger n
    | .invalid _ => .fail .notFlag
  | .str s => flagOfText s
  | _ => .fail .notFlag

/-- The words that stand for numbers that are not finite. -/
def numberWords : List (String × Binary64) :=
  [("inf", .infinite false), ("infinity", .infinite false), ("nan", .nan)]

def signedNumber (negative : Bool) : Binary64 → Binary64
  | .infinite _ => .infinite negative
  | x => x

/-- The number that characters spell, digits or a word in letters of either case. -/
def numberOfChars (cs : List Char) : Option Binary64 :=
  let (negative, body) := Text.splitSign cs
  match numberWords.lookup (String.ofList (body.map Char.toLower)) with
  | some x => some (signedNumber negative x)
  | none =>
    (Text.readMagnitude negative body).map fun d =>
      Binary64.ofDecimal d.negative (Text.ofDigits d.digits) d.exponent

/-- The number that a text spells. -/
def numberOfText (s : String) : Checked Binary64 :=
  let cs := Text.trimWith Text.isSpace s.toList
  match numberOfChars cs with
  | some x => .valid x
  | none =>
    match (Text.dropUnderscores cs).bind numberOfChars with
    | some x => .valid x
    | none => .fail .numberText

def number : Json → Checked Binary64
  | .float x => .valid x
  | .int n => .valid (Binary64.ofInt n)
  | .bool b => .valid (Binary64.ofInt (if b then 1 else 0))
  | .str s => numberOfText s
  | _ => .fail .notNumber

def path : Json → Checked Path
  | .str s => .valid (Path.ofText s)
  | _ => .fail .notPath

/-- A list whose items pass a check. -/
def list {α : Type} (check : Json → Checked α) : Json → Checked (List α)
  | .arr items => Checked.items check 0 items
  | _ => .fail .notList

/-- A map whose values pass a check. -/
def map {α : Type} (check : Json → Checked α) : Json → Checked (List (String × α))
  | .obj fields => Checked.entries check fields
  | _ => .fail .notMap

/-- A record whose fields pass a check. -/
def record {α : Type} (check : Fields → Checked α) : Json → Checked α
  | .obj fields => check fields
  | _ => .fail .notRecord

/-- Null, or a value that passes a check. -/
def optional {α : Type} (check : Json → Checked α) : Json → Checked (Option α)
  | .null => .valid none
  | v => (check v).map some

end EdgeProxy.Scalar
