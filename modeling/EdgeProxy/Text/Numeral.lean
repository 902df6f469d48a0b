import EdgeProxy.Text.Blank
import EdgeProxy.Text.Digit
/-!
Integers written in a text.  Digits may be grouped by single underscores and may be preceded by one
sign.  `readInteger` takes the digits of every script; `readPlainInteger` takes ASCII digits and a
fraction of zeros.
-/

namespace EdgeProxy.Text

def maxIntegerDigits : Nat := 4300

/-- Digits with at most one underscore between two of them, at least one digit. -/
def groupedDigits (digit? : Char → Option Nat) : List Char → Option (List Nat)
  | [] => none
  | c :: rest =>
    match digit? c with
    | none => none
    | some d =>
      match rest with
      | [] => some [d]
      | '_' :: rest => (groupedDigits digit? rest).map (d :: ·)
      | c' :: rest => (groupedDigits digit? (c' :: rest)).map (d :: ·)

/-- Split off a leading sign; `true` means negative. -/
def splitSign : List Char → Bool × List Char
  | '-' :: rest => (true, rest)
  | '+' :: rest => (false, rest)
  | cs => (false, cs)

/-- The integer with a given sign and digits. -/
def signedOfDigits (negative : Bool) (ds : List Nat) : Int :=
  if negative then -(ofDigits ds : Int) else ofDigits ds

/-- The integer that a text between white space denotes. -/
def readInteger (s : String) : Option Int :=
  let (negative, body) := splitSign (trimWith isSpace s.toList)
  match groupedDigits digitValue? body with
  | some ds => if ds.length ≤ maxIntegerDigits then some (signedOfDigits negative ds) else none
  | none => none

/-- Drop a decimal point followed by one or more zeros at the end of a numeral. -/
def dropZeroFraction (cs : List Char) : List Char :=
  match cs.reverse.dropWhile (· == '0') with
  | '.' :: whole => if cs.getLast? == some '0' then whole.reverse else cs
  | _ => cs

/-- The integer that a text between white space denotes in ASCII digits, with or without a fraction
of zeros. -/
def readPlainInteger (s : String) : Option Int :=
  let (negative, body) := splitSign (trimWith isSpace s.toList)
  (groupedDigits asciiDigit? (dropZeroFraction body)).map (signedOfDigits negative)

/-- A decimal numeral: digits with or without a point among them. -/
structure DecimalNumeral where
  negative : Bool
  digits : List Nat
  /-- The power of ten that the digits are counted in. -/
  exponent : Int
deriving DecidableEq, Repr

/-- The digits at the front of a text and what follows them. -/
def spanDecimal : List Char → List Nat × List Char
  | [] => ([], [])
  | c :: rest =>
    match asciiDigit? c with
    | some d =>
      let (ds, rest) := spanDecimal rest
      (d :: ds, rest)
    | none => ([], c :: rest)

def readExponent (cs : List Char) : Option Int :=
  match cs with
  | [] => some 0
  | c :: rest =>
    if c == 'e' || c == 'E' then
      let (negative, body) := splitSign rest
      match spanDecimal body with
      | (d :: ds, []) => some (signedOfDigits negative (d :: ds))
      | _ => none
    else none

/-- The numeral that the characters after a sign spell. -/
def readMagnitude (negative : Bool) (cs : List Char) : Option DecimalNumeral :=
  let (whole, rest) := spanDecimal cs
  let (fraction, rest) :=
    match rest with
    | '.' :: rest => spanDecimal rest
    | _ => ([], rest)
  if whole.isEmpty && fraction.isEmpty then none
  else (readExponent rest).map fun e => ⟨negative, whole ++ fraction, e - fraction.length⟩

/-- Drop underscores that stand alone between other characters. -/
def dropUnderscores (cs : List Char) : Option (List Char) :=
  if cs.head? == some '_' || cs.getLast? == some '_' ||
      (cs.zip (cs.drop 1)).any (fun (a, b) => a == '_' && b == '_') then none
  else some (cs.filter (· != '_'))

end EdgeProxy.Text
