import EdgeProxy.Json.Basic
import EdgeProxy.Text.Numeral
import EdgeProxy.Text.Percent
/-!
Reading JSON text.  The grammar is the usual one, with the three names of the values that are no
finite numbers.  A key that is given twice keeps its first place and its last value.
-/

namespace EdgeProxy.Json

/-- Why a text is not read. -/
inductive ReadError where
  /-- The text does not follow the grammar. -/
  | malformed
  /-- The text holds an integer of too many digits. -/
  | longInteger (digits : Nat)
deriving DecidableEq, Repr

/-- The blank characters of the grammar. -/
def isGap (c : Char) : Bool := c == ' ' || c == '\t' || c == '\n' || c == '\r'

/-- Drop leading blanks. -/
def skipGap (cs : List Char) : List Char := cs.dropWhile isGap

/-- The leading digits and what follows them. -/
def spanDigits (cs : List Char) : List Char × List Char :=
  (cs.takeWhile Char.isDigit, cs.dropWhile Char.isDigit)

/-- The number that a run of digit characters denotes. -/
def digitsValue (cs : List Char) : Nat := Text.ofDigits (cs.filterMap Text.asciiDigit?)

/-- The fraction after a whole part, if there is one. -/
def spanFraction (cs : List Char) : Option (List Char) × List Char :=
  match cs with
  | '.' :: rest =>
    match spanDigits rest with
    | ([], _) => (none, cs)
    | (ds, rest) => (some ds, rest)
  | _ => (none, cs)

/-- The exponent after a number, if there is one. -/
def spanExponent (cs : List Char) : Option Int × List Char :=
  match cs with
  | c :: rest =>
    if c == 'e' || c == 'E' then
      let (negative, body) := Text.splitSign rest
      match spanDigits body with
      | ([], _) => (none, cs)
      | (ds, rest) =>
        (some (if negative then -(digitsValue ds : Int) else digitsValue ds), rest)
    else (none, cs)
  | [] => (none, cs)

/-- The whole part of a number: a zero that stands alone, or digits. -/
def spanWhole : List Char → List Char × List Char
  | '0' :: rest => (['0'], rest)
  | cs => spanDigits cs

/-- The number of a whole part, a fraction and an exponent; without the last two it is an
integer. -/
def numberOf (negative : Bool) (whole : List Char) (fraction : Option (List Char))
    (exponent : Option Int) : Except ReadError Json :=
  match fraction, exponent with
  | none, none =>
    if Text.maxIntegerDigits < whole.length then .error (.longInteger whole.length)
    else
      let n : Int := digitsValue whole
      .ok (.int (if negative then -n else n))
  | _, _ =>
    let after := fraction.getD []
    .ok (.float (Binary64.ofDecimal negative (digitsValue (whole ++ after))
      (exponent.getD 0 - after.length)))

/-- A number without its sign, at the front of the text. -/
def readMagnitude (negative : Bool) (cs : List Char) :
    Except ReadError (Json × List Char) :=
  let (whole, rest) := spanWhole cs
  if whole.isEmpty then .error .malformed
  else
    let (fraction, rest) := spanFraction rest
    let (exponent, rest) := spanExponent rest
    match numberOf negative whole fraction exponent with
    | .ok v => .ok (v, rest)
    | .error e => .error e

/-- A name at the front of the text. -/
def dropWord (word cs : List Char) : Option (List Char) :=
  if word.isPrefixOf cs then some (cs.drop word.length) else none

/-- The value of four hexadecimal digits at the front of the text. -/
def readHex4 : List Char → Option (Nat × List Char)
  | a :: b :: c :: d :: rest =>
    match Text.hexValue? a, Text.hexValue? b, Text.hexValue? c, Text.hexValue? d with
    | some a, some b, some c, some d => some (((a * 16 + b) * 16 + c) * 16 + d, rest)
    | _, _, _, _ => none
  | _ => none

/-- The character of an escape of one letter. -/
def simpleEscape? (c : Char) : Option Char :=
  match c with
  | '"' => some '"'
  | '\\' => some '\\'
  | '/' => some '/'
  | 'b' => some '\x08'
  | 'f' => some '\x0c'
  | 'n' => some '\n'
  | 'r' => some '\r'
  | 't' => some '\t'
  | _ => none

/-- The character of a code unit and, if it is the first of a surrogate pair, of the escape after
it; half a pair stands for the replacement character. -/
def unitChar (unit : Nat) (rest : List Char) : Char × List Char :=
  if 0xD800 ≤ unit && unit < 0xDC00 then
    match rest with
    | '\\' :: 'u' :: rest' =>
      match readHex4 rest' with
      | some (low, rest'') =>
        if 0xDC00 ≤ low && low < 0xE000 then
          (Char.ofNat (0x10000 + (unit - 0xD800) * 0x400 + (low - 0xDC00)), rest'')
        else ('\uFFFD', rest)
      | none => ('\uFFFD', rest)
    | _ => ('\uFFFD', rest)
  else if 0xDC00 ≤ unit && unit < 0xE000 then ('\uFFFD', rest)
  else (Char.ofNat unit, rest)

/-- The characters of a string up to its closing mark; `acc` holds those read so far, last
first. -/
def readChars (fuel : Nat) (acc : List Char) (cs : List Char) :
    Option (String × List Char) :=
  match fuel with
  | 0 => none
  | fuel + 1 =>
    match cs with
    | [] => none
    | '"' :: rest => some (String.ofList acc.reverse, rest)
    | '\\' :: 'u' :: rest =>
      match readHex4 rest with
      | some (unit, rest) =>
        let (c, rest) := unitChar unit rest
        readChars fuel (c :: acc) rest
      | none => none
    | '\\' :: c :: rest =>
      match simpleEscape? c with
      | some c => readChars fuel (c :: acc) rest
      | none => none
    | c :: rest => if c.toNat < 0x20 || c == '\\' then none else readChars fuel (c :: acc) rest

/-- A string after its opening mark. -/
def readString (cs : List Char) : Except ReadError (String × List Char) :=
  match readChars (cs.length + 1) [] cs with
  | some r => .ok r
  | none => .error .malformed

mutual
/-- A value at the front of the text, which no blank precedes. -/
def readValue (fuel : Nat) (cs : List Char) : Except ReadError (Json × List Char) :=
  match fuel with
  | 0 => .error .malformed
  | fuel + 1 =>
    match cs with
    | [] => .error .malformed
    | '"' :: rest =>
      match readString rest with
      | .ok (s, rest) => .ok (.str s, rest)
      | .error e => .error e
    | '[' :: rest =>
      match skipGap rest with
      | ']' :: rest => .ok (.arr [], rest)
      | rest =>
        match readItems fuel rest with
        | .ok (items, rest) => .ok (.arr items, rest)
        | .error e => .error e
    | '\x7b' :: rest =>
      match skipGap rest with
      | '\x7d' :: rest => .ok (.obj [], rest)
      | rest =>
        match readPairs fuel rest with
        | .ok (pairs, rest) => .ok (.obj (Fields.ofPairs pairs), rest)
        | .error e => .error e
    | '-' :: rest =>
      match dropWord "Infinity".toList rest with
      | some rest => .ok (.float (.infinite true), rest)
      | none => readMagnitude true rest
    | c :: rest =>
      if c.isDigit then readMagnitude false (c :: rest)
      else
        match dropWord "null".toList cs, dropWord "true".toList cs, dropWord "false".toList cs,
            dropWord "NaN".toList cs, dropWord "Infinity".toList cs with
        | some rest, _, _, _, _ => .ok (.null, rest)
        | _, some rest, _, _, _ => .ok (.bool true, rest)
        | _, _, some rest, _, _ => .ok (.bool false, rest)
        | _, _, _, some rest, _ => .ok (.float .nan, rest)
        | _, _, _, _, some rest => .ok (.float (.infinite false), rest)
        | _, _, _, _, _ => .error .malformed

/-- The items of a list, at least one, up to the closing bracket. -/
def readItems (fuel : Nat) (cs : List Char) : Except ReadError (List Json × List Char) :=
  match fuel with
  | 0 => .error .malformed
  | fuel + 1 =>
    match readValue fuel cs with
    | .error e => .error e
    | .ok (v, rest) =>
      match skipGap rest with
      | ']' :: rest => .ok ([v], rest)
      | ',' :: rest =>
        match readItems fuel (skipGap rest) with
        | .ok (vs, rest) => .ok (v :: vs, rest)
        | .error e => .error e
      | _ => .error .malformed

/-- The pairs of an object, at least one, up to the closing brace. -/
def readPairs (fuel : Nat) (cs : List Char) :
    Except ReadError (List (String × Json) × List Char) :=
  match fuel with
  | 0 => .error .malformed
  | fuel + 1 =>
    match cs with
    | '"' :: rest =>
      match readString rest with
      | .error e => .error e
      | .ok (key, rest) =>
        match skipGap rest with
        | ':' :: rest =>
          match readValue fuel (skipGap rest) with
          | .error e => .error e
          | .ok (v, rest) =>
            match skipGap rest with
            | '\x7d' :: rest => .ok ([(key, v)], rest)
            | ',' :: rest =>
              match readPairs fuel (skipGap rest) with
              | .ok (pairs, rest) => .ok ((key, v) :: pairs, rest)
              | .error e => .error e
            | _ => .error .malformed
        | _ => .error .malformed
    | _ => .error .malformed
end

/-- The value of a text that holds one value between blanks. -/
def read (text : String) : Except ReadError Json :=
  let cs := text.toList
  match readValue (cs.length + 1) (skipGap cs) with
  | .error e => .error e
  | .ok (v, rest) =>
    match skipGap rest with
    | [] => .ok v
    | _ => .error .malformed

end EdgeProxy.Json
