import EdgeProxy.Text.Numeral
import EdgeProxy.Text.Percent
import EdgeProxy.Time.Instant
import EdgeProxy.Yaml.Value
/-!
What a plain scalar stands for: null, a flag, an integer, a number, a date, or else a text.
Underscores in numbers are passed over, and numbers may be given in base sixty with colons.
-/

namespace EdgeProxy.Yaml

/-- Why a document is not read. -/
inductive ReadError where
  /-- The text does not follow the grammar. -/
  | malformed
  /-- A scalar has the form of a number or a date but stands for none. -/
  | badScalar
deriving DecidableEq, Repr

def nullWords : List String := ["~", "null", "Null", "NULL", ""]

def trueWords : List String :=
  ["yes", "Yes", "YES", "true", "True", "TRUE", "on", "On", "ON"]

def falseWords : List String :=
  ["no", "No", "NO", "false", "False", "FALSE", "off", "Off", "OFF"]

/-- The words for an infinity, without a sign. -/
def infinityWords : List String := [".inf", ".Inf", ".INF"]

def nanWords : List String := [".nan", ".NaN", ".NAN"]

def reservedWords : List String := ["=", "<<"]

def withoutUnderscores (cs : List Char) : List Char := cs.filter (· != '_')

/-- Whether a character is a digit of a base up to ten, or an underscore. -/
def isDigitOf (base : Nat) (c : Char) : Bool :=
  c == '_' || (Text.asciiDigit? c).any (· < base)

/-- The number that digits of a base denote; characters that are no digits are passed over. -/
def ofBase (base : Nat) (cs : List Char) : Nat :=
  (cs.filterMap Text.hexValue?).foldl (fun n d => n * base + d) 0

/-- Whether characters are a part of a number in base sixty: up to two digits, less than sixty. -/
def isSixtieth (cs : List Char) : Bool :=
  match cs with
  | [a] => a.isDigit
  | [a, b] => '0' ≤ a && a ≤ '5' && b.isDigit
  | _ => false

def colonParts (cs : List Char) : List (List Char) :=
  match cs with
  | [] => [[]]
  | c :: rest =>
    if c == ':' then [] :: colonParts rest
    else
      match colonParts rest with
      | [] => [[c]]
      | part :: more => (c :: part) :: more

/-- An integer, given whether it is negative and the characters after its sign. -/
def integer? (negative : Bool) (cs : List Char) : Option (Except ReadError Int) :=
  let signed (n : Nat) : Option (Except ReadError Int) :=
    some (.ok (if negative then -(n : Int) else n))
  let plain (cs : List Char) : Option (Except ReadError Int) :=
    let ds := withoutUnderscores cs
    if Text.maxIntegerDigits < ds.length then some (.error .badScalar) else signed (ofBase 10 ds)
  match cs with
  | ['0'] => signed 0
  | '0' :: 'b' :: rest =>
    if rest.isEmpty || !rest.all (isDigitOf 2) then none
    else if (withoutUnderscores rest).isEmpty then some (.error .badScalar)
    else signed (ofBase 2 rest)
  | '0' :: 'x' :: rest =>
    if rest.isEmpty || !rest.all (fun c => c == '_' || (Text.hexValue? c).isSome) then none
    else if (withoutUnderscores rest).isEmpty then some (.error .badScalar)
    else signed (ofBase 16 rest)
  | '0' :: rest => if rest.all (isDigitOf 8) then signed (ofBase 8 rest) else none
  | c :: rest =>
    if !c.isDigit then none
    else
      match colonParts rest with
      | [rest] => if rest.all (isDigitOf 10) then plain (c :: rest) else none
      | first :: more =>
        if first.all (isDigitOf 10) && more.all isSixtieth then
          signed (more.foldl (fun n part => n * 60 + ofBase 10 part) (ofBase 10 (c :: first)))
        else none
      | [] => none
  | [] => none

/-- The exponent at the end of a number: a sign is required. -/
def exponent? (cs : List Char) : Option Int :=
  match cs with
  | [] => some 0
  | e :: sign :: d :: rest =>
    if (e == 'e' || e == 'E') && (sign == '+' || sign == '-') && (d :: rest).all Char.isDigit then
      some (Text.signedOfDigits (sign == '-') ((d :: rest).filterMap Text.asciiDigit?))
    else none
  | _ => none

/-- A number with a point, given whether it is negative and the characters before and after the
point. -/
def pointed? (negative : Bool) (whole fraction : List Char) : Option Binary64 :=
  let digits := fraction.takeWhile (isDigitOf 10)
  let ds := withoutUnderscores digits
  (exponent? (fraction.drop digits.length)).map fun e =>
    Binary64.ofDecimal negative (ofBase 10 (withoutUnderscores whole ++ ds)) (e - ds.length)

/-- A number in base sixty with a point. -/
def sixtyPointed? (negative : Bool) (first : List Char) (more : List (List Char))
    (fraction : List Char) : Option Binary64 :=
  if !first.isEmpty && first.head? != some '_' && first.all (isDigitOf 10) &&
      more.all isSixtieth && fraction.all (isDigitOf 10) then
    let whole := more.foldl (fun n part => n * 60 + ofBase 10 part) (ofBase 10 first)
    let ds := withoutUnderscores fraction
    some (Binary64.ofQuotient negative (whole * tenTo ds.length + ofBase 10 ds) (tenTo ds.length))
  else none

/-- A number, given its sign and the characters after it. -/
def number? (signed negative : Bool) (cs : List Char) : Option Binary64 :=
  let whole := cs.takeWhile (· != '.')
  match cs.drop whole.length with
  | '.' :: fraction =>
    match colonParts whole with
    | [[]] =>
      if signed || !fraction.head?.any Char.isDigit then none else pointed? negative [] fraction
    | [whole] =>
      if whole.head? != some '_' && whole.all (isDigitOf 10) then pointed? negative whole fraction
      else none
    | first :: more => sixtyPointed? negative first more fraction
    | [] => none
  | _ => none

/-- Up to two digits at the front, at least one. -/
def oneOrTwo (cs : List Char) : Option (Nat × List Char) :=
  let ds := (cs.take 2).takeWhile Char.isDigit
  if ds.isEmpty then none else some (ofBase 10 ds, cs.drop ds.length)

/-- A given character at the front. -/
def mark? (c : Char) (cs : List Char) : Option (List Char) :=
  if cs.head? == some c then some (cs.drop 1) else none

/-- The distance from universal time in minutes, without its sign; nothing stands for none. -/
def zone? (cs : List Char) : Option Nat :=
  match cs.dropWhile fun c => c == ' ' || c == '\t' with
  | [] => some 0
  | ['Z'] => some 0
  | sign :: rest =>
    if sign == '+' || sign == '-' then
      match oneOrTwo rest with
      | some (hours, []) => some (60 * hours)
      | some (hours, [':', a, b]) =>
        if a.isDigit && b.isDigit then some (60 * hours + ofBase 10 [a, b]) else none
      | _ => none
    else none

/-- A time of day: hour, minute, second and the distance from universal time. -/
structure DayTime where
  hour : Nat
  minute : Nat
  second : Nat
  zone : Nat
deriving DecidableEq, Repr

def DayTime.midnight : DayTime := ⟨0, 0, 0, 0⟩

def timeOfDay? (cs : List Char) : Option DayTime := do
  let (hour, cs) ← oneOrTwo cs
  let cs ← mark? ':' cs
  let (minute, second, cs) ←
    match cs with
    | a :: b :: ':' :: c :: d :: rest =>
      if [a, b, c, d].all Char.isDigit then some (ofBase 10 [a, b], ofBase 10 [c, d], rest)
      else none
    | _ => none
  let cs :=
    match cs with
    | '.' :: rest => rest.dropWhile Char.isDigit
    | cs => cs
  (zone? cs).map fun zone => ⟨hour, minute, second, zone⟩

/-- The rest of a time stamp after its date. -/
def afterDate? (cs : List Char) : Option DayTime :=
  match cs with
  | [] => none
  | c :: rest =>
    if c == 'T' || c == 't' then timeOfDay? rest
    else if c == ' ' || c == '\t' then
      timeOfDay? (rest.dropWhile fun c => c == ' ' || c == '\t')
    else none

/-- The minutes of a day; no place is that far from universal time. -/
def minutesPerDay : Nat := 1440

/-- A value for a date and a time of day that exist. -/
def properOr (year month day : Nat) (t : DayTime) (v : Value) : Except ReadError Value :=
  if (Instant.Civil.mk year month day t.hour t.minute t.second 0).isProper &&
      t.zone < minutesPerDay then .ok v
  else .error .badScalar

/-- A date, or a date with a time of day. -/
def stamp? (cs : List Char) : Option (Except ReadError Value) := do
  let ys := cs.take 4
  if ys.length != 4 || !ys.all Char.isDigit then none
  let rest ← mark? '-' (cs.drop 4)
  let (month, afterMonth) ← oneOrTwo rest
  let rest ← mark? '-' afterMonth
  let (day, tail) ← oneOrTwo rest
  match tail with
  | [] =>
    if cs.length == 10 then some (properOr (ofBase 10 ys) month day .midnight .date) else none
  | tail =>
    (afterDate? tail).map fun t => properOr (ofBase 10 ys) month day t .dateTime

/-- What a plain scalar stands for. -/
def resolve (s : String) : Except ReadError Value :=
  let cs := s.toList
  let (negative, body) := Text.splitSign cs
  let signed := body.length != cs.length
  if nullWords.contains s then .ok .null
  else if trueWords.contains s then .ok (.bool true)
  else if falseWords.contains s then .ok (.bool false)
  else if infinityWords.contains (String.ofList body) then .ok (.float (.infinite negative))
  else if nanWords.contains s then .ok (.float .nan)
  else if reservedWords.contains s then .error .malformed
  else
    match integer? negative body with
    | some (.ok n) => .ok (.int n)
    | some (.error e) => .error e
    | none =>
      match number? signed negative body with
      | some x => .ok (.float x)
      | none =>
        match stamp? cs with
        | some r => r
        | none => .ok (.text s)

end EdgeProxy.Yaml
