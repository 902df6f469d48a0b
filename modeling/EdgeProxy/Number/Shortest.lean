import EdgeProxy.Number.Binary64
import EdgeProxy.Text.Digit
/-!
The text of a floating-point number: the fewest decimal digits that read back as the number, the
nearest of those if there are several.  `shortest` finds the digits, `Layout` says how a text is
made of them.
-/

namespace EdgeProxy

/-- The decimal number `digits · 10 ^ exponent`. -/
structure Decimal where
  digits : Nat
  exponent : Int
deriving DecidableEq, Repr

namespace Decimal

/-- Move trailing zeros of the digits into the exponent. -/
def normalize (fuel : Nat) (d : Decimal) : Decimal :=
  match fuel with
  | 0 => d
  | fuel + 1 =>
    if d.digits != 0 && d.digits % 10 == 0 then
      normalize fuel ⟨d.digits / 10, d.exponent + 1⟩
    else d

/-- Whether the decimal number reads back as `x`. -/
def readsAs (x : Binary64) (d : Decimal) : Bool :=
  Binary64.ofDecimal x.isNegative d.digits d.exponent == x

end Decimal

namespace Binary64

/-- How many decimal digits stand before the point of a positive quotient; negative when zeros
follow the point. -/
def decimalPlaces (num den : Nat) : Int :=
  (Text.digits (num * tenTo 400 / den)).length - 400

/-- The quotient `num / den` counted in units of `10 ^ place`, as numerator and denominator. -/
def inUnits (num den : Nat) (place : Int) : Nat × Nat :=
  if 0 ≤ place then (num, den * tenTo place.toNat) else (num * tenTo (-place).toNat, den)

/-- The neighbour of the number on the grid of multiples of `10 ^ place` that reads back as the
number; of two the nearer one, and the even one of two equally near. -/
def onGrid? (x : Binary64) (num den : Nat) (place : Int) : Option Decimal :=
  let (n, d) := inUnits num den place
  let below : Decimal := ⟨n / d, place⟩
  let above : Decimal := ⟨n / d + 1, place⟩
  let nearest : Decimal := ⟨roundQuotient n d, place⟩
  match below.readsAs x, above.readsAs x with
  | true, true => some nearest
  | true, false => some below
  | false, true => some above
  | false, false => none

/-- The first hit on the grids of `count` digits and more. -/
def searchGrids (x : Binary64) (num den : Nat) (places : Int) : Nat → Nat → Option Decimal
  | 0, _ => none
  | tries + 1, count =>
    match onGrid? x num den (places - count) with
    | some d => some d
    | none => searchGrids x num den places tries (count + 1)

/-- The exact decimal expansion of a quotient by a power of two. -/
def exactDecimal (significand : Nat) (exponent : Int) : Decimal :=
  if 0 ≤ exponent then ⟨significand * twoTo exponent.toNat, 0⟩
  else ⟨significand * Nat.pow 5 (-exponent).toNat, exponent⟩

/-- The decimal number with its trailing zeros in the exponent, if it still reads back. -/
def tidy (x : Binary64) (d : Decimal) : Decimal :=
  if (d.normalize 20).readsAs x then d.normalize 20 else d

/-- The first hit of the search for a magnitude, or else its exact expansion. -/
def shortestOf (x : Binary64) (significand : Nat) (exponent : Int) (magnitude : Nat × Nat) :
    Decimal :=
  ((searchGrids x magnitude.1 magnitude.2 (decimalPlaces magnitude.1 magnitude.2) 17 1).map
    (tidy x)).getD (exactDecimal significand exponent)

/-- The shortest decimal number that reads back as a positive finite number. -/
def shortest (x : Binary64) : Decimal :=
  match x with
  | finite _ m e _ => shortestOf x m e (scaleQuotient m 1 e)
  | _ => ⟨0, 0⟩

/-- How digits are laid out as a text. -/
structure Layout where
  /-- The least and the greatest count of places before the point that are written out. -/
  leastPlaces : Int
  mostPlaces : Int
  /-- The least count of digits of a written exponent. -/
  exponentDigits : Nat
  infinity : String
  notANumber : String

/-- A number is written out with a point from one ten-thousandth up to sixteen places, and with an
exponent of at least two digits otherwise. -/
def plainLayout : Layout := ⟨-3, 16, 2, "inf", "nan"⟩

/-- The layout of documents, where the values that are no finite numbers have names of their own. -/
def documentLayout : Layout := { plainLayout with infinity := "Infinity", notANumber := "NaN" }

def zerosText (n : Nat) : String := String.ofList (List.replicate n '0')

/-- The exponent with its sign and at least the given count of digits. -/
def exponentText (least : Nat) (e : Int) : String :=
  let body := Text.decimal e.natAbs
  (if e < 0 then "-" else "+") ++ zerosText (least - body.length) ++ body

/-- The text of a decimal number with the given digits. -/
def Layout.place (layout : Layout) (d : Decimal) : String :=
  let ds := Text.digits d.digits
  let text (l : List Nat) : String := String.ofList (l.map Text.digitChar)
  let places : Int := ds.length + d.exponent
  if layout.leastPlaces ≤ places && places ≤ layout.mostPlaces then
    if places ≤ 0 then "0." ++ zerosText (-places).toNat ++ text ds
    else if (ds.length : Int) ≤ places then
      text ds ++ zerosText (places - ds.length).toNat ++ ".0"
    else text (ds.take places.toNat) ++ "." ++ text (ds.drop places.toNat)
  else
    let fraction := ds.drop 1
    text (ds.take 1) ++ (if fraction.isEmpty then "" else "." ++ text fraction) ++ "e" ++
      exponentText layout.exponentDigits (places - 1)

def Layout.text (layout : Layout) (x : Binary64) : String :=
  let sign := if x.isNegative then "-" else ""
  match x with
  | nan => layout.notANumber
  | infinite _ => sign ++ layout.infinity
  | finite _ m _ _ => sign ++ if m == 0 then "0.0" else layout.place (shortest x)

/-- The text of a number as people read it. -/
def text (x : Binary64) : String := plainLayout.text x

end Binary64

end EdgeProxy
