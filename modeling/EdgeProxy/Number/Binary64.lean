/-!
Binary floating-point numbers of 64 bits, as exact values.  A finite number is a sign, a
significand and a power of two in the one canonical form of the format, so equal numbers are equal
values.  Rounding is to nearest, ties to the even significand, in exact integer arithmetic.
-/

namespace EdgeProxy

def twoTo (n : Nat) : Nat := Nat.pow 2 n

def tenTo (n : Nat) : Nat := Nat.pow 10 n

/-- The significands and exponents of the format: 53 bits, all used unless the exponent is least. -/
def CanonicalBinary64 (significand : Nat) (exponent : Int) : Prop :=
  significand < twoTo 53 ∧ -1074 ≤ exponent ∧ exponent ≤ 971 ∧
    (twoTo 52 ≤ significand ∨ exponent = -1074)

instance (m : Nat) (e : Int) : Decidable (CanonicalBinary64 m e) := by
  unfold CanonicalBinary64; infer_instance

/-- A number of the format: `±significand · 2 ^ exponent`, an infinity, or no number. -/
inductive Binary64 where
  | finite (negative : Bool) (significand : Nat) (exponent : Int)
      (canonical : CanonicalBinary64 significand exponent)
  | infinite (negative : Bool)
  | nan
deriving DecidableEq

namespace Binary64

theorem canonical_zero : CanonicalBinary64 0 (-1074) := by decide

def zero (negative : Bool) : Binary64 := .finite negative 0 (-1074) canonical_zero

/-- The number with the given parts; parts outside the format stand for an overflow. -/
def ofParts (negative : Bool) (significand : Nat) (exponent : Int) : Binary64 :=
  if h : CanonicalBinary64 significand exponent then .finite negative significand exponent h
  else .infinite negative

/-- The integer nearest to a quotient; a tie goes to the even one. -/
def roundQuotient (num den : Nat) : Nat :=
  let q := num / den
  let r := num % den
  if den < 2 * r || (2 * r == den && q % 2 == 1) then q + 1 else q

/-- A quotient times a power of two, as numerator and denominator. -/
def scaleQuotient (num den : Nat) (power : Int) : Nat × Nat :=
  if 0 ≤ power then (num * twoTo power.toNat, den) else (num, den * twoTo (-power).toNat)

/-- The exponent of the highest power of two that does not exceed a positive quotient. -/
def quotientLog2 (num den : Nat) : Int :=
  let k : Int := (Nat.log2 num : Int) - Nat.log2 den
  let (n, d) := scaleQuotient num den (-k)
  if d ≤ n then k else k - 1

/-- The number nearest to a quotient with a positive denominator. -/
def ofQuotient (negative : Bool) (num den : Nat) : Binary64 :=
  if num == 0 then zero negative
  else
    let e : Int := max (-1074) (quotientLog2 num den - 52)
    let (n, d) := scaleQuotient num den (-e)
    let m := roundQuotient n d
    if m == twoTo 53 then ofParts negative (twoTo 52) (e + 1) else ofParts negative m e

/-- The number nearest to `digits · 10 ^ exponent`. -/
def ofDecimal (negative : Bool) (digits : Nat) (exponent : Int) : Binary64 :=
  if digits == 0 then zero negative
  else if 400 < exponent then .infinite negative
  else if exponent + (Nat.log2 digits + 1 : Nat) < -1200 then zero negative
  else if 0 ≤ exponent then ofQuotient negative (digits * tenTo exponent.toNat) 1
  else ofQuotient negative digits (tenTo (-exponent).toNat)

/-- The number nearest to an integer. -/
def ofInt (z : Int) : Binary64 := ofQuotient (z < 0) z.natAbs 1

/-- Whether the number is zero of either sign. -/
def isZero : Binary64 → Bool
  | finite _ m _ _ => m == 0
  | _ => false

/-- Whether the number is finite. -/
def isFinite : Binary64 → Bool
  | finite .. => true
  | _ => false

/-- The magnitude of a finite number as numerator and denominator. -/
def magnitude? : Binary64 → Option (Nat × Nat)
  | finite _ m e _ => some (scaleQuotient m 1 e)
  | _ => none

/-- Whether the number is negative, zeros with a sign included. -/
def isNegative : Binary64 → Bool
  | finite negative .. => negative
  | infinite negative => negative
  | nan => false

/-- The integer part of a finite number. -/
def truncate? (x : Binary64) : Option Int :=
  x.magnitude?.map fun (n, d) => if x.isNegative then -((n / d : Nat) : Int) else (n / d : Nat)

/-- Whether a finite number has no fraction. -/
def isWhole (x : Binary64) : Bool :=
  match x.magnitude? with
  | some (n, d) => n % d == 0
  | none => false

/-- Equality as numbers: the two zeros are equal. -/
def sameNumber (x y : Binary64) : Bool := x == y || (x.isZero && y.isZero)

/-- Whether the number equals an integer. -/
def equalsInt (x : Binary64) (z : Int) : Bool := x.isWhole && x.truncate? == some z

end Binary64

end EdgeProxy
