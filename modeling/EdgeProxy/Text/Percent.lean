import EdgeProxy.Text.Utf8
/-!
Percent-encoding of a text for a query value.  Unreserved characters and braces stand for
themselves, every other byte of the UTF-8 form becomes a percent sign and two hexadecimal digits.
Braces stay because a proxy fills in what stands between them when a request arrives.
-/

namespace EdgeProxy.Text

/-- The hexadecimal digits in the order of their value, letters in upper case. -/
def upperHex (n : Nat) : Char :=
  if n < 10 then Char.ofNat ('0'.toNat + n) else Char.ofNat ('A'.toNat + (n - 10))

/-- The hexadecimal digits in the order of their value, letters in lower case. -/
def lowerHex (n : Nat) : Char :=
  if n < 10 then Char.ofNat ('0'.toNat + n) else Char.ofNat ('a'.toNat + (n - 10))

/-- The value of a hexadecimal digit in either case. -/
def hexValue? (c : Char) : Option Nat :=
  if '0' ≤ c && c ≤ '9' then some (c.toNat - '0'.toNat)
  else if 'a' ≤ c && c ≤ 'f' then some (c.toNat - 'a'.toNat + 10)
  else if 'A' ≤ c && c ≤ 'F' then some (c.toNat - 'A'.toNat + 10)
  else none

/-- Letters, digits and the four marks that never need an escape. -/
def isUnreserved (c : Char) : Bool :=
  c.isAlphanum || c == '_' || c == '.' || c == '-' || c == '~'

/-- The characters that stand for themselves in an encoded text. -/
def isLiteral (c : Char) : Bool := isUnreserved c || c == '\x7b' || c == '\x7d'

def percentByte (b : UInt8) : List Char :=
  let c := Char.ofNat b.toNat
  if b.toNat < 0x80 && isLiteral c then [c]
  else ['%', upperHex (b.toNat / 16), upperHex (b.toNat % 16)]

def percentEncode (s : String) : String := String.ofList ((encode s).flatMap percentByte)

/-- The bytes that an encoded text stands for; a percent sign without two digits stands for
itself. -/
def percentDecode : List Char → List UInt8
  | [] => []
  | '%' :: a :: b :: rest =>
    match hexValue? a, hexValue? b with
    | some x, some y => UInt8.ofNat (16 * x + y) :: percentDecode rest
    | _, _ => encodeChar '%' ++ percentDecode (a :: b :: rest)
  | c :: rest => encodeChar c ++ percentDecode rest

end EdgeProxy.Text
