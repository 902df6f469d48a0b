/-!
Values in the distinguished encoding: a tag, a length in its shortest form and that many bytes of
content.
-/

namespace EdgeProxy.Der

/-- An encoded value. -/
structure Value where
  tag : Nat
  content : List UInt8
deriving DecidableEq, Repr

/-- The number that bytes denote, most significant first. -/
def bigEndian (bytes : List UInt8) : Nat := bytes.foldl (fun n b => n * 256 + b.toNat) 0

/-- A length at the front of the bytes, in its shortest form. -/
def readLength : List UInt8 → Option (Nat × List UInt8)
  | [] => none
  | b :: rest =>
    if b.toNat < 0x80 then some (b.toNat, rest)
    else
      let count := b.toNat - 0x80
      let digits := rest.take count
      let n := bigEndian digits
      if count == 0 || 4 < count || digits.length < count || digits.head? == some 0 || n < 0x80 then
        none
      else some (n, rest.drop count)

/-- The tag whose number is written in further bytes. -/
def extendedTag : Nat := 0x1F

/-- A value at the front of the bytes. -/
def read : List UInt8 → Option (Value × List UInt8)
  | [] => none
  | tag :: rest =>
    if tag.toNat % 0x20 == extendedTag then none
    else
      match readLength rest with
      | none => none
      | some (n, rest) =>
        if rest.length < n then none else some (⟨tag.toNat, rest.take n⟩, rest.drop n)

/-- All values of a sequence of bytes; every value takes at least two bytes. -/
def readMany (fuel : Nat) (bytes : List UInt8) : Option (List Value) :=
  match fuel, bytes with
  | _, [] => some []
  | 0, _ => none
  | fuel + 1, bytes =>
    match read bytes with
    | none => none
    | some (v, rest) => (readMany fuel rest).map (v :: ·)

/-- All values of the bytes. -/
def readAll (bytes : List UInt8) : Option (List Value) := readMany bytes.length bytes

/-- The one value that the bytes are. -/
def readWhole (bytes : List UInt8) : Option Value :=
  match read bytes with
  | some (v, []) => some v
  | _ => none

namespace Tag

def boolean : Nat := 0x01
def integer : Nat := 0x02
def bits : Nat := 0x03
def octets : Nat := 0x04
def identifier : Nat := 0x06
def utcTime : Nat := 0x17
def generalTime : Nat := 0x18
def universalText : Nat := 0x1C
def wideText : Nat := 0x1E
def sequence : Nat := 0x30
def set : Nat := 0x31

/-- The constructed context tag of a number. -/
def context (n : Nat) : Nat := 0xA0 + n

def contextPrimitive (n : Nat) : Nat := 0x80 + n

end Tag

/-- The content of a value with a given tag. -/
def Value.contentOf (v : Value) (tag : Nat) : Option (List UInt8) :=
  if v.tag == tag then some v.content else none

/-- The values inside a value with a given tag. -/
def Value.members (v : Value) (tag : Nat) : Option (List Value) :=
  (v.contentOf tag).bind readAll

/-- Whether the content is an integer in its shortest form. -/
def isInteger (content : List UInt8) : Bool :=
  match content with
  | [] => false
  | [_] => true
  | a :: b :: _ => !(a == 0 && b.toNat < 0x80) && !(a == 0xFF && 0x80 ≤ b.toNat)

/-- Whether the content is an object identifier: groups of seven bits, none with a leading zero. -/
def isIdentifier (content : List UInt8) : Bool :=
  match content.getLast? with
  | none => false
  | some last =>
    last.toNat < 0x80 && content.head? != some 0x80 &&
      (content.zip (content.drop 1)).all fun (a, b) => !(a.toNat < 0x80 && b == 0x80)

/-- Whether the content is a string of bits: a count of unused bits, which are zero, and bytes. -/
def isBits (content : List UInt8) : Bool :=
  match content with
  | [] => false
  | unused :: bytes =>
    unused.toNat < 8 &&
      match bytes.getLast? with
      | none => unused == 0
      | some last => last.toNat % Nat.pow 2 unused.toNat == 0

end EdgeProxy.Der
