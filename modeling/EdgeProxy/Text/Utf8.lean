/-!
UTF-8.  `scan` reads a sequence of bytes as characters and marks every piece that is not the start
of any character; `decode` refuses such a piece with its reason and `decodeLossy` shows each as one
replacement character.
-/

namespace EdgeProxy.Text

/-- Why a piece of a byte sequence is no character. -/
inductive Utf8Error where
  | start
  | continuation
  | ending
deriving DecidableEq, Repr

def Utf8Error.reason : Utf8Error → String
  | .start => "invalid start byte"
  | .continuation => "invalid continuation byte"
  | .ending => "unexpected end of data"

/-- A byte of the form 10xxxxxx. -/
def isTail (b : UInt8) : Bool := 0x80 ≤ b.toNat && b.toNat < 0xC0

/-- Whether the byte after a leading byte `a` of three is one that the form admits: neither an
overlong form nor a surrogate. -/
def isSecondOfThree (a b : UInt8) : Bool :=
  isTail b && !(a.toNat == 0xE0 && b.toNat < 0xA0) && !(a.toNat == 0xED && 0xA0 ≤ b.toNat)

/-- Whether the byte after a leading byte `a` of four is one that the form admits: neither an
overlong form nor a value above the last code point. -/
def isSecondOfFour (a b : UInt8) : Bool :=
  isTail b && !(a.toNat == 0xF0 && b.toNat < 0x90) && !(a.toNat == 0xF4 && 0x90 ≤ b.toNat)

def tailBits (b : UInt8) : Nat := b.toNat % 0x40

/-- The characters of a byte sequence in order, with a mark for each longest piece that starts no
character. -/
def scan : List UInt8 → List (Except Utf8Error Char)
  | [] => []
  | a :: rest =>
    if a.toNat < 0x80 then .ok (Char.ofNat a.toNat) :: scan rest
    else if a.toNat < 0xC2 || 0xF5 ≤ a.toNat then .error .start :: scan rest
    else if a.toNat < 0xE0 then
      match rest with
      | [] => [.error .ending]
      | b :: rest =>
        if isTail b then
          .ok (Char.ofNat (a.toNat % 0x20 * 0x40 + tailBits b)) :: scan rest
        else .error .continuation :: scan (b :: rest)
    else if a.toNat < 0xF0 then
      match rest with
      | [] => [.error .ending]
      | b :: rest =>
        if isSecondOfThree a b then
          match rest with
          | [] => [.error .ending]
          | c :: rest =>
            if isTail c then
              .ok (Char.ofNat ((a.toNat % 0x10 * 0x40 + tailBits b) * 0x40 + tailBits c)) ::
                scan rest
            else .error .continuation :: scan (c :: rest)
        else .error .continuation :: scan (b :: rest)
    else
      match rest with
      | [] => [.error .ending]
      | b :: rest =>
        if isSecondOfFour a b then
          match rest with
          | [] => [.error .ending]
          | c :: rest =>
            if isTail c then
              match rest with
              | [] => [.error .ending]
              | d :: rest =>
                if isTail d then
                  .ok (Char.ofNat (((a.toNat % 0x08 * 0x40 + tailBits b) * 0x40 + tailBits c) * 0x40
                    + tailBits d)) :: scan rest
                else .error .continuation :: scan (d :: rest)
            else .error .continuation :: scan (c :: rest)
        else .error .continuation :: scan (b :: rest)

/-- The characters of scanned text, or the first reason against it. -/
def allChars : List (Except Utf8Error Char) → Except Utf8Error (List Char)
  | [] => .ok []
  | .error e :: _ => .error e
  | .ok c :: rest =>
    match allChars rest with
    | .ok cs => .ok (c :: cs)
    | .error e => .error e

/-- The text that a byte sequence encodes. -/
def decode (bytes : List UInt8) : Except Utf8Error String :=
  match allChars (scan bytes) with
  | .ok cs => .ok (String.ofList cs)
  | .error e => .error e

/-- The text of a byte sequence, with a replacement character for each piece that encodes none. -/
def decodeLossy (bytes : List UInt8) : String :=
  String.ofList ((scan bytes).map fun
    | .ok c => c
    | .error _ => '\uFFFD')

def encodeChar (c : Char) : List UInt8 :=
  let n := c.toNat
  if n < 0x80 then [UInt8.ofNat n]
  else if n < 0x800 then [UInt8.ofNat (0xC0 + n / 0x40), UInt8.ofNat (0x80 + n % 0x40)]
  else if n < 0x10000 then
    [UInt8.ofNat (0xE0 + n / 0x1000), UInt8.ofNat (0x80 + n / 0x40 % 0x40),
      UInt8.ofNat (0x80 + n % 0x40)]
  else
    [UInt8.ofNat (0xF0 + n / 0x40000), UInt8.ofNat (0x80 + n / 0x1000 % 0x40),
      UInt8.ofNat (0x80 + n / 0x40 % 0x40), UInt8.ofNat (0x80 + n % 0x40)]

/-- The bytes of a text. -/
def encode (s : String) : List UInt8 := s.toList.flatMap encodeChar

end EdgeProxy.Text
