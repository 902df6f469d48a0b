import EdgeProxy.Certificate.Der
import EdgeProxy.Text.Digit
import EdgeProxy.Text.Utf8
import EdgeProxy.Time.Instant
/-!
Reading certificates: the names of issuer and subject and the time of expiry.  Bytes that are no
certificate in the distinguished encoding are refused; a certificate of a version that there is not
is told apart from them.
-/

namespace EdgeProxy

/-- What is known of a certificate: names as lists of attributes, and when it expires. -/
structure Certificate where
  issuer : List (List UInt8 × String)
  subject : List (List UInt8 × String)
  expires : Instant
deriving DecidableEq, Repr

namespace Certificate

/-- The identifier of the attribute for the common name. -/
def commonName : List UInt8 := [0x55, 0x04, 0x03]

/-- The identifier of the attribute for the organisation. -/
def organization : List UInt8 := [0x55, 0x04, 0x0A]

/-- The characters of bytes in groups of a width, most significant byte first. -/
def wideChars (width : Nat) (fuel : Nat) (bytes : List UInt8) : Option (List Char) :=
  match fuel, bytes with
  | _, [] => some []
  | 0, _ => none
  | fuel + 1, bytes =>
    let n := Der.bigEndian (bytes.take width)
    if bytes.length < width then none
    else if width == 2 && 0xD800 ≤ n && n < 0xDC00 then
      let low := Der.bigEndian ((bytes.drop 2).take 2)
      if bytes.length < 4 || low < 0xDC00 || 0xE000 ≤ low then none
      else (wideChars width fuel (bytes.drop 4)).map
        (Char.ofNat (0x10000 + (n - 0xD800) * 0x400 + (low - 0xDC00)) :: ·)
    else if (0xD800 ≤ n && n < 0xE000) || 0x10FFFF < n then none
    else (wideChars width fuel (bytes.drop width)).map (Char.ofNat n :: ·)

/-- The text of an attribute's value. -/
def textOf (v : Der.Value) : Option String :=
  if v.tag == Der.Tag.wideText then (wideChars 2 v.content.length v.content).map String.ofList
  else if v.tag == Der.Tag.universalText then
    (wideChars 4 v.content.length v.content).map String.ofList
  else
    match Text.decode v.content with
    | .ok s => some s
    | .error _ => none

def attributeOf (v : Der.Value) : Option (List UInt8 × Der.Value) :=
  match v.members Der.Tag.sequence with
  | some [kind, value] =>
    match kind.contentOf Der.Tag.identifier with
    | some oid => if Der.isIdentifier oid then some (oid, value) else none
    | none => none
  | _ => none

/-- The attributes of one part of a name; a part is never empty. -/
def namePart (v : Der.Value) : Option (List (List UInt8 × Der.Value)) :=
  match v.members Der.Tag.set with
  | some (a :: rest) => (a :: rest).mapM attributeOf
  | _ => none

/-- The attributes of a name, in order. -/
def name (v : Der.Value) : Option (List (List UInt8 × Der.Value)) :=
  (v.members Der.Tag.sequence).bind fun parts => (parts.mapM namePart).map List.flatten

def texts (attributes : List (List UInt8 × Der.Value)) : Option (List (List UInt8 × String)) :=
  attributes.mapM fun (oid, value) => (textOf value).map fun text => (oid, text)

def valueOf? (attributes : List (List UInt8 × String)) (kind : List UInt8) : Option String :=
  attributes.lookup kind

def twoDigits : List Nat → Option (Nat × List Nat)
  | a :: b :: rest => some (10 * a + b, rest)
  | _ => none

/-- The instant of a year and the digits of month, day, hour, minute and second. -/
def instantOf (year : Nat) (ds : List Nat) : Option Instant := do
  let (month, ds) ← twoDigits ds
  let (day, ds) ← twoDigits ds
  let (hour, ds) ← twoDigits ds
  let (minute, ds) ← twoDigits ds
  let (second, ds) ← twoDigits ds
  let civil : Instant.Civil := ⟨year, month, day, hour, minute, second, 0⟩
  if ds.isEmpty && civil.isProper then some (Instant.ofCivil civil 0) else none

/-- The digits of a time that ends with the mark of universal time. -/
def timeDigits (content : List UInt8) : Option (List Nat) :=
  let cs := content.map fun b => Char.ofNat b.toNat
  if cs.getLast? == some 'Z' then cs.dropLast.mapM Text.asciiDigit? else none

/-- A time: years of two digits lie between 1950 and 2049. -/
def time (v : Der.Value) : Option Instant := do
  let ds ← timeDigits v.content
  let (high, rest) ← twoDigits ds
  if v.tag == Der.Tag.utcTime then instantOf (if 50 ≤ high then 1900 + high else 2000 + high) rest
  else if v.tag == Der.Tag.generalTime then
    let (low, rest) ← twoDigits rest
    instantOf (100 * high + low) rest
  else none

/-- The time of expiry of a period of validity. -/
def expiry (v : Der.Value) : Option Instant :=
  match v.members Der.Tag.sequence with
  | some [start, finish] => (time start).bind fun _ => time finish
  | _ => none

/-- Whether a value names an algorithm, with or without parameters. -/
def isAlgorithm (v : Der.Value) : Bool :=
  match v.members Der.Tag.sequence with
  | some [kind] => (kind.contentOf Der.Tag.identifier).any Der.isIdentifier
  | some [kind, _] => (kind.contentOf Der.Tag.identifier).any Der.isIdentifier
  | _ => false

def isKey (v : Der.Value) : Bool :=
  match v.members Der.Tag.sequence with
  | some [algorithm, key] => isAlgorithm algorithm && (key.contentOf Der.Tag.bits).any Der.isBits
  | _ => false

/-- Whether a value is one extension; one that is not critical says nothing about it. -/
def isExtension (v : Der.Value) : Bool :=
  match v.members Der.Tag.sequence with
  | some [kind, value] =>
    (kind.contentOf Der.Tag.identifier).any Der.isIdentifier && value.tag == Der.Tag.octets
  | some [kind, critical, value] =>
    (kind.contentOf Der.Tag.identifier).any Der.isIdentifier &&
      critical.contentOf Der.Tag.boolean == some [0xFF] && value.tag == Der.Tag.octets
  | _ => false

/-- Whether a value holds the list of extensions. -/
def isExtensions (v : Der.Value) : Bool :=
  match (v.contentOf (Der.Tag.context 3)).bind Der.readWhole with
  | some list =>
    match list.members Der.Tag.sequence with
    | some (e :: rest) => (e :: rest).all isExtension
    | _ => false
  | none => false

/-- Drop an optional value at the front. -/
def dropIf (p : Der.Value → Bool) : List Der.Value → List Der.Value
  | v :: rest => if p v then rest else v :: rest
  | [] => []

/-- Whether nothing but the optional parts follows the key. -/
def isEnding (rest : List Der.Value) : Bool :=
  let rest := dropIf (fun v => v.tag == Der.Tag.contextPrimitive 1 && Der.isBits v.content) rest
  let rest := dropIf (fun v => v.tag == Der.Tag.contextPrimitive 2 && Der.isBits v.content) rest
  (dropIf isExtensions rest).isEmpty

/-- The number of the version that a value states, one less than the version.  A version has one byte, and the
first is not stated. -/
def version? (v : Der.Value) : Option Nat :=
  match (v.contentOf (Der.Tag.context 0)).bind Der.readWhole with
  | some n =>
    if n.tag == Der.Tag.integer then
      match n.content with
      | [b] => if 0 < b.toNat && b.toNat < 0x80 then some b.toNat else none
      | [a, b] => if a == 0 && 0x80 ≤ b.toNat then some b.toNat else none
      | _ => none
    else none
  | none => none

/-- The numbers of the versions that there are: the first and the third. -/
def versions : List Nat := [0, 2]

/-- What bytes are as a certificate. -/
inductive Reading where
  | certificate (c : Certificate)
  | badVersion
  | unreadable
deriving DecidableEq, Repr

/-- The signed part of a certificate, apart from its version and the texts of its names. -/
def signedPart (members : List Der.Value) :
    Option (List (List UInt8 × Der.Value) × List (List UInt8 × Der.Value) × Instant) :=
  match members with
  | serial :: algorithm :: issuer :: validity :: subject :: key :: rest => do
    let issuer ← name issuer
    let expires ← expiry validity
    let subject ← name subject
    if serial.tag == Der.Tag.integer && Der.isInteger serial.content && isAlgorithm algorithm &&
        isKey key && isEnding rest then
      some (issuer, subject, expires)
    else none
  | _ => none

/-- The certificate whose signed part has the given members.  Its version is looked at before its names. -/
def ofMembers (members : List Der.Value) : Reading :=
  let version := (members.head?.bind version?).getD 0
  match signedPart (dropIf (fun v => (version? v).isSome) members) with
  | none => .unreadable
  | some (issuer, subject, expires) =>
    if versions.contains version then
      match texts issuer, texts subject with
      | some issuer, some subject => .certificate ⟨issuer, subject, expires⟩
      | _, _ => .unreadable
    else .badVersion

def ofBytes (bytes : List UInt8) : Reading :=
  match (Der.readWhole bytes).bind (·.members Der.Tag.sequence) with
  | some [signed, algorithm, signature] =>
    if isAlgorithm algorithm && (signature.contentOf Der.Tag.bits).any Der.isBits then
      match signed.members Der.Tag.sequence with
      | some members => ofMembers members
      | none => .unreadable
    else .unreadable
  | _ => .unreadable

end Certificate

end EdgeProxy
