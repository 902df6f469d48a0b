import EdgeProxy.Json.Basic
import EdgeProxy.Number.Shortest
import EdgeProxy.Text.Numeral
import EdgeProxy.Text.Quoted
/-!
Writing values as text.  `Style` says how documents are laid out: with an indent or on one line, and
with other characters than ASCII as they are or escaped.  `literal` and `plainText` are the forms
in which messages show a value.
-/

namespace EdgeProxy.Json

/-- How a document is laid out. -/
structure Style where
  /-- Spaces per level; `none` puts the document on one line. -/
  indent : Option Nat
  /-- Whether characters beyond ASCII are escaped. -/
  ascii : Bool

def Style.file : Style := ⟨some 2, false⟩

def Style.report : Style := ⟨some 2, true⟩

/-- The layout of a document in transit. -/
def Style.line : Style := ⟨none, true⟩

def unitEscape (unit : Nat) : List Char := '\\' :: 'u' :: Text.hexDigits 4 unit

def writeChar (ascii : Bool) (c : Char) : List Char :=
  let n := c.toNat
  if c == '"' then ['\\', '"']
  else if c == '\\' then ['\\', '\\']
  else if c == '\n' then ['\\', 'n']
  else if c == '\r' then ['\\', 'r']
  else if c == '\t' then ['\\', 't']
  else if n == 8 then ['\\', 'b']
  else if n == 12 then ['\\', 'f']
  else if n < 0x20 then unitEscape n
  else if !ascii || n < 0x7F then [c]
  else if n == 0x7F then [c]
  else if n < 0x10000 then unitEscape n
  else unitEscape (0xD800 + (n - 0x10000) / 0x400) ++ unitEscape (0xDC00 + (n - 0x10000) % 0x400)

def writeString (ascii : Bool) (s : String) : List Char :=
  '"' :: s.toList.flatMap (writeChar ascii) ++ ['"']

/-- What stands before an item at a level: a line break and the indent, or nothing. -/
def Style.lead (style : Style) (level : Nat) : List Char :=
  match style.indent with
  | none => []
  | some width => '\n' :: List.replicate (width * level) ' '

/-- What stands between two items besides the comma: a space if all is on one line. -/
def Style.gap (style : Style) : List Char :=
  match style.indent with
  | none => [' ']
  | some _ => []

mutual
/-- The characters of a value at a level. -/
def write (style : Style) (level : Nat) : Json → List Char
  | null => "null".toList
  | bool true => "true".toList
  | bool false => "false".toList
  | int n => (Text.decimalInt n).toList
  | float x => (Binary64.documentLayout.text x).toList
  | str s => writeString style.ascii s
  | arr [] => "[]".toList
  | arr (v :: vs) =>
    '[' :: style.lead (level + 1) ++ write style (level + 1) v ++
      writeItems style (level + 1) vs ++ style.lead level ++ [']']
  | obj [] => ['\x7b', '\x7d']
  | obj ((k, v) :: rest) =>
    '\x7b' :: style.lead (level + 1) ++ writeString style.ascii k ++ ':' :: ' ' ::
      write style (level + 1) v ++ writeFields style (level + 1) rest ++ style.lead level ++
      ['\x7d']

/-- The characters of the items after the first. -/
def writeItems (style : Style) (level : Nat) : List Json → List Char
  | [] => []
  | v :: vs =>
    ',' :: style.gap ++ style.lead level ++ write style level v ++ writeItems style level vs

/-- The characters of the fields after the first. -/
def writeFields (style : Style) (level : Nat) : List (String × Json) → List Char
  | [] => []
  | (k, v) :: rest =>
    ',' :: style.gap ++ style.lead level ++ writeString style.ascii k ++ ':' :: ' ' ::
      write style level v ++ writeFields style level rest
end

mutual
/-- Whether no integer of a value has too many digits to be written. -/
def isWritable : Json → Bool
  | int n => n.natAbs < tenTo Text.maxIntegerDigits
  | arr items => writableItems items
  | obj fields => writableFields fields
  | _ => true

/-- Whether no integer of the items has too many digits. -/
def writableItems : List Json → Bool
  | [] => true
  | v :: vs => isWritable v && writableItems vs

/-- Whether no integer of the fields has too many digits. -/
def writableFields : List (String × Json) → Bool
  | [] => true
  | (_, v) :: rest => isWritable v && writableFields rest
end

/-- The text of a value. -/
def render (style : Style) (v : Json) : String := String.ofList (write style 0 v)

mutual
/-- A value as it is shown inside a message: texts are quoted. -/
def literal : Json → String
  | null => "None"
  | bool true => "True"
  | bool false => "False"
  | int n => Text.decimalInt n
  | float x => x.text
  | str s => Text.quoted s
  | arr items => "[" ++ ", ".intercalate (literalItems items) ++ "]"
  | obj fields => "\x7b" ++ ", ".intercalate (literalFields fields) ++ "\x7d"

/-- The items of a list, each as it is shown. -/
def literalItems : List Json → List String
  | [] => []
  | v :: vs => literal v :: literalItems vs

/-- The fields of an object, each as it is shown. -/
def literalFields : List (String × Json) → List String
  | [] => []
  | (k, v) :: rest => (Text.quoted k ++ ": " ++ literal v) :: literalFields rest
end

/-- A value as a text: a text is itself, any other value is shown as in a message. -/
def plainText : Json → String
  | str s => s
  | v => literal v

mutual
/-- The value with null for every number that is not finite. -/
def finiteOnly : Json → Json
  | float x => if x.isFinite then float x else null
  | arr items => arr (finiteItems items)
  | obj fields => obj (finiteFields fields)
  | v => v

/-- The items with null for every number that is not finite. -/
def finiteItems : List Json → List Json
  | [] => []
  | v :: vs => finiteOnly v :: finiteItems vs

/-- The fields with null for every number that is not finite. -/
def finiteFields : List (String × Json) → List (String × Json)
  | [] => []
  | (k, v) :: rest => (k, finiteOnly v) :: finiteFields rest
end

end EdgeProxy.Json
