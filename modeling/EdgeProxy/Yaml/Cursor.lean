import EdgeProxy.Text.Percent
/-!
Going through the text of a document.  A cursor knows the column and the line it stands at; the
functions here read what stands between the structural marks: blanks, comments and scalars.
-/

namespace EdgeProxy.Yaml

/-- A place in a text and what follows it. -/
structure Cursor where
  rest : List Char
  column : Nat
  line : Nat

namespace Cursor

def start (cs : List Char) : Cursor := ⟨cs, 0, 0⟩

/-- One character further. -/
def next (cur : Cursor) : Cursor :=
  match cur.rest with
  | [] => cur
  | '\n' :: rest => ⟨rest, 0, cur.line + 1⟩
  | _ :: rest => ⟨rest, cur.column + 1, cur.line⟩

/-- A number of characters further. -/
def advance (cur : Cursor) : Nat → Cursor
  | 0 => cur
  | n + 1 => (cur.next).advance n

/-- Whether the text ends or a blank or a line break follows. -/
def isGap : List Char → Bool
  | [] => true
  | c :: _ => c == ' ' || c == '\t' || c == '\n'

/-- Whether a mark between documents stands here. -/
def isDocumentMark (cur : Cursor) : Bool :=
  cur.column == 0 &&
    ("---".toList.isPrefixOf cur.rest || "...".toList.isPrefixOf cur.rest) &&
    isGap (cur.rest.drop 3)

def atEnd (cur : Cursor) : Bool := cur.rest.isEmpty || cur.isDocumentMark

def skipSpaces (cur : Cursor) : Cursor :=
  cur.advance (cur.rest.takeWhile (· == ' ')).length

def skipLine (cur : Cursor) : Cursor := cur.advance (cur.rest.takeWhile (· != '\n')).length

/-- Skip spaces, comments and line breaks. -/
def skipBlank (fuel : Nat) (cur : Cursor) : Cursor :=
  match fuel with
  | 0 => cur
  | fuel + 1 =>
    let cur := cur.skipSpaces
    match cur.rest with
    | '#' :: _ => skipBlank fuel cur.skipLine
    | '\n' :: _ => skipBlank fuel cur.next
    | _ => cur

/-- Skip to the next mark or scalar. -/
def toToken (cur : Cursor) : Cursor := cur.skipBlank (2 * cur.rest.length + 1)

/-- Whether the mark of a list entry stands here. -/
def isEntry (cur : Cursor) : Bool :=
  match cur.rest with
  | '-' :: rest => isGap rest
  | _ => false

/-- Whether the mark of a value stands here; inside brackets nothing has to follow it. -/
def isValueMark (inFlow : Bool) (cur : Cursor) : Bool :=
  match cur.rest with
  | ':' :: rest => inFlow || isGap rest
  | _ => false

end Cursor

/-- The text that stands for line breaks between two lines of a scalar: one is a space, several are
one break fewer. -/
def folded (breaks : Nat) : List Char :=
  if breaks == 1 then [' '] else List.replicate (breaks - 1) '\n'

/-- The marks that no plain scalar begins with. -/
def indicators : List Char :=
  ['-', '?', ':', ',', '[', ']', '\x7b', '\x7d', '#', '&', '*', '!', '|', '>', '\'', '"', '%', '@',
    '\x60']

/-- The marks that end a plain scalar inside brackets. -/
def flowMarks : List Char := [',', '?', '[', ']', '\x7b', '\x7d']

/-- The marks that a colon may stand before inside brackets. -/
def flowEnds : List Char := [',', '[', ']', '\x7b', '\x7d']

/-- Whether a plain scalar begins here. -/
def startsPlain (inFlow : Bool) (cs : List Char) : Bool :=
  match cs with
  | [] => false
  | c :: rest =>
    if Cursor.isGap cs then false
    else !indicators.contains c ||
      (!Cursor.isGap rest && (c == '-' || (!inFlow && (c == '?' || c == ':'))))

/-- Whether a plain scalar ends before these characters. -/
def endsPlain (inFlow : Bool) (cs : List Char) : Bool :=
  match cs with
  | [] => true
  | ':' :: rest =>
    Cursor.isGap rest || (inFlow && rest.head?.any flowEnds.contains)
  | c :: _ => Cursor.isGap cs || (inFlow && flowMarks.contains c)

/-- The characters of a plain scalar up to the next blank or mark. -/
def plainRun (inFlow : Bool) : List Char → List Char
  | [] => []
  | c :: rest => if endsPlain inFlow (c :: rest) then [] else c :: plainRun inFlow rest

/-- Skip line breaks and the spaces at the start of lines; a mark between documents stops.  Gives
the number of breaks, or nothing at such a mark. -/
def plainBreaks (fuel : Nat) (cur : Cursor) (breaks : Nat) : Option Nat × Cursor :=
  match fuel with
  | 0 => (some breaks, cur)
  | fuel + 1 =>
    match cur.rest with
    | '\n' :: _ =>
      let cur := cur.next
      if cur.isDocumentMark then (none, cur) else plainBreaks fuel cur (breaks + 1)
    | ' ' :: _ => plainBreaks fuel cur.next breaks
    | _ => (some breaks, cur)

/-- What stands between two runs of a plain scalar; nothing if the scalar ends here. -/
def plainGap (cur : Cursor) : List Char × Cursor :=
  let spaces := cur.rest.takeWhile (· == ' ')
  let after := cur.advance spaces.length
  match after.rest with
  | '\n' :: _ =>
    match plainBreaks (after.rest.length + 1) after 0 with
    | (some breaks, cur) => (folded breaks, cur)
    | (none, cur) => ([], cur)
  | _ => (spaces, after)

/-- A plain scalar; lines that go on have to stand at `indent` or further right. -/
def scanPlain (fuel : Nat) (inFlow : Bool) (indent : Nat) (gap done : List Char) (cur : Cursor) :
    List Char × Cursor :=
  match fuel with
  | 0 => (done, cur)
  | fuel + 1 =>
    let run := if cur.rest.head? == some '#' then [] else plainRun inFlow cur.rest
    if run.isEmpty then (done, cur)
    else
      let done := done ++ gap ++ run
      let (gap, cur) := plainGap (cur.advance run.length)
      if gap.isEmpty || cur.rest.head? == some '#' || (!inFlow && cur.column < indent) then
        (done, cur)
      else scanPlain fuel inFlow indent gap done cur

/-- The characters of the escapes of one letter. -/
def escapes : List (Char × Char) :=
  [('0', '\x00'), ('a', '\x07'), ('b', '\x08'), ('t', '\t'), ('\t', '\t'), ('n', '\n'),
    ('v', '\x0b'), ('f', '\x0c'), ('r', '\r'), ('e', '\x1b'), (' ', ' '), ('"', '"'),
    ('\\', '\\'), ('/', '/'), ('N', '\x85'), ('_', '\u00A0'), ('L', '\u2028'), ('P', '\u2029')]

/-- The number of hexadecimal digits of the escapes of a code point. -/
def codeEscapes : List (Char × Nat) := [('x', 2), ('u', 4), ('U', 8)]

/-- The character of a code point, if there is one. -/
def charOf? (n : Nat) : Option Char :=
  if n < 0x110000 && !(0xD800 ≤ n && n < 0xE000) then some (Char.ofNat n) else none

/-- Skip blanks and line breaks inside quotes; gives the number of breaks, or nothing at a mark
between documents. -/
def quotedBreaks (fuel : Nat) (cur : Cursor) (breaks : Nat) : Option (Nat × Cursor) :=
  match fuel with
  | 0 => some (breaks, cur)
  | fuel + 1 =>
    match cur.rest with
    | '\n' :: _ =>
      let cur := cur.next
      if cur.isDocumentMark then none else quotedBreaks fuel cur (breaks + 1)
    | ' ' :: _ | '\t' :: _ => quotedBreaks fuel cur.next breaks
    | _ => some (breaks, cur)

/-- A scalar between double quotes, after the first; `done` holds what was read, last first. -/
def scanDouble (fuel : Nat) (done : List Char) (cur : Cursor) : Option (List Char × Cursor) :=
  match fuel with
  | 0 => none
  | fuel + 1 =>
    match cur.rest with
    | [] => none
    | '"' :: _ => some (done.reverse, cur.next)
    | '\\' :: '\n' :: _ =>
      match quotedBreaks (cur.rest.length + 1) cur.next.next 0 with
      | some (breaks, cur) => scanDouble fuel (List.replicate breaks '\n' ++ done) cur
      | none => none
    | '\\' :: c :: rest =>
      match escapes.lookup c, codeEscapes.lookup c with
      | some e, _ => scanDouble fuel (e :: done) (cur.advance 2)
      | none, some n =>
        match (rest.take n).mapM Text.hexValue? with
        | some ds =>
          if ds.length < n then none
          else
            match charOf? (ds.foldl (fun m d => m * 16 + d) 0) with
            | some e => scanDouble fuel (e :: done) (cur.advance (n + 2))
            | none => none
        | none => none
      | none, none => none
    | c :: _ =>
      if c == ' ' || c == '\t' || c == '\n' then
        let spaces := cur.rest.takeWhile fun c => c == ' ' || c == '\t'
        let after := cur.advance spaces.length
        match after.rest with
        | '\n' :: _ =>
          match quotedBreaks (after.rest.length + 1) after 0 with
          | some (breaks, cur) => scanDouble fuel ((folded breaks).reverse ++ done) cur
          | none => none
        | _ => scanDouble fuel (spaces.reverse ++ done) after
      else scanDouble fuel (c :: done) cur.next

/-- A scalar between single quotes, after the first; `done` holds what was read, last first. -/
def scanSingle (fuel : Nat) (done : List Char) (cur : Cursor) : Option (List Char × Cursor) :=
  match fuel with
  | 0 => none
  | fuel + 1 =>
    match cur.rest with
    | [] => none
    | '\'' :: '\'' :: _ => scanSingle fuel ('\'' :: done) (cur.advance 2)
    | '\'' :: _ => some (done.reverse, cur.next)
    | c :: _ =>
      if c == ' ' || c == '\t' || c == '\n' then
        let spaces := cur.rest.takeWhile fun c => c == ' ' || c == '\t'
        let after := cur.advance spaces.length
        match after.rest with
        | '\n' :: _ =>
          match quotedBreaks (after.rest.length + 1) after 0 with
          | some (breaks, cur) => scanSingle fuel ((folded breaks).reverse ++ done) cur
          | none => none
        | _ => scanSingle fuel (spaces.reverse ++ done) after
      else scanSingle fuel (c :: done) cur.next

end EdgeProxy.Yaml
