import EdgeProxy.Yaml.Cursor
import EdgeProxy.Yaml.Construct
/-!
Reading YAML documents: maps and lists by indentation or in brackets, plain and quoted scalars and
blocks of text.  A text holds at most one document.  Anchors and tags are not part of the grammar.
The text is read to its end before any scalar is given a meaning.
-/

namespace EdgeProxy.Yaml

/-- A result, or a breach of the grammar. -/
def orMalformed {α : Type} : Option α → Except ReadError α
  | some a => .ok a
  | none => .error .malformed

/-- Whether a quoted scalar begins here. -/
def startsQuoted (cs : List Char) : Bool := cs.head? == some '"' || cs.head? == some '\''

def readQuoted (cur : Cursor) : Except ReadError (Node × Cursor) := do
  let (cs, cur) ← orMalformed (
    if cur.rest.head? == some '"' then scanDouble (cur.rest.length + 1) [] cur.next
    else scanSingle (cur.rest.length + 1) [] cur.next)
  .ok (.text (String.ofList cs), cur)

def readPlain (inFlow : Bool) (indent : Nat) (cur : Cursor) :
    Except ReadError (Node × Cursor) := do
  let (cs, cur) := scanPlain (cur.rest.length + 1) inFlow indent [] [] cur
  .ok (.plain (String.ofList cs), cur)

def readScalar (inFlow : Bool) (indent : Nat) (cur : Cursor) : Except ReadError (Node × Cursor) :=
  if startsQuoted cur.rest then readQuoted cur
  else if startsPlain inFlow cur.rest then readPlain inFlow indent cur
  else .error .malformed

/-- Whether the mark of a value follows a key on the line that the key began on. -/
def followsKey (inFlow : Bool) (start cur : Cursor) : Bool :=
  cur.line == start.line && cur.isValueMark inFlow

mutual
/-- A node inside brackets. -/
def readFlow (fuel : Nat) (cur : Cursor) : Except ReadError (Node × Cursor) :=
  match fuel with
  | 0 => .error .malformed
  | fuel + 1 =>
    match cur.rest with
    | '[' :: _ => do
      let (items, cur) ← readFlowItems fuel cur.next.toToken
      .ok (.list items, cur)
    | '\x7b' :: _ => do
      let (pairs, cur) ← readFlowPairs fuel cur.next.toToken
      .ok (.map pairs, cur)
    | _ => if cur.isDocumentMark then .error .malformed else readScalar true 0 cur

/-- A value after its mark inside brackets; nothing before a closing mark is null. -/
def readFlowValue (fuel : Nat) (cur : Cursor) : Except ReadError (Node × Cursor) :=
  match fuel with
  | 0 => .error .malformed
  | fuel + 1 =>
    match cur.rest with
    | ',' :: _ | ']' :: _ | '\x7d' :: _ => .ok (.nothing, cur)
    | _ => readFlow fuel cur

/-- The items of a list in brackets; an item may be a single pair. -/
def readFlowItems (fuel : Nat) (cur : Cursor) : Except ReadError (List Node × Cursor) :=
  match fuel with
  | 0 => .error .malformed
  | fuel + 1 =>
    match cur.rest with
    | ']' :: _ => .ok ([], cur.next)
    | _ => do
      let (v, after) ← readFlow fuel cur
      let after := after.toToken
      let (v, after) ←
        if after.isValueMark true then
          if followsKey true cur after then do
            let (value, after) ← readFlowValue fuel after.next.toToken
            .ok (.map [(v, value)], after.toToken)
          else .error .malformed
        else .ok (v, after)
      match after.rest with
      | ',' :: _ => do
        let (more, cur) ← readFlowItems fuel after.next.toToken
        .ok (v :: more, cur)
      | ']' :: _ => .ok ([v], after.next)
      | _ => .error .malformed

/-- The pairs of a map in braces; a key without a value has null. -/
def readFlowPairs (fuel : Nat) (cur : Cursor) : Except ReadError (List (Node × Node) × Cursor) :=
  match fuel with
  | 0 => .error .malformed
  | fuel + 1 =>
    match cur.rest with
    | '\x7d' :: _ => .ok ([], cur.next)
    | _ => do
      let (key, after) ← readFlow fuel cur
      let after := after.toToken
      let (value, after) ←
        if after.isValueMark true then
          if followsKey true cur after then do
            let (value, after) ← readFlowValue fuel after.next.toToken
            .ok (value, after.toToken)
          else .error .malformed
        else .ok (Node.nothing, after)
      match after.rest with
      | ',' :: _ => do
        let (more, cur) ← readFlowPairs fuel after.next.toToken
        .ok ((key, value) :: more, cur)
      | '\x7d' :: _ => .ok ([(key, value)], after.next)
      | _ => .error .malformed
end

/-- What becomes of the line breaks at the end of a block of text. -/
inductive Chomping where
  | clip
  | strip
  | keep
deriving DecidableEq, Repr

/-- The head of a block of text: chomping and indentation, in either order. -/
def blockHead (cs : List Char) : Option (Chomping × Option Nat × List Char) :=
  let chomp (c : Char) : Option Chomping :=
    if c == '+' then some .keep else if c == '-' then some .strip else none
  let width (c : Char) : Option Nat := (Text.asciiDigit? c).filter (· != 0)
  let one : Option (Chomping × Option Nat × List Char) :=
    match cs with
    | a :: rest =>
      match chomp a, width a with
      | some c, _ =>
        match rest with
        | b :: rest' =>
          match width b with
          | some n => some (c, some n, rest')
          | none => some (c, none, rest)
        | [] => some (c, none, [])
      | none, some n =>
        match rest with
        | b :: rest' =>
          match chomp b with
          | some c => some (c, some n, rest')
          | none => some (.clip, some n, rest)
        | [] => some (.clip, some n, [])
      | none, none => some (.clip, none, cs)
    | [] => some (.clip, none, [])
  one.bind fun (c, n, rest) =>
    match rest.dropWhile (· == ' ') with
    | [] => some (c, n, [])
    | '\n' :: _ => some (c, n, rest)
    | '#' :: _ => if rest.head? == some '#' then none else some (c, n, rest)
    | _ => none

def linesOf (cs : List Char) : List (List Char) :=
  match cs with
  | [] => [[]]
  | c :: rest =>
    if c == '\n' then [] :: linesOf rest
    else
      match linesOf rest with
      | [] => [[c]]
      | line :: more => (c :: line) :: more

/-- The spaces at the start of a line. -/
def indentOf (line : List Char) : Nat := (line.takeWhile (· == ' ')).length

/-- The indentation of a block of text: that of its first line that is not blank, or of the longest
blank one before it. -/
def blockIndent (least : Nat) : List (List Char) → Nat
  | [] => least
  | line :: rest =>
    if indentOf line < line.length then max least (indentOf line)
    else blockIndent (max least line.length) rest

/-- Whether a line is blank within an indentation. -/
def isBlankLine (indent : Nat) (line : List Char) : Bool :=
  line.length ≤ indent && indentOf line == line.length

/-- The lines of a block of text without their indentation, and how many lines were taken. -/
def blockLines (indent : Nat) : List (List Char) → List (List Char) × Nat
  | [] => ([], 0)
  | line :: rest =>
    if isBlankLine indent line then
      let (more, n) := blockLines indent rest
      ([] :: more, n + 1)
    else if indent ≤ indentOf line then
      let (more, n) := blockLines indent rest
      (line.drop indent :: more, n + 1)
    else ([], 0)

/-- Whether a line of a folded block may be joined to its neighbours. -/
def isJoinable (line : List Char) : Bool :=
  match line with
  | [] => false
  | c :: _ => c != ' ' && c != '\t'

/-- The text of lines of which the last is not empty; `blanks` counts the empty lines so far. -/
def joinLines (isFolded : Bool) (previous : Option (List Char)) (blanks : Nat) :
    List (List Char) → List Char
  | [] => []
  | line :: rest =>
    if line.isEmpty then joinLines isFolded previous (blanks + 1) rest
    else
      let gap :=
        match previous with
        | none => List.replicate blanks '\n'
        | some p =>
          if isFolded && isJoinable p && isJoinable line then
            if blanks == 0 then [' '] else List.replicate blanks '\n'
          else List.replicate (blanks + 1) '\n'
      gap ++ line ++ joinLines isFolded (some line) 0 rest

def blockText (isFolded : Bool) (chomping : Chomping) (lines : List (List Char)) : List Char :=
  let body := (lines.reverse.dropWhile List.isEmpty).reverse
  let blanks := lines.length - body.length
  let last := if body.isEmpty then 0 else 1
  joinLines isFolded none 0 body ++
    match chomping with
    | .strip => []
    | .clip => List.replicate last '\n'
    | .keep => List.replicate (last + blanks) '\n'

/-- A block of text; its lines stand further right than `indent`. -/
def readBlockText (least : Nat) (cur : Cursor) : Except ReadError (Node × Cursor) := do
  let isFolded := cur.rest.head? == some '>'
  let (chomping, width, rest) ← orMalformed (blockHead (cur.rest.drop 1))
  let head := cur.advance (cur.rest.length - rest.length)
  let body := head.skipLine.next
  let lines := linesOf body.rest
  let lines := if body.rest.getLast? == some '\n' then lines.dropLast else lines
  let indent :=
    match width with
    | some n => least + n - 1
    | none => blockIndent least lines
  let (taken, count) := blockLines indent lines
  let length := (lines.take count).foldl (fun n l => n + l.length + 1) 0
  .ok (.text (String.ofList (blockText isFolded chomping taken)),
    body.advance (min length body.rest.length))

mutual
/-- A node in a block whose parent stands at column `indent - 1`.  A node on the line of its key has
no keys of its own. -/
def readBlock (fuel : Nat) (indent : Nat) (keyAllowed : Bool) (cur : Cursor) :
    Except ReadError (Node × Cursor) :=
  match fuel with
  | 0 => .error .malformed
  | fuel + 1 =>
    if cur.isEntry then
      if keyAllowed then do
        let (items, cur) ← readEntries fuel cur.column false cur
        .ok (.list items, cur)
      else .error .malformed
    else if cur.rest.head? == some '|' || cur.rest.head? == some '>' then
      readBlockText (max 1 indent) cur
    else do
      let (v, after) ←
        if cur.rest.head? == some '[' || cur.rest.head? == some '\x7b' then
          readFlow (2 * cur.rest.length + 2) cur
        else readScalar false indent cur
      let mark := after.skipSpaces
      if followsKey false cur mark && keyAllowed then do
        let (pairs, after) ← readPairs fuel cur.column v mark
        .ok (.map pairs, after)
      else .ok (v, after)

/-- The value of a key or of an entry at a column, after its mark. -/
def readValueAt (fuel : Nat) (column line : Nat) (keyAllowed entryAllowed : Bool) (cur : Cursor) :
    Except ReadError (Node × Cursor) :=
  match fuel with
  | 0 => .error .malformed
  | fuel + 1 =>
    let cur := cur.toToken
    if cur.atEnd then .ok (.nothing, cur)
    else if cur.line == line then readBlock fuel (column + 1) keyAllowed cur
    else if column < cur.column then readBlock fuel (column + 1) true cur
    else if entryAllowed && cur.column == column && cur.isEntry then do
      let (items, cur) ← readEntries fuel column true cur
      .ok (.list items, cur)
    else .ok (.nothing, cur)

/-- The pairs of a map at a column, from the value mark of the first key on. -/
def readPairs (fuel : Nat) (column : Nat) (key : Node) (mark : Cursor) :
    Except ReadError (List (Node × Node) × Cursor) :=
  match fuel with
  | 0 => .error .malformed
  | fuel + 1 => do
    let (value, cur) ← readValueAt fuel column mark.line false true mark.next
    let cur := cur.toToken
    if cur.atEnd || cur.column < column then .ok ([(key, value)], cur)
    else if cur.column == column && !cur.isEntry then do
      let (nextKey, after) ←
        if cur.rest.head? == some '[' || cur.rest.head? == some '\x7b' then
          readFlow (2 * cur.rest.length + 2) cur
        else readScalar false (column + 1) cur
      let mark := after.skipSpaces
      if followsKey false cur mark then do
        let (more, cur) ← readPairs fuel column nextKey mark
        .ok ((key, value) :: more, cur)
      else .error .malformed
    else .error .malformed

/-- The entries of a list at a column; a list at the column of its key ends where an entry mark is
missing. -/
def readEntries (fuel : Nat) (column : Nat) (atKey : Bool) (cur : Cursor) :
    Except ReadError (List Node × Cursor) :=
  match fuel with
  | 0 => .error .malformed
  | fuel + 1 => do
    let (value, after) ← readValueAt fuel column cur.line true false cur.next
    let after := after.toToken
    if after.atEnd || after.column < column then .ok ([value], after)
    else if after.column == column && after.isEntry then do
      let (more, cur) ← readEntries fuel column atKey after
      .ok (value :: more, cur)
    else if after.column == column && atKey then .ok ([value], after)
    else .error .malformed
end

/-- Whether a character may stand in a document. -/
def isAllowed (c : Char) : Bool :=
  let n := c.toNat
  n == 9 || n == 10 || n == 13 || (0x20 ≤ n && n ≤ 0x7E) || n == 0x85 ||
    (0xA0 ≤ n && n ≤ 0xD7FF) || (0xE000 ≤ n && n ≤ 0xFFFD) || 0x10000 ≤ n

/-- Characters with a line feed for every line break. -/
def withLineFeeds : List Char → List Char
  | '\r' :: '\n' :: rest => '\n' :: withLineFeeds rest
  | '\r' :: rest => '\n' :: withLineFeeds rest
  | '\x85' :: rest => '\n' :: withLineFeeds rest
  | c :: rest => c :: withLineFeeds rest
  | [] => []

/-- Characters without a mark of their byte order. -/
def withoutOrderMark : List Char → List Char
  | '\uFEFF' :: rest => rest
  | cs => cs

/-- Whether the mark that ends a document stands here. -/
def isEndMark (cur : Cursor) : Bool := cur.isDocumentMark && cur.rest.head? == some '.'

/-- Skip blanks and marks that end a document. -/
def skipEnds (fuel : Nat) (cur : Cursor) : Cursor :=
  let cur := cur.toToken
  match fuel with
  | 0 => cur
  | fuel + 1 => if isEndMark cur then skipEnds fuel (cur.advance 3) else cur

/-- Whether nothing follows a document but its end. -/
def isFinished (cur : Cursor) : Bool := (skipEnds cur.rest.length cur).rest.isEmpty

/-- The content of a document that was begun at `start`. -/
def readContent (start cur : Cursor) (explicit : Bool) : Except ReadError Node := do
  let keyAllowed := !explicit || cur.line != start.line
  let (node, cur) ← readBlock (4 * cur.rest.length + 4) 0 keyAllowed cur
  if isFinished cur then .ok node else .error .malformed

/-- The root of a document.  Only a document that is begun by a mark may be ended without
content. -/
def readRoot (cur : Cursor) : Except ReadError Node :=
  let start := cur.toToken
  if start.rest.isEmpty then .ok .nothing
  else if isEndMark start then .error .malformed
  else
    let explicit := start.isDocumentMark
    let cur := if explicit then (start.advance 3).toToken else start
    if cur.atEnd then if isFinished cur then .ok .nothing else .error .malformed
    else readContent start cur explicit

def readNode (text : String) : Except ReadError Node :=
  let cs := withoutOrderMark (withLineFeeds text.toList)
  if cs.all isAllowed then readRoot (Cursor.start cs) else .error .malformed

/-- The value of a document. -/
def read (text : String) : Except ReadError Value := readNode text >>= Node.value

end EdgeProxy.Yaml
