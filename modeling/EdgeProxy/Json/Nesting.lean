import EdgeProxy.Json.Reader
/-!
How deep values are nested.  A reader that has room for a number of open brackets gives up at the first one
beyond: what stands before that bracket it has read, what follows it never sees.
-/

namespace EdgeProxy.Json

mutual
/-- How many lists and objects stand around the innermost value, at most. -/
def depth : Json → Nat
  | arr items => depthItems items + 1
  | obj fields => depthFields fields + 1
  | _ => 0

def depthItems : List Json → Nat
  | [] => 0
  | v :: rest => max (depth v) (depthItems rest)

def depthFields : List (String × Json) → Nat
  | [] => 0
  | (_, v) :: rest => max (depth v) (depthFields rest)
end

/-- A depth that every reader and writer has room for. -/
def safeDepth : Nat := 40

/-- Where a scan of a text is with respect to strings. -/
inductive Quoting where
  | outside
  | inside
  /-- Inside a string, after the mark of an escape. -/
  | escape
deriving DecidableEq, Repr

/-- What a scan of a text knows: the brackets that are open, each as the one that closes it, the innermost
first, and whether it is inside a string. -/
structure Nesting where
  closers : List Char
  quoting : Quoting
deriving DecidableEq, Repr

namespace Nesting

def start : Nesting := ⟨[], .outside⟩

/-- The bracket that closes one that a character opens. -/
def closer? (n : Nesting) (c : Char) : Option Char :=
  if n.quoting == .outside then
    if c == '[' then some ']' else if c == '\x7b' then some '\x7d' else none
  else none

/-- The state after a character that opens no bracket. -/
def pass (n : Nesting) (c : Char) : Nesting :=
  match n.quoting with
  | .outside =>
    if c == '"' then { n with quoting := .inside }
    else if c == ']' || c == '\x7d' then { n with closers := n.closers.drop 1 }
    else n
  | .inside =>
    if c == '"' then { n with quoting := .outside }
    else if c == '\\' then { n with quoting := .escape }
    else n
  | .escape => { n with quoting := .inside }

/-- The state after a character. -/
def step (n : Nesting) (c : Char) : Nesting :=
  match n.closer? c with
  | some close => { n with closers := close :: n.closers }
  | none => n.pass c

end Nesting

/-- A text up to its first bracket that there is no room for, with that bracket and those around it closed;
`passed` holds what was scanned so far, last first. -/
def cutFrom? (room : Nat) (n : Nesting) (passed : List Char) : List Char → Option (List Char)
  | [] => none
  | c :: rest =>
    if (n.closer? c).isSome && room ≤ n.closers.length then
      some (passed.reverse ++ c :: (n.step c).closers)
    else cutFrom? room (n.step c) (c :: passed) rest

/-- A text up to its first bracket that there is no room for, with all its brackets closed; nothing if there
is room for all. -/
def cut? (room : Nat) (text : String) : Option String :=
  (cutFrom? room .start [] text.toList).map String.ofList

/-- Whether a reader comes to a bracket that it has no room for: what stands before it is in order. -/
def overflows (room : Nat) (text : String) : Bool :=
  match cut? room text with
  | some front =>
    match read front with
    | .ok _ => true
    | .error _ => false
  | none => false

end EdgeProxy.Json
