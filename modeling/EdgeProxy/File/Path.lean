/-!
Paths of files.  A path is kept without empty parts and without parts that stay in place.
-/

namespace EdgeProxy

/-- A path, from a root or from the working directory. -/
structure Path where
  root : String
  parts : List String
deriving DecidableEq, Repr

namespace Path

/-- The parts of a text between slashes. -/
def split : List Char → List (List Char)
  | [] => [[]]
  | c :: rest =>
    if c == '/' then [] :: split rest
    else
      match split rest with
      | [] => [[c]]
      | part :: more => (c :: part) :: more

/-- The root that a text begins with: exactly two slashes are a root of their own. -/
def rootOf (cs : List Char) : String :=
  match cs with
  | '/' :: '/' :: '/' :: _ => "/"
  | '/' :: '/' :: _ => "//"
  | '/' :: _ => "/"
  | _ => ""

/-- The path that a text spells. -/
def ofText (s : String) : Path :=
  ⟨rootOf s.toList, ((split s.toList).map String.ofList).filter fun p => !p.isEmpty && p != "."⟩

def text (p : Path) : String :=
  if p.root.isEmpty && p.parts.isEmpty then "." else p.root ++ "/".intercalate p.parts

def parent (p : Path) : Path := ⟨p.root, p.parts.dropLast⟩

def child (p : Path) (name : String) : Path := ⟨p.root, p.parts ++ [name]⟩

/-- A path taken from a directory; a path from a root stays what it is. -/
def within (directory p : Path) : Path :=
  if p.root.isEmpty then ⟨directory.root, directory.parts ++ p.parts⟩ else p

/-- Go through parts that lead upward; `above` holds what is left so far, last first. -/
def resolveParts (rooted : Bool) (above : List String) : List String → List String
  | [] => above.reverse
  | part :: rest =>
    if part == ".." then
      match above with
      | [] => resolveParts rooted (if rooted then [] else [".."]) rest
      | last :: before =>
        if last == ".." then resolveParts rooted (".." :: above) rest
        else resolveParts rooted before rest
    else resolveParts rooted (part :: above) rest

/-- The path without parts that lead upward, as far as they can be followed. -/
def resolve (p : Path) : Path := ⟨p.root, resolveParts (!p.root.isEmpty) [] p.parts⟩

end Path

end EdgeProxy
