import EdgeProxy.Fault
import EdgeProxy.File.Path
import EdgeProxy.Text.Quoted
/-!
A tree of files.  Replacing a file goes in steps, as on a disk: the directory is made, a temporary
file is created beside the target, written and renamed.  The system may refuse any step; a refused
step leaves no temporary file behind.  A refused directory, and a text that cannot be put into bytes,
are faults; the other refusals are told with their reason.
-/

namespace EdgeProxy

/-- What stands at a path. -/
inductive Entry where
  | file (bytes : List UInt8)
  /-- A file that the system does not let be read. -/
  | hidden (why : String)
  | directory
deriving DecidableEq, Repr

/-- The steps of replacing a file that the system may refuse. -/
inductive FileStep where
  | makeDirectory
  | create
  | write
  /-- The text is put into bytes as it is written. -/
  | encode
  | rename
deriving DecidableEq, Repr

/-- The files that a program sees, and the reasons for which the system refuses steps. -/
structure Files where
  entries : List (Path × Entry)
  refuses : FileStep → Option String

namespace Files

/-- No files, and a system that refuses nothing. -/
def empty : Files := ⟨[], fun _ => none⟩

/-- What is stored at a path. -/
def lookup? (files : Files) (p : Path) : Option Entry := files.entries.lookup p.resolve

/-- What reading a file gives: its bytes, or why it cannot be read. -/
def content? (files : Files) (p : Path) : Option (Except String (List UInt8)) :=
  match files.lookup? p with
  | some (.file bytes) => some (.ok bytes)
  | some (.hidden why) => some (.error why)
  | _ => none

def isFile (files : Files) (p : Path) : Bool := (files.content? p).isSome

/-- Whether a path lies below another one. -/
def isBelow (directory p : Path) : Bool :=
  directory.root == p.root && directory.parts.isPrefixOf p.parts && directory != p

/-- Whether there is a directory at a path: the working directory, a root, a stored one or one that
holds something. -/
def isDirectory (files : Files) (p : Path) : Bool :=
  let p := p.resolve
  p.parts.isEmpty || p.parts.all (· == "..") || files.lookup? p == some .directory ||
    files.entries.any fun (q, _) => isBelow p q

/-- Store an entry. -/
def put (files : Files) (p : Path) (entry : Entry) : Files :=
  let p := p.resolve
  { files with entries := (files.entries.filter fun (q, _) => q != p) ++ [(p, entry)] }

def remove (files : Files) (p : Path) : Files :=
  let p := p.resolve
  { files with entries := files.entries.filter fun (q, _) => q != p }

/-- Make a directory whose parent is there. -/
def makeDirectory (files : Files) (p : Path) : Except Fault Files :=
  if files.isDirectory p then .ok files
  else if files.isFile p then .error .occupied
  else
    match files.refuses .makeDirectory with
    | some why => .error (.denied why)
    | none => .ok (files.put p .directory)

/-- Make the directories on a path, from the top; `depth` counts the parts that are there. -/
def makeDirectoriesFrom (files : Files) (p : Path) (depth : Nat) : Nat → Except Fault Files
  | 0 => .ok files
  | left + 1 =>
    let here : Path := ⟨p.root, p.parts.take (depth + 1)⟩
    if files.isFile here && 0 < left then .error .notDirectory
    else
      match files.makeDirectory here with
      | .ok files => makeDirectoriesFrom files p (depth + 1) left
      | .error fault => .error fault

/-- Make a directory and those that lead to it. -/
def makeDirectories (files : Files) (p : Path) : Except Fault Files :=
  files.makeDirectoriesFrom p 0 p.parts.length

/-- The names that temporary files are given. -/
def temporaryName (n : Nat) : String :=
  ".registry_" ++ String.ofList (List.replicate (8 + n) 'X') ++ ".tmp"

/-- The places beside a target that a temporary file can take. -/
def temporaryPlaces (files : Files) (target : Path) : List Path :=
  (List.range (files.entries.length + 1)).map fun n => target.parent.child (temporaryName n)

/-- A place beside a target at which nothing stands. -/
def temporaryFor (files : Files) (target : Path) : Path :=
  ((files.temporaryPlaces target).find? fun p => (files.lookup? p).isNone).getD
    (target.parent.child (temporaryName 0))

/-- The reason for which no file takes the place of a directory. -/
def overDirectory (target : Path) : String :=
  "[Errno 21] Is a directory: " ++ Text.quoted (target.parent.child (temporaryName 0)).text ++
    " -> " ++ Text.quoted target.text

/-- Why a file is not replaced. -/
inductive Unreplaced where
  | refused (why : String)
  | fault (what : Fault)
deriving DecidableEq, Repr

/-- A replacement that is given up: the reason and the files without the temporary one. -/
def abandon (files : Files) (temporary : Path) (why : Unreplaced) : Except Unreplaced Unit × Files :=
  (.error why, files.remove temporary)

def renameTo (files : Files) (temporary target : Path) (bytes : List UInt8) :
    Except Unreplaced Unit × Files :=
  match files.refuses .rename with
  | some why => files.abandon temporary (.refused why)
  | none =>
    if files.isDirectory target then files.abandon temporary (.refused (overDirectory target))
    else (.ok (), (files.remove temporary).put target (.file bytes))

/-- Replace the content of a file whose directory is there, by way of a temporary file. -/
def replace (files : Files) (target : Path) (bytes : List UInt8) : Except Unreplaced Unit × Files :=
  let temporary := files.temporaryFor target
  match files.refuses .create with
  | some why => (.error (.refused why), files)
  | none =>
    let files := files.put temporary (.file [])
    match files.refuses .write, files.refuses .encode with
    | some why, _ => files.abandon temporary (.refused why)
    | none, some _ => files.abandon temporary (.fault .unencodable)
    | none, none => (files.put temporary (.file bytes)).renameTo temporary target bytes

end Files

end EdgeProxy
