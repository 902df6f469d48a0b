import EdgeProxy.Command.Run
import Std.Time.DateTime.Timestamp
/-!
The program.  The files that a command may touch are read before it runs, and what it changed is
written afterwards.  There is no network transport: the control plane and the peers that serve
certificates count as unreachable.
-/

namespace EdgeProxy.Program

def name : String := "homeroute"

/-- Why nothing on the network is reached. -/
def noTransport : String := "no network transport"

/-- What stands at a path; what cannot be read for another reason than a lack of permission counts as a
directory if it is there. -/
def readEntry (path : Path) : IO (Option Entry) := do
  try
    return some (.file (← IO.FS.readBinFile path.text).toList)
  catch
    | .permissionDenied _ _ why => return some (.hidden why)
    | _ =>
      try
        let _ ← IO.FS.realPath path.text
        return some .directory
      catch _ => return none

def readEntries (paths : List Path) (files : Files) : IO Files :=
  paths.foldlM (fun files path => do
    match ← readEntry path with
    | some entry => return files.put path entry
    | none => return files) files

/-- A path with the directories that lead to it. -/
def withParents (path : Path) : List Path :=
  (List.range path.parts.length).map fun n => ⟨path.root, path.parts.take (n + 1)⟩

/-- Write an entry; a file is replaced as a whole. -/
def writeEntry (path : Path) (entry : Entry) : IO Unit :=
  match entry with
  | .directory => IO.FS.createDirAll path.text
  | .hidden _ => return ()
  | .file bytes => do
    let temporary := path.text ++ ".tmp"
    IO.FS.writeBinFile temporary (ByteArray.mk bytes.toArray)
    IO.FS.rename temporary path.text

def writeChanges (before after : Files) : IO Unit :=
  after.entries.forM fun (path, entry) => do
    if before.lookup? path != some entry then writeEntry path entry

def readVariables (names : List String) : IO (List (String × String)) :=
  names.filterMapM fun name => do
    return (← IO.getEnv name).map fun value => (name, value)

def variableNames : List String :=
  [Logging.levelVariable, Logging.fileVariable, Logging.fileLevelVariable,
    Settings.standard.tokenVariable] ++ Settings.overrides.map (·.1)

/-- The directory and those above it. -/
def upward (directory : Path) : List Path :=
  (List.range (directory.parts.length + 1)).map fun n => ⟨directory.root, directory.parts.take n⟩

def settingsPaths (directory : Path) (asked : Option Path) : List Path :=
  match asked with
  | some path => [path]
  | none => (upward directory).map (·.child Settings.fileName)

/-- Two digits of hexadecimal per byte, in the groups of an identifier. -/
def identifier (seed : List UInt8) (n : Nat) : String :=
  let number := seed.foldl (fun m b => m * 256 + b.toNat) 0 + n
  let ds := Text.hexDigits 32 (number % twoTo 128)
  let group (first count : Nat) : String := String.ofList ((ds.drop first).take count)
  "-".intercalate [group 0 8, group 8 4, "4" ++ group 13 3, "8" ++ group 17 3, group 20 12]

def present : IO Instant := do
  let now ← Std.Time.Timestamp.now
  return ⟨now.toNanosecondsSinceUnixEpoch.val / 1000⟩

/-- A proxy that is not reached. -/
def unreached : Proxy :=
  ⟨.straight (.unreachable noTransport), .straight (.unreachable noTransport), false, [], .null⟩

/-- The world of a run that sees the given files. -/
def worldOf (files : Files) : IO World := do
  let seed ← IO.getRandomBytes 16
  return ⟨files, ⟨unreached, fun _ => .unreachable noTransport, .safe, []⟩, fun _ => .failed noTransport, [],
    ⟨identifier seed.toList, 0, ← present⟩⟩

/-- The variables and the files that a command line may look at. -/
def surroundings (globals : Command.Globals) (directory : Path) : IO (Variables × Files) := do
  let values ← readVariables variableNames
  let log := ((values.lookup Logging.fileVariable).map Path.ofText).toList
  let files ← readEntries (settingsPaths directory globals.settingsPath ++ log.flatMap withParents)
    Files.empty
  match Settings.load files ⟨values, true⟩ directory globals.settingsPath with
  | .error _ => return (⟨values, true⟩, files)
  | .ok settings =>
    let more ← readVariables [settings.tokenVariable]
    return (⟨values ++ more, true⟩, ← readEntries (withParents settings.registryPath) files)

/-- What is run, and where. -/
def prepare (words : List String) : IO (Command.Place × Files) := do
  let directory := Path.ofText (toString (← IO.currentDir))
  match Command.readProgram name words with
  | .done (globals, _, _) =>
    let (vars, files) ← surroundings globals directory
    return (⟨name, vars, directory⟩, files)
  | _ => return (⟨name, ⟨[], true⟩, directory⟩, Files.empty)

/-- Run a command line; gives the exit code. -/
def run (words : List String) : IO UInt32 := do
  let (place, files) ← prepare words
  let (outcome, w) := Command.runWords place words (← worldOf files)
  writeChanges files w.files
  IO.print outcome.text
  match outcome.ending with
  | .serve _ =>
    IO.eprintln noTransport
    return 1
  | ending => return UInt32.ofNat ending.code

end EdgeProxy.Program

/-- Run the command line. -/
def main (words : List String) : IO UInt32 := EdgeProxy.Program.run words
