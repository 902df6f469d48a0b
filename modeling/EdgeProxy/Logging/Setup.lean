import EdgeProxy.Fault
import EdgeProxy.File.Tree
/-!
Where log records go and how they look.  The level comes from an option, else from the environment,
else it is the one for warnings.
-/

namespace EdgeProxy.Logging

def levels : List (String × Nat) :=
  [("NOTSET", 0), ("DEBUG", 10), ("INFO", 20), ("WARN", 30), ("WARNING", 30), ("ERROR", 40),
    ("CRITICAL", 50), ("FATAL", 50)]

def debugLevel : Nat := 10

def infoLevel : Nat := 20

def warningLevel : Nat := 30

/-- The capital letter of a character.  Two characters beyond ASCII have capitals within it. -/
def capital (c : Char) : Char :=
  if c == 'ı' then 'I' else if c == 'ſ' then 'S' else c.toUpper

/-- The level that a name stands for; an unknown name stands for warnings. -/
def levelOf (name : String) : Nat :=
  (levels.lookup (String.ofList (name.toList.map capital))).getD warningLevel

/-- What is asked for. -/
structure Options where
  level : Option String
  file : Option String
  fileLevel : Option String
  /-- Whether the loggers of libraries are kept quiet. -/
  quietLibraries : Bool

def levelVariable : String := "HOMEROUTE_LOG_LEVEL"

def fileVariable : String := "HOMEROUTE_LOG_FILE"

def fileLevelVariable : String := "HOMEROUTE_LOG_FILE_LEVEL"

/-- Where a handler writes to. -/
inductive Sink where
  | console
  | file (path : Path)
deriving DecidableEq, Repr

/-- A handler of records. -/
structure Handler where
  sink : Sink
  level : Nat
  format : String
  dateFormat : Option String
deriving DecidableEq, Repr

/-- The setup of the log. -/
structure Setup where
  level : Nat
  handlers : List Handler
  /-- The level of the loggers of libraries, if it is set. -/
  libraryLevel : Option Nat
deriving DecidableEq, Repr

/-- Only the message. -/
def plainFormat : String := "%(message)s"

/-- The message with time and origin. -/
def verboseFormat : String := "%(asctime)s [%(name)s] %(message)s"

/-- The message with everything that is known of it. -/
def detailedFormat : String := "%(asctime)s %(levelname)-5s %(name)s:%(lineno)d — %(message)s"

def timeFormat : String := "%H:%M:%S"

def dateTimeFormat : String := "%Y-%m-%d %H:%M:%S"

/-- A text that is given and not empty, or else another one. -/
def firstGiven (a b : Option String) : Option String :=
  match a with
  | some s => if s.isEmpty then b.filter (!·.isEmpty) else some s
  | none => b.filter (!·.isEmpty)

def consoleHandler (level : Nat) : Handler :=
  if level ≤ debugLevel then ⟨.console, level, detailedFormat, some timeFormat⟩
  else if level ≤ infoLevel then ⟨.console, level, verboseFormat, some timeFormat⟩
  else ⟨.console, level, plainFormat, none⟩

def fileHandler (path : Path) (level : Nat) : Handler :=
  ⟨.file path, level, detailedFormat, some dateTimeFormat⟩

/-- The setup that options and environment ask for. -/
def plan (options : Options) (environment : List (String × String)) : Setup :=
  let level := ((firstGiven options.level (environment.lookup levelVariable)).map levelOf).getD
    warningLevel
  let file := firstGiven options.file (environment.lookup fileVariable)
  let fileLevel :=
    ((firstGiven options.fileLevel (environment.lookup fileLevelVariable)).map levelOf).getD level
  let libraryLevel :=
    if options.quietLibraries && debugLevel < level then some warningLevel else none
  match file with
  | none => ⟨level, [consoleHandler level], libraryLevel⟩
  | some file =>
    ⟨min level fileLevel, [consoleHandler level, fileHandler (Path.ofText file) fileLevel],
      libraryLevel⟩

/-- Open the file of a setup; a file in a directory that is not there is a fault. -/
def Setup.open (setup : Setup) (files : Files) : Except Fault Files :=
  match setup.handlers.findSome? fun h => match h.sink with
    | .file path => some path
    | .console => none with
  | none => .ok files
  | some path =>
    if files.isFile path then .ok files
    else if files.isDirectory path then .error .isDirectory
    else if files.isDirectory path.parent then .ok (files.put path (.file []))
    else if files.isFile path.parent then .error .notDirectory
    else .error .missingDirectory

end EdgeProxy.Logging
