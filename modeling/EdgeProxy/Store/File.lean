import EdgeProxy.File.Tree
import EdgeProxy.Json.Reader
import EdgeProxy.Registry.Encode
import EdgeProxy.Store.Error
/-!
The registry file.  `load` reads it in the current layout, `save` replaces it as a whole.  A save
that names the version it was computed from is refused if the file has another one by then; the two
steps of a save, the check and the replacement, are separate functions.
-/

namespace EdgeProxy.Store

/-- The document of a file, or nothing if there is no file. -/
def document (files : Files) (path : Path) : Except StoreFailure (Option Fields) :=
  match files.content? path with
  | none => .ok none
  | some (.error why) => .error (.refused (.notRead path why))
  | some (.ok bytes) =>
    match Text.decode bytes with
    | .error reason => .error (.fault (.undecodable reason))
    | .ok text =>
      match Json.read text with
      | .error .malformed => .error (.refused (.corrupt path))
      | .error (.longInteger _) => .error (.fault .badValue)
      | .ok (.obj fields) => .ok (some fields)
      | .ok v => .error (.refused (.notObject path v.kindName))

def currentDocument (path : Path) (doc : Fields) : Except StoreFailure Fields :=
  match Migration.upgrade (Migration.stripDeprecated doc) with
  | .ok doc => .ok doc
  | .error (.refused why) => .error (.refused (.notMigrated path why))
  | .error (.fault fault) => .error (.fault fault)

/-- The registry of a document in the current layout; `issues` were found before. -/
def registryOf (supply : Supply) (path : Path) (issues : List Issue) (doc : Fields) :
    Except StoreFailure Registry × Supply :=
  let (doc, supply) := Registry.mark supply doc
  match (Registry.decode doc).after issues with
  | .valid registry => (.ok registry, supply)
  | .invalid issues => (.error (.refused (.invalid path issues)), supply)

/-- Read the registry; without a file it is the initial one. -/
def load (supply : Supply) (files : Files) (path : Path) :
    Except StoreFailure Registry × Supply :=
  match document files path with
  | .error failure => (.error failure, supply)
  | .ok none => (.ok .initial, supply)
  | .ok (some doc) =>
    match currentDocument path doc with
    | .error failure => (.error failure, supply)
    | .ok current => registryOf supply path (Migration.nameIssues doc) current

/-- The version that a document carries; another kind of value counts as none. -/
def versionOf (doc : Fields) : StoredVersion :=
  match doc.get? Field.version.name with
  | some (.int n) => .number n
  | some (.bool b) => .flag b
  | _ => .number 0

/-- The version of the stored document, zero if there is none. -/
def version (files : Files) (path : Path) : Except StoreFailure StoredVersion :=
  match document files path with
  | .error failure => .error failure
  | .ok none => .ok (.number 0)
  | .ok (some doc) => .ok (versionOf doc)

/-- The first step of a save: the file still has the version that the caller read. -/
def check (files : Files) (path : Path) (expected : Option Int) : Except StoreFailure Unit :=
  match expected with
  | none => .ok ()
  | some expected =>
    match version files path with
    | .error failure => .error failure
    | .ok found =>
      if found.count == expected then .ok () else .error (.refused (.conflict expected found))

/-- The registry as it is written: one version later. -/
def advance (registry : Registry) : Registry := { registry with version := registry.version + 1 }

/-- The second step of a save: the file is replaced.  A directory that cannot be made, an integer that is too
long to be written and a text that cannot be put into bytes are faults. -/
def replace (registry : Registry) (files : Files) (path : Path) :
    Except StoreFailure Registry × Files :=
  match files.makeDirectories path.parent with
  | .error fault => (.error (.fault fault), files)
  | .ok files =>
    let registry := advance registry
    if !registry.encode.isWritable then (.error (.fault .badValue), files)
    else
      match files.replace path (Text.encode registry.fileText) with
      | (.ok (), files) => (.ok registry, files)
      | (.error (.refused why), files) => (.error (.refused (.notWritten path why)), files)
      | (.error (.fault fault), files) => (.error (.fault fault), files)

/-- Write the registry, one version later than it is. -/
def save (registry : Registry) (files : Files) (path : Path) (expected : Option Int) :
    Except StoreFailure Registry × Files :=
  match check files path expected with
  | .error failure => (.error failure, files)
  | .ok () => replace registry files path

end EdgeProxy.Store
