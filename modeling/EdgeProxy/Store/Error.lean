import EdgeProxy.Fault
import EdgeProxy.File.Path
import EdgeProxy.Registry.Issue
import EdgeProxy.Registry.Migration
/-!
Why the stored registry cannot be read or written.
-/

namespace EdgeProxy

/-- A stored version: a number, or a flag that counts as zero or one. -/
inductive StoredVersion where
  | number (n : Int)
  | flag (b : Bool)
deriving DecidableEq, Repr

namespace StoredVersion

def count : StoredVersion → Int
  | number n => n
  | flag b => if b then 1 else 0

/-- The version as a value. -/
def toJson : StoredVersion → Json
  | number n => .int n
  | flag b => .bool b

end StoredVersion

/-- Why the store refuses to read or write. -/
inductive StoreError where
  /-- The system does not let the file be read. -/
  | notRead (path : Path) (why : String)
  /-- The file holds no JSON. -/
  | corrupt (path : Path)
  /-- The file holds a value of another kind than an object. -/
  | notObject (path : Path) (kind : String)
  | notMigrated (path : Path) (why : Migration.Refusal)
  | invalid (path : Path) (issues : List Issue)
  /-- The document was changed since it was read. -/
  | conflict (expected : Int) (found : StoredVersion)
  | notWritten (path : Path) (why : String)

/-- What stands for the position and cause of a syntax error. -/
def jsonErrorText : String := "<json error>"

/-- The reason as reported. -/
def StoreError.text : StoreError → String
  | notRead path why => "Cannot read registry file " ++ path.text ++ ": " ++ why
  | corrupt path => "Corrupt registry file " ++ path.text ++ ": " ++ jsonErrorText
  | notObject path kind => "Expected a JSON object in " ++ path.text ++ ", got " ++ kind
  | notMigrated path why => "Cannot migrate " ++ path.text ++ ": " ++ why.text
  | invalid path issues => "Invalid registry document " ++ path.text ++ ": " ++
      Issue.report "Registry" issues
  | conflict expected found => "Registry was modified concurrently (expected version " ++
      Text.decimalInt expected ++ ", found " ++ found.toJson.literal ++ "); reload and retry"
  | notWritten path why => "Cannot write registry file " ++ path.text ++ ": " ++ why

/-- How a step of the store can fail. -/
inductive StoreFailure where
  | refused (why : StoreError)
  | fault (what : Fault)

end EdgeProxy
