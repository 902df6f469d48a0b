import EdgeProxy.Text.Utf8
/-!
Faults: what becomes of a value whose shape no rule provides for.  A fault ends the operation that
met it without an answer of its own.
-/

namespace EdgeProxy

/-- A value that no rule provides for. -/
inductive Fault where
  /-- A value without fields was asked for one. -/
  | noFields
  /-- A value of this kind cannot be gone through, used as a key or searched. -/
  | wrongKind
  /-- A written integer is too long, or a list is no list of pairs. -/
  | badValue
  /-- An infinite number was taken for an integer, or a time is too long. -/
  | overflow
  /-- Bytes are no text. -/
  | undecodable (reason : Text.Utf8Error)
  /-- An address has no scheme. -/
  | noScheme (address : String)
  /-- A file is written in a directory that does not exist. -/
  | missingDirectory
  /-- A directory is made where a file stands. -/
  | occupied
  /-- A directory is opened as a file. -/
  | isDirectory
  /-- A path leads through a file. -/
  | notDirectory
  /-- The system does not let a directory be made. -/
  | denied (why : String)
  /-- A text cannot be put into bytes. -/
  | unencodable
  /-- Values are nested deeper than they can be followed. -/
  | tooDeep
  /-- A request or an answer is none that the protocol knows, or breaks off. -/
  | offProtocol
  /-- The line was lost within an answer. -/
  | lineLost (why : String)
  /-- A name, port or timeout is none that a connection can be asked for with. -/
  | badTarget
  /-- A certificate states a version that there is not. -/
  | badVersion
deriving DecidableEq, Repr

end EdgeProxy
