import EdgeProxy.File.Path
/-!
The commands of the program.
-/

namespace EdgeProxy

inductive Command where
  | status (json : Bool)
  | check (json : Bool)
  | health (json : Bool)
  | web (host : String) (port : Int) (sync : Bool)
  | compile (json : Bool)
  | push
  | proxyStatus (json : Bool)
  | certificates (json : Bool)
  | renew
  | setDomain (domain : String)
deriving DecidableEq, Repr

namespace Command

/-- What holds for every command. -/
structure Globals where
  verbose : Bool
  quiet : Bool
  debug : Bool
  /-- The settings file that is asked for. -/
  settingsPath : Option Path
deriving DecidableEq, Repr

/-- What is asked for by words. -/
inductive Asked (α : Type) where
  /-- The words make no sense. -/
  | misuse
  /-- A page is to be shown. -/
  | page (lines : List String)
  | done (value : α)
deriving DecidableEq, Repr

end Command

end EdgeProxy
