import EdgeProxy.Operation.World
/-!
The check of the stored registry: errors are violated invariants, warnings are states that are legal
but route less than one may think.
-/

namespace EdgeProxy

/-- A state that is legal but suspicious. -/
inductive Warning where
  | noFile (path : Path)
  | noBaseDomain
  | noDefaultEnvironment
  | unknownEnvironments (slug : String) (ids : List String)
  | noEndpoints (slug : String)
  | noPatterns
deriving DecidableEq, Repr

def Warning.text : Warning → String
  | noFile path => "No registry at " ++ path.text ++ "; defaults will be used."
  | noBaseDomain => "No base domain set. Applications and subdomain hosts are not routed."
  | noDefaultEnvironment => "No default environment."
  | unknownEnvironments slug ids => "Application '" ++ slug ++
      "' has endpoints for unknown environment(s): " ++ ", ".intercalate ids
  | noEndpoints slug => "Application '" ++ slug ++ "' has no endpoints."
  | noPatterns => "Wildcard certificates enabled but no patterns derived."

structure CheckResult where
  registry : Option Registry
  path : Path
  errors : List String
  warnings : List Warning

namespace Registry

def applicationWarnings (r : Registry) (app : Application) : List Warning :=
  let known := r.environments.map (·.id)
  let unknown := (app.endpoints.map (·.1)).filter (!known.contains ·)
  (if unknown.isEmpty then [] else [.unknownEnvironments app.slug (sortTexts unknown)]) ++
    if app.endpoints.isEmpty then [.noEndpoints app.slug] else []

def warnings (r : Registry) : List Warning :=
  (if r.baseDomain.isEmpty then [.noBaseDomain] else []) ++
    (if r.environments.any (·.isDefault) then [] else [.noDefaultEnvironment]) ++
    r.applications.flatMap r.applicationWarnings ++
    if r.provider.enabled && r.provider.domains.isEmpty then [.noPatterns] else []

end Registry

namespace CheckResult

def isValid (c : CheckResult) : Bool := c.errors.isEmpty

/-- The number of something in the registry that was read. -/
def count {α : Type} (c : CheckResult) (items : Registry → List α) : Json :=
  .int ((c.registry.map fun r => (items r).length).getD 0)

/-- The result as a value. -/
def toJson (c : CheckResult) : Json :=
  .obj [("valid", .bool c.isValid), ("registry_path", .str c.path.text),
    ("errors", .texts c.errors), ("warnings", .texts (c.warnings.map Warning.text)),
    ("base_domain", .ofText? (c.registry.map (·.baseDomain))),
    ("host_count", c.count (·.hosts)), ("application_count", c.count (·.applications)),
    ("environment_count", c.count (·.environments))]

end CheckResult

namespace World

def check (settings : Settings) (w : World) : Except Fault CheckResult × World :=
  let path := settings.registryPath
  let missing := if w.files.isFile path then [] else [Warning.noFile path]
  match w.load settings with
  | (.error (.fault fault), w) => (.error fault, w)
  | (.error (.refused why), w) => (.ok ⟨none, path, [why.text], missing⟩, w)
  | (.ok r, w) => (.ok ⟨some r, path, r.violations.map Violation.text, missing ++ r.warnings⟩, w)

end World

end EdgeProxy
