import EdgeProxy.Registry.Target
/-!
Invariants of a whole registry.  `Registry.violations` lists every violation in a fixed order; a
registry without any is valid.
-/

namespace EdgeProxy

/-- A violated invariant. -/
inductive Violation where
  | duplicateEnvironments (ids : List String)
  | severalDefaults (ids : List String)
  | duplicateSlugs (slugs : List String)
  /-- A host has both or neither of a subdomain and a custom domain. -/
  | hostName (id : String)
  | domainInUse (domain : String) (claims : Nat)
deriving DecidableEq, Repr

def Violation.text : Violation → String
  | duplicateEnvironments ids => "Duplicate environment ids: " ++ ", ".intercalate ids
  | severalDefaults ids => "Multiple default environments: " ++ ", ".intercalate ids
  | duplicateSlugs slugs => "Duplicate application slugs: " ++ ", ".intercalate slugs
  | hostName id => "Host " ++ id ++ " must have exactly one of subdomain or custom domain"
  | domainInUse domain claims => "Domain " ++ domain ++ " is already in use (" ++
      Text.decimal claims ++ " routes)"

/-- Texts in the order of their code points. -/
def sortTexts (l : List String) : List String := l.mergeSort fun a b => decide (a ≤ b)

/-- The texts that occur more than once, each once, in order. -/
def repeated (l : List String) : List String :=
  sortTexts (l.eraseDups.filter fun s => 1 < l.count s)

namespace Registry

/-- Environment identifiers that occur more than once. -/
def environmentViolations (r : Registry) : List Violation :=
  match repeated (r.environments.map (·.id)) with
  | [] => []
  | ids => [.duplicateEnvironments ids]

def defaultViolations (r : Registry) : List Violation :=
  let ids := (r.environments.filter (·.isDefault)).map (·.id)
  if 1 < ids.length then [.severalDefaults ids] else []

/-- Application slugs that occur more than once. -/
def slugViolations (r : Registry) : List Violation :=
  match repeated (r.applications.map (·.slug)) with
  | [] => []
  | slugs => [.duplicateSlugs slugs]

/-- Hosts without exactly one kind of name. -/
def hostViolations (r : Registry) : List Violation :=
  (r.hosts.filter fun h => isGiven h.subdomain == isGiven h.customDomain).map fun h =>
    .hostName h.id

/-- Names that are claimed more than once, in order. -/
def domainViolations (r : Registry) : List Violation :=
  (r.collisions.mergeSort fun a b => decide (a.1 ≤ b.1)).map fun (domain, rules) =>
    .domainInUse domain rules.length

def violations (r : Registry) : List Violation :=
  r.environmentViolations ++ r.defaultViolations ++ r.slugViolations ++ r.hostViolations ++
    r.domainViolations

/-- Whether no invariant is violated. -/
def isValid (r : Registry) : Bool := r.violations.isEmpty

end Registry

end EdgeProxy
