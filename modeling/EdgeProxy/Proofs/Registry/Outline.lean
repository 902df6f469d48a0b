import EdgeProxy.Proofs.Registry.WellFormed
import EdgeProxy.Registry.Validity
/-!
What the names of a registry depend on.  The outline of a registry leaves out identifiers, backends,
switches and everything that is merely kept; the names that are claimed are a function of it.
-/

namespace EdgeProxy

/-- The part of an environment that has a part in names. -/
def Environment.outline (e : Environment) : Environment := { e with name := "", extra := [] }

def EndpointSet.kinds (s : EndpointSet) : List EndpointKind := s.endpoints.map Prod.fst

/-- The part of an application that has a part in names. -/
structure Application.Outline where
  slug : String
  kinds : List (String × List EndpointKind)

/-- The part of an application that has a part in names. -/
def Application.outline (a : Application) : Application.Outline :=
  ⟨a.slug, a.endpoints.map fun (k, s) => (k, s.kinds)⟩

/-- The part of a host that has a part in names. -/
structure Host.Outline where
  subdomain : Option String
  customDomain : Option String

/-- The part of a host that has a part in names. -/
def Host.outline (h : Host) : Host.Outline := ⟨h.subdomain, h.customDomain⟩

/-- The part of a registry that its names depend on. -/
structure Outline where
  baseDomain : String
  environments : List Environment
  applications : List Application.Outline
  hosts : List Host.Outline

/-- The part of the registry that its names depend on. -/
def Registry.outline (r : Registry) : Outline :=
  ⟨r.baseDomain, r.environments.map Environment.outline, r.applications.map Application.outline,
    r.hosts.map Host.outline⟩

namespace Application.Outline

/-- The application with nothing but an outline. -/
def bare (o : Application.Outline) : Application := ⟨"", "", o.slug, true, "", [], []⟩

def names (o : Application.Outline) (environments : List Environment) (base : String) :
    List String :=
  environments.flatMap fun e =>
    ((o.kinds.lookup e.id).getD []).map fun kind => o.bare.domain kind e base

end Application.Outline

namespace Host.Outline

/-- Whether the host has a name. -/
def isNamed (o : Host.Outline) (base : String) : Bool := isGiven o.customDomain || !base.isEmpty

/-- The name of the host. -/
def domain (o : Host.Outline) (base : String) : String :=
  if isGiven o.customDomain then Text.lower (partText o.customDomain)
  else Text.lower (partText o.subdomain ++ "." ++ base)

end Host.Outline

/-- Every claimed name: the system routes, the endpoints and the hosts. -/
def Outline.names (o : Outline) : List String :=
  ((systemDomains o.baseDomain).map Prod.snd ++
    ((if o.baseDomain.isEmpty then []
      else o.applications.flatMap (·.names o.environments o.baseDomain)) ++
    (o.hosts.filter (·.isNamed o.baseDomain)).map (·.domain o.baseDomain))).map Text.lower

theorem lookup_map_snd {α β : Type} (f : α → β) (l : List (String × α)) (key : String) :
    (l.map fun (k, a) => (k, f a)).lookup key = (l.lookup key).map f := by
  induction l with
  | nil => rfl
  | cons p rest ih =>
      obtain ⟨k, a⟩ := p
      by_cases hkey : key = k
      · subst hkey
        simp
      · simpa [List.lookup_cons, beq_false_of_ne hkey] using ih

theorem Application.names_targets (app : Application) (environments : List Environment)
    (base : String) :
    (app.targets environments base).map Target.domain =
      app.outline.names (environments.map Environment.outline) base := by
  rw [Application.targets, Application.Outline.names, List.map_map, Application.endpointsIn,
    List.map_flatMap, List.flatMap_map]
  congr 1
  funext e
  have hlookup : (app.outline.kinds.lookup e.outline.id) =
      (app.endpointSet? e.id).map EndpointSet.kinds := lookup_map_snd _ _ _
  rw [hlookup]
  cases app.endpointSet? e.id with
  | none => rfl
  | some set =>
      simp only [Option.map_some, Option.getD_some, EndpointSet.kinds, List.map_map]
      rfl

theorem Registry.names_claims (r : Registry) : r.claims.map Prod.fst = r.outline.names := by
  have happlications : (r.applications.flatMap (·.targets r.environments r.baseDomain)).map
      Target.domain = r.outline.applications.flatMap
        (·.names r.outline.environments r.baseDomain) := by
    rw [List.map_flatMap, Registry.outline, List.flatMap_map]
    congr 1
    funext app
    exact app.names_targets _ _
  have hhosts : ((r.hosts.filter (·.isNamed r.baseDomain)).map (·.target r.baseDomain)).map
      Target.domain = (r.outline.hosts.filter (·.isNamed r.baseDomain)).map
        (·.domain r.baseDomain) := by
    rw [Registry.outline, List.filter_map, List.map_map, List.map_map]
    rfl
  have htargets : r.allTargets.map Target.domain =
      (if r.baseDomain.isEmpty then []
        else r.outline.applications.flatMap (·.names r.outline.environments r.baseDomain)) ++
      (r.outline.hosts.filter (·.isNamed r.baseDomain)).map (·.domain r.baseDomain) := by
    rw [Registry.allTargets, List.map_append, hhosts]
    congr 1
    split
    · rfl
    · exact happlications
  rw [Outline.names, Registry.claims, List.map_append, List.map_append]
  congr 1
  · rw [List.map_map, List.map_map]
    rfl
  · have hlower : (r.allTargets.map fun t => (Text.lower t.domain, t.ruleId)).map Prod.fst =
        (r.allTargets.map Target.domain).map Text.lower := by
      rw [List.map_map, List.map_map]
      rfl
    rw [hlower, htargets]
    rfl

theorem EndpointSet.endpoints_stored (s : EndpointSet) : s.stored.endpoints = s.endpoints := by
  rw [endpoints, endpoints]
  cases hfrontend : s.frontend with
  | none => simp [stored, hfrontend, Api.stored]
  | some e => simp [stored, hfrontend, Api.stored, Endpoint.stored]

theorem EndpointSet.kinds_stored (s : EndpointSet) : s.stored.kinds = s.kinds := by
  rw [kinds, kinds, endpoints_stored]

theorem Registry.outline_stored (r : Registry) : r.stored.outline = r.outline := by
  have happlication : ∀ a : Application, a.stored.outline = a.outline := by
    intro a
    simp only [Application.outline, Application.stored, List.map_map, Function.comp_def,
      EndpointSet.kinds_stored]
  simp only [Registry.outline, Registry.stored, List.map_map, Function.comp_def, happlication]
  rfl

end EdgeProxy
