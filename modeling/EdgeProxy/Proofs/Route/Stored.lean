import EdgeProxy.Proofs.Registry.Outline
import EdgeProxy.Route.Config
/-!
The configuration of a registry depends on nothing that is lost when the registry is stored.  What is
merely kept beside the known fields has no part in it.
-/

namespace EdgeProxy

/-- The target with its environment as it is stored. -/
def Target.stored (t : Target) : Target :=
  { t with environment := t.environment.map Environment.stored }

theorem Route.ofTarget_stored (settings : Settings) (base : String) (t : Target) :
    ofTarget settings base t.stored = ofTarget settings base t := by
  have hid : (t.environment.map Environment.stored).map (·.id) = t.environment.map (·.id) := by
    cases t.environment <;> rfl
  simp only [ofTarget, Target.stored, hid]

namespace Application

theorem endpointSet?_stored (app : Application) (id : String) :
    app.stored.endpointSet? id = (app.endpointSet? id).map EndpointSet.stored :=
  lookup_map_snd _ _ _

theorem endpointsIn_stored (app : Application) (environments : List Environment) :
    app.stored.endpointsIn (environments.map Environment.stored) =
      (app.endpointsIn environments).map fun (e, kind, backend) => (e.stored, kind, backend) := by
  rw [endpointsIn, endpointsIn, List.flatMap_map, List.map_flatMap]
  congr 1
  funext e
  have hset : app.stored.endpointSet? e.stored.id = (app.endpointSet? e.id).map EndpointSet.stored :=
    app.endpointSet?_stored e.id
  rw [hset]
  cases app.endpointSet? e.id with
  | none => rfl
  | some set =>
      simp only [Option.map_some, EndpointSet.endpoints_stored, List.map_map]
      rfl

theorem targets_stored (app : Application) (environments : List Environment) (base : String) :
    app.stored.targets (environments.map Environment.stored) base =
      (app.targets environments base).map Target.stored := by
  rw [targets, targets, endpointsIn_stored, List.map_map, List.map_map]
  rfl

end Application

namespace Registry

theorem targets_stored (r : Registry) : r.stored.targets = r.targets.map Target.stored := by
  have happlications : r.stored.applications.filter (·.enabled) =
      (r.applications.filter (·.enabled)).map Application.stored := by
    rw [stored, List.filter_map]
    rfl
  have hhosts : r.stored.hosts.filter (fun h => h.enabled && h.isNamed r.baseDomain) =
      (r.hosts.filter fun h => h.enabled && h.isNamed r.baseDomain).map Host.stored := by
    rw [stored, List.filter_map]
    rfl
  have hbase : r.stored.baseDomain = r.baseDomain := rfl
  rw [targets, targets, hbase, happlications, hhosts, List.map_append]
  congr 1
  · split
    · rfl
    · rw [List.flatMap_map, List.map_flatMap]
      congr 1
      funext app
      exact app.targets_stored r.environments r.baseDomain
  · rw [List.map_map, List.map_map]
    rfl

theorem routes_stored (r : Registry) (settings : Settings) :
    r.stored.routes settings = r.routes settings := by
  have hbase : r.stored.baseDomain = r.baseDomain := rfl
  rw [routes, routes, hbase, targets_stored, List.map_map]
  congr 2
  funext t
  exact Route.ofTarget_stored settings r.baseDomain t

theorem requestedPatterns_stored (r : Registry) :
    r.stored.requestedPatterns = r.requestedPatterns := by
  have hpatterns : r.stored.wildcardPatterns = r.wildcardPatterns := by
    simp only [wildcardPatterns, stored, List.flatMap_map]
    rfl
  rw [requestedPatterns, requestedPatterns, hpatterns]
  rfl

/-- What is read back is compiled to what the registry was compiled to. -/
theorem compile_stored (r : Registry) (settings : Settings) :
    r.stored.compile settings = r.compile settings := by
  have henabled : r.stored.provider.enabled = r.provider.enabled := rfl
  simp only [compile, tlsPolicy, routes_stored, requestedPatterns_stored, henabled]

end Registry

end EdgeProxy
