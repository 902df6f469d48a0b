import EdgeProxy.Registry.Target
import Mathlib.Data.List.Basic
/-!
What the targets of a registry are.
-/

namespace EdgeProxy

theorem EndpointSet.mem_endpoints {set : EndpointSet} {kind : EndpointKind} {backend : Backend} :
    (kind, backend) ∈ set.endpoints ↔
      (∃ endpoint, set.frontend = some endpoint ∧ kind = .frontend ∧
        backend = endpoint.toBackend) ∨
      ∃ api ∈ set.apis, kind = .api api.slug ∧ backend = api.toBackend := by
  rw [endpoints, List.mem_append, List.mem_map, Option.mem_toList, Option.map_eq_some_iff]
  simp only [Prod.mk.injEq]
  constructor
  · rintro (⟨endpoint, hfrontend, rfl, rfl⟩ | ⟨api, hapi, rfl, rfl⟩)
    · exact Or.inl ⟨endpoint, hfrontend, rfl, rfl⟩
    · exact Or.inr ⟨api, hapi, rfl, rfl⟩
  · rintro (⟨endpoint, hfrontend, rfl, rfl⟩ | ⟨api, hapi, rfl, rfl⟩)
    · exact Or.inl ⟨endpoint, hfrontend, rfl, rfl⟩
    · exact Or.inr ⟨api, hapi, rfl, rfl⟩

/-- The endpoints of an application are those of its sets for the given environments. -/
theorem Application.mem_endpointsIn {app : Application} {environments : List Environment}
    {e : Environment} {kind : EndpointKind} {backend : Backend} :
    (e, kind, backend) ∈ app.endpointsIn environments ↔
      e ∈ environments ∧ ∃ set, app.endpointSet? e.id = some set ∧
        (kind, backend) ∈ set.endpoints := by
  rw [endpointsIn, List.mem_flatMap]
  constructor
  · rintro ⟨e', he', hmem⟩
    split at hmem
    next set hset =>
      obtain ⟨⟨kind', backend'⟩, hendpoint, heq⟩ := List.mem_map.mp hmem
      cases heq
      exact ⟨he', set, hset, hendpoint⟩
    · cases hmem
  · rintro ⟨he, set, hset, hendpoint⟩
    refine ⟨e, he, ?_⟩
    rw [hset]
    exact List.mem_map.mpr ⟨(kind, backend), hendpoint, rfl⟩

/-- The targets of a registry are the endpoints of its enabled applications and its enabled hosts that
have a name. -/
theorem Registry.mem_targets {r : Registry} {t : Target} :
    t ∈ r.targets ↔
      (r.baseDomain ≠ "" ∧ ∃ app ∈ r.applications, app.enabled = true ∧ ∃ e kind backend,
        (e, kind, backend) ∈ app.endpointsIn r.environments ∧
          app.target r.baseDomain e kind backend = t) ∨
      ∃ h ∈ r.hosts, h.enabled = true ∧ h.isNamed r.baseDomain = true ∧
        h.target r.baseDomain = t := by
  have happlications : t ∈ (r.applications.filter (·.enabled)).flatMap
        (·.targets r.environments r.baseDomain) ↔
      ∃ app ∈ r.applications, app.enabled = true ∧ ∃ e kind backend,
        (e, kind, backend) ∈ app.endpointsIn r.environments ∧
          app.target r.baseDomain e kind backend = t := by
    simp only [List.mem_flatMap, List.mem_filter, Application.targets, List.mem_map, Prod.exists,
      and_assoc]
  have hhosts : t ∈ (r.hosts.filter fun h => h.enabled && h.isNamed r.baseDomain).map
        (·.target r.baseDomain) ↔
      ∃ h ∈ r.hosts, h.enabled = true ∧ h.isNamed r.baseDomain = true ∧
        h.target r.baseDomain = t := by
    simp only [List.mem_map, List.mem_filter, Bool.and_eq_true, and_assoc]
  rw [targets, List.mem_append, hhosts]
  by_cases hbase : r.baseDomain = ""
  · simp [hbase]
  · have hempty : r.baseDomain.isEmpty = false := by simpa using hbase
    rw [hempty, if_neg Bool.false_ne_true, happlications]
    simp [hbase]

end EdgeProxy
