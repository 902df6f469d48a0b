import EdgeProxy.Proofs.Registry.Field
import EdgeProxy.Registry.Migration
/-!
Registries that a document can hold.  What a record keeps stands beside its known fields, no
environment of an application is given twice, and the layout is the current one.  Such a registry is
written as a document with distinct keys, and read back from it.  What is known of everything that is
kept, whatever it is, is a requirement on the kept fields of every record and on its known ones.
-/

namespace EdgeProxy

/-- A requirement on what a record keeps, given the fields that the record has. -/
abbrev Requirement := List FieldName → Fields → Prop

namespace Endpoint

/-- What the endpoint keeps meets a requirement. -/
def Keeping (Q : Requirement) (e : Endpoint) : Prop := Q Field.backend e.extra

/-- What the endpoint keeps stands beside its known fields. -/
def WellFormed (e : Endpoint) : Prop := Beside Field.backend e.extra

/-- The endpoint as it is stored. -/
def stored (e : Endpoint) : Endpoint := { e with extra := kept e.extra }

end Endpoint

namespace Api

/-- What the endpoint keeps meets a requirement. -/
def Keeping (Q : Requirement) (a : Api) : Prop := Q Field.api a.extra

/-- What the endpoint keeps stands beside its known fields. -/
def WellFormed (a : Api) : Prop := Beside Field.api a.extra

/-- The endpoint as it is stored. -/
def stored (a : Api) : Api := { a with extra := kept a.extra }

end Api

namespace EndpointSet

/-- What the endpoints keep, and what is kept beside them, meets a requirement. -/
structure Keeping (Q : Requirement) (s : EndpointSet) : Prop where
  frontend : ∀ e ∈ s.frontend, e.Keeping Q
  apis : ∀ a ∈ s.apis, a.Keeping Q
  extra : Q Field.endpointSet s.extra

/-- Every endpoint is well formed, and so is what is kept beside them. -/
structure WellFormed (s : EndpointSet) : Prop where
  frontend : ∀ e ∈ s.frontend, e.WellFormed
  apis : ∀ a ∈ s.apis, a.WellFormed
  extra : Beside Field.endpointSet s.extra

/-- The endpoints as they are stored. -/
def stored (s : EndpointSet) : EndpointSet :=
  ⟨s.frontend.map Endpoint.stored, s.apis.map Api.stored, kept s.extra⟩

end EndpointSet

namespace Environment

/-- What the environment keeps meets a requirement. -/
def Keeping (Q : Requirement) (e : Environment) : Prop := Q Field.environment e.extra

/-- What the environment keeps stands beside its known fields. -/
def WellFormed (e : Environment) : Prop := Beside Field.environment e.extra

/-- The environment as it is stored. -/
def stored (e : Environment) : Environment := { e with extra := kept e.extra }

end Environment

namespace Application

/-- Each environment is given once, and what its endpoints keep meets a requirement. -/
structure Keeping (Q : Requirement) (a : Application) : Prop where
  environments : (a.endpoints.map Prod.fst).Nodup
  endpoints : ∀ p ∈ a.endpoints, p.2.Keeping Q
  extra : Q Field.application a.extra

/-- Each environment is given once and its endpoints are well formed. -/
structure WellFormed (a : Application) : Prop where
  environments : (a.endpoints.map Prod.fst).Nodup
  endpoints : ∀ p ∈ a.endpoints, p.2.WellFormed
  extra : Beside Field.application a.extra

/-- The application as it is stored. -/
def stored (a : Application) : Application :=
  { a with endpoints := a.endpoints.map fun (k, s) => (k, s.stored), extra := kept a.extra }

end Application

namespace Host

/-- What the host keeps meets a requirement. -/
def Keeping (Q : Requirement) (h : Host) : Prop := Q Field.host h.extra

/-- What the host keeps stands beside its known fields. -/
def WellFormed (h : Host) : Prop := Beside Field.host h.extra

/-- The host as it is stored. -/
def stored (h : Host) : Host := { h with extra := kept h.extra }

end Host

namespace WildcardProvider

/-- What the provider keeps meets a requirement. -/
def Keeping (Q : Requirement) (p : WildcardProvider) : Prop := Q Field.wildcardProvider p.extra

/-- What the provider keeps stands beside its known fields. -/
def WellFormed (p : WildcardProvider) : Prop := Beside Field.wildcardProvider p.extra

/-- The provider as it is stored. -/
def stored (p : WildcardProvider) : WildcardProvider := { p with extra := kept p.extra }

end WildcardProvider

namespace Registry

/-- What every record keeps meets a requirement, and no environment of an application is given
twice. -/
structure Keeping (Q : Requirement) (r : Registry) : Prop where
  environments : ∀ e ∈ r.environments, e.Keeping Q
  applications : ∀ a ∈ r.applications, a.Keeping Q
  hosts : ∀ h ∈ r.hosts, h.Keeping Q
  provider : r.provider.Keeping Q
  extra : Q Field.registry r.extra

/-- Every record is well formed, the layout is current, and no key of an earlier release is kept. -/
structure WellFormed (r : Registry) : Prop where
  schema : r.schemaVersion = currentSchema
  environments : ∀ e ∈ r.environments, e.WellFormed
  applications : ∀ a ∈ r.applications, a.WellFormed
  hosts : ∀ h ∈ r.hosts, h.WellFormed
  provider : r.provider.WellFormed
  extra : Beside Field.registry r.extra
  deprecated : ∀ key ∈ Migration.deprecatedKeys, key ∉ r.extra.keys

/-- The registry as it is stored: numbers that are not finite are lost from what is kept. -/
def stored (r : Registry) : Registry :=
  { r with
    environments := r.environments.map Environment.stored
    applications := r.applications.map Application.stored
    hosts := r.hosts.map Host.stored
    provider := r.provider.stored
    extra := kept r.extra }

end Registry

section Keeping

theorem EndpointSet.wellFormed_iff {s : EndpointSet} : s.WellFormed ↔ s.Keeping Beside :=
  ⟨fun h => ⟨h.frontend, h.apis, h.extra⟩, fun h => ⟨h.frontend, h.apis, h.extra⟩⟩

theorem Application.wellFormed_iff {a : Application} : a.WellFormed ↔ a.Keeping Beside := by
  constructor
  · intro h
    exact ⟨h.environments, fun p hp => EndpointSet.wellFormed_iff.mp (h.endpoints p hp), h.extra⟩
  · intro h
    exact ⟨h.environments, fun p hp => EndpointSet.wellFormed_iff.mpr (h.endpoints p hp), h.extra⟩

/-- A registry is well formed if what it keeps stands beside its known fields, in the current layout
and with no key of an earlier release. -/
theorem Registry.wellFormed_iff {r : Registry} :
    r.WellFormed ↔ r.schemaVersion = currentSchema ∧ r.Keeping Beside ∧
      ∀ key ∈ Migration.deprecatedKeys, key ∉ r.extra.keys := by
  constructor
  · intro h
    refine ⟨h.schema, ⟨h.environments, ?_, h.hosts, h.provider, h.extra⟩, h.deprecated⟩
    exact fun a ha => Application.wellFormed_iff.mp (h.applications a ha)
  · rintro ⟨hschema, h, hdeprecated⟩
    refine ⟨hschema, h.environments, ?_, h.hosts, h.provider, h.extra, hdeprecated⟩
    exact fun a ha => Application.wellFormed_iff.mpr (h.applications a ha)

end Keeping

theorem kept_kept (extra : Fields) : kept (kept extra) = kept extra :=
  (Json.finite_finiteFields extra).finiteFields_eq

section Stored

/-- Storing twice loses no more than storing once. -/
theorem Endpoint.stored_stored (e : Endpoint) : e.stored.stored = e.stored := by
  simp only [stored, kept_kept]

theorem Api.stored_stored (a : Api) : a.stored.stored = a.stored := by
  simp only [stored, kept_kept]

theorem EndpointSet.stored_stored (s : EndpointSet) : s.stored.stored = s.stored := by
  simp only [stored, kept_kept, Option.map_map, List.map_map, Function.comp_def,
    Endpoint.stored_stored, Api.stored_stored]

theorem Environment.stored_stored (e : Environment) : e.stored.stored = e.stored := by
  simp only [stored, kept_kept]

theorem Application.stored_stored (a : Application) : a.stored.stored = a.stored := by
  simp only [stored, kept_kept, List.map_map, Function.comp_def, EndpointSet.stored_stored]

theorem Host.stored_stored (h : Host) : h.stored.stored = h.stored := by
  simp only [stored, kept_kept]

theorem WildcardProvider.stored_stored (p : WildcardProvider) : p.stored.stored = p.stored := by
  simp only [stored, kept_kept]

theorem Registry.stored_stored (r : Registry) : r.stored.stored = r.stored := by
  simp only [stored, kept_kept, List.map_map, Function.comp_def, Environment.stored_stored,
    Application.stored_stored, Host.stored_stored, WildcardProvider.stored_stored]

/-- What is stored is written as it was. -/
theorem Endpoint.encode_stored (e : Endpoint) : e.stored.encode = e.encode := by
  simp only [encode, stored, kept_kept]

theorem Api.encode_stored (a : Api) : a.stored.encode = a.encode := by
  simp only [encode, stored, kept_kept]

theorem EndpointSet.encode_stored (s : EndpointSet) : s.stored.encode = s.encode := by
  simp only [encode, stored, kept_kept, Option.map_map, List.map_map, Function.comp_def,
    Endpoint.encode_stored, Api.encode_stored]

theorem Environment.encode_stored (e : Environment) : e.stored.encode = e.encode := by
  simp only [encode, stored, kept_kept]

theorem Application.encode_stored (a : Application) : a.stored.encode = a.encode := by
  simp only [encode, stored, kept_kept, List.map_map, Function.comp_def,
    EndpointSet.encode_stored]

theorem Host.encode_stored (h : Host) : h.stored.encode = h.encode := by
  simp only [encode, stored, kept_kept]

theorem WildcardProvider.encode_stored (p : WildcardProvider) : p.stored.encode = p.encode := by
  simp only [encode, encodeFields, stored, kept_kept]

theorem Registry.encode_stored (r : Registry) : r.stored.encode = r.encode := by
  simp only [encode, encodeFields, stored, kept_kept, List.map_map, Function.comp_def,
    Environment.encode_stored, Application.encode_stored, Host.encode_stored,
    WildcardProvider.encode_stored]

end Stored

/-- Fields that are stored as they are. -/
def Lasting (_ : List FieldName) (extra : Fields) : Prop := kept extra = extra

section Lasting

theorem map_eq_self {α : Type} {f : α → α} {l : List α} (h : ∀ a ∈ l, f a = a) : l.map f = l :=
  (List.map_congr_left h).trans (List.map_id l)

theorem EndpointSet.Keeping.stored_eq {s : EndpointSet} (h : s.Keeping Lasting) :
    s.stored = s := by
  have hfrontend : s.frontend.map Endpoint.stored = s.frontend := by
    cases hs : s.frontend with
    | none => rfl
    | some e => exact congrArg (fun extra => some { e with extra }) (h.frontend e hs)
  have hapis : s.apis.map Api.stored = s.apis :=
    map_eq_self fun a ha => congrArg (fun extra => { a with extra }) (h.apis a ha)
  rw [stored, hfrontend, hapis, h.extra]

theorem Application.Keeping.stored_eq {a : Application} (h : a.Keeping Lasting) :
    a.stored = a := by
  have hendpoints : (a.endpoints.map fun (k, s) => (k, s.stored)) = a.endpoints :=
    map_eq_self fun p hp => congrArg (p.1, ·) (h.endpoints p hp).stored_eq
  rw [stored, hendpoints, h.extra]

/-- A registry that keeps only what is stored as it is, is stored as it is. -/
theorem Registry.Keeping.stored_eq {r : Registry} (h : r.Keeping Lasting) : r.stored = r := by
  have henvironments : r.environments.map Environment.stored = r.environments :=
    map_eq_self fun e he => congrArg (fun extra => { e with extra }) (h.environments e he)
  have happlications : r.applications.map Application.stored = r.applications :=
    map_eq_self fun a ha => (h.applications a ha).stored_eq
  have hhosts : r.hosts.map Host.stored = r.hosts :=
    map_eq_self fun a ha => congrArg (fun extra => { a with extra }) (h.hosts a ha)
  have hprovider : r.provider.stored = r.provider :=
    congrArg (fun extra => { r.provider with extra }) h.provider
  rw [stored, henvironments, happlications, hhosts, hprovider, h.extra]

end Lasting

section WellFormedStored

theorem EndpointSet.WellFormed.stored {s : EndpointSet} (h : s.WellFormed) :
    s.stored.WellFormed := by
  refine ⟨?_, ?_, h.extra.kept⟩
  · intro e he
    obtain ⟨e', he', rfl⟩ := Option.map_eq_some_iff.mp he
    exact (h.frontend e' he').kept
  · intro a ha
    obtain ⟨a', ha', rfl⟩ := List.mem_map.mp ha
    exact (h.apis a' ha').kept

theorem Application.WellFormed.stored {a : Application} (h : a.WellFormed) :
    a.stored.WellFormed := by
  refine ⟨?_, ?_, h.extra.kept⟩
  · have hkeys : a.stored.endpoints.map Prod.fst = a.endpoints.map Prod.fst := by
      simp only [Application.stored, List.map_map, Function.comp_def]
    rw [hkeys]
    exact h.environments
  · intro p hp
    obtain ⟨q, hq, rfl⟩ := List.mem_map.mp hp
    exact (h.endpoints q hq).stored

theorem Registry.WellFormed.stored {r : Registry} (h : r.WellFormed) : r.stored.WellFormed := by
  refine ⟨h.schema, ?_, ?_, ?_, h.provider.kept, h.extra.kept, ?_⟩
  · intro e he
    obtain ⟨e', he', rfl⟩ := List.mem_map.mp he
    exact (h.environments e' he').kept
  · intro a ha
    obtain ⟨a', ha', rfl⟩ := List.mem_map.mp ha
    exact (h.applications a' ha').stored
  · intro g hg
    obtain ⟨g', hg', rfl⟩ := List.mem_map.mp hg
    exact Beside.kept (h.hosts g' hg')
  · intro key hkey
    rw [Registry.stored, kept, Json.keys_finiteFields]
    exact h.deprecated key hkey

end WellFormedStored

/-- The initial registry keeps nothing. -/
theorem Registry.initial_keeping {Q : Requirement} (hQ : ∀ names, Q names []) :
    Registry.initial.Keeping Q := by
  refine ⟨?_, ?_, ?_, hQ _, hQ _⟩
  · intro e he
    simp only [Registry.initial, Environment.initial, List.mem_cons, List.not_mem_nil, or_false]
      at he
    rcases he with rfl | rfl <;> exact hQ _
  · intro a ha
    simp [Registry.initial] at ha
  · intro h hh
    simp [Registry.initial] at hh

theorem Registry.initial_wellFormed : Registry.initial.WellFormed := by
  refine Registry.wellFormed_iff.mpr ⟨rfl, Registry.initial_keeping beside_nil, ?_⟩
  intro key _ hkey
  simp [Registry.initial] at hkey

end EdgeProxy
