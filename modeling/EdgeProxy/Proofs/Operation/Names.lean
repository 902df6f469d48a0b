import EdgeProxy.Proofs.Operation.Entities
import EdgeProxy.Proofs.Operation.Stable
import EdgeProxy.Proofs.Registry.Patterns
import EdgeProxy.Proofs.Request.Names
/-!
The parts of names in the stored registry.  Whatever operations are run, every base domain, prefix, slug and
subdomain that is stored follows its grammar.
-/

namespace EdgeProxy

/-- A host is named by a free label or by a domain of its own. -/
inductive HostName : Option String → Option String → Prop where
  | subdomain {s : String} (h : Hostname.IsFreeLabel s) : HostName (some s) none
  | customDomain {s : String} (h : Hostname.isDomainText s = true) : HostName none (some s)

/-- A host without a domain of its own has a label. -/
theorem HostName.label {subdomain customDomain : Option String} (h : HostName subdomain customDomain)
    (hcustom : isGiven customDomain = false) : ∃ s, subdomain = some s ∧ Hostname.IsFreeLabel s := by
  cases h with
  | subdomain hs => exact ⟨_, rfl, hs⟩
  | customDomain hs => simp [isGiven, Hostname.ne_empty_of_isDomainText hs] at hcustom

/-- The domain of its own that a host has is one. -/
theorem HostName.ownDomain {subdomain customDomain : Option String}
    (h : HostName subdomain customDomain) (hcustom : isGiven customDomain = true) :
    ∃ s, customDomain = some s ∧ Hostname.isDomainText s = true := by
  cases h with
  | subdomain => cases hcustom
  | customDomain hs => exact ⟨_, rfl, hs⟩

/-- Names below an environment: frontends may stand right below the base domain, APIs may not. -/
structure Environment.WellNamed (e : Environment) : Prop where
  frontendPrefix : e.frontendPrefix = "" ∨ Hostname.isLabelsText e.frontendPrefix = true
  apiPrefix : Hostname.isLabelsText e.apiPrefix = true

/-- The slugs of APIs have no other characters than labels. -/
def EndpointSet.WellNamed (s : EndpointSet) : Prop :=
  ∀ a ∈ s.apis, ∀ c ∈ a.slug.toList, Hostname.isLabelChar c = true

namespace Registry

/-- Every part of a name follows its grammar. -/
structure WellNamed (r : Registry) : Prop where
  baseDomain : r.baseDomain = "" ∨ Hostname.isDomainText r.baseDomain = true
  environments : ∀ e ∈ r.environments, e.WellNamed
  slugs : ∀ a ∈ r.applications, Hostname.IsFreeLabel a.slug
  sets : ∀ a ∈ r.applications, ∀ p ∈ a.endpoints, p.2.WellNamed
  hosts : ∀ h ∈ r.hosts, HostName h.subdomain h.customDomain

theorem wellNamed_initial : initial.WellNamed where
  baseDomain := .inl rfl
  environments := by
    intro e he
    simp only [initial, Environment.initial, List.mem_cons, List.not_mem_nil, or_false] at he
    rcases he with rfl | rfl
    · exact ⟨.inl rfl, by decide⟩
    · exact ⟨.inr (by decide), by decide⟩
  slugs := by simp [initial]
  sets := by simp [initial]
  hosts := by simp [initial]

theorem wellNamed_api {subject : String} {v : Json} {a : Api} (h : Request.api v subject = .ok a) :
    ∀ c ∈ a.slug.toList, Hostname.isLabelChar c = true := by
  obtain ⟨fields, -, -, -, hslug, -⟩ := Request.api_eq_ok.mp h
  rw [hslug]
  exact fun c => Request.isLabelChar_of_apiSlug

theorem wellNamed_requestedSet (v : Json) (id : String) (present : Option EndpointSet)
    (set : EndpointSet) (hpresent : ∀ s ∈ present, s.WellNamed)
    (h : Application.requestedSet v id present = .ok set) : set.WellNamed :=
  Request.forall_endpointSet (Q := fun _ => True) (fun _ _ _ _ => wellNamed_api)
    (fun _ _ _ => trivial) (fun _ _ => trivial) hpresent (Application.requestedSet_eq_ok.mp h).1

theorem WellNamed.changes {settings : Settings} {r r' : Registry} (hchanges : r.Changes settings r')
    (h : r.WellNamed) : r'.WellNamed := by
  cases hchanges with
  | baseDomain hdomain =>
      exact { h with baseDomain := .inr (Request.isDomainText_of_baseDomain hdomain) }
  | hosts hfrom =>
      refine { h with hosts := fun a ha => (hfrom a ha).name ?_ ?_ h.hosts }
      · exact fun v s hs => .subdomain (Request.isFreeLabel_of_freeLabel hs)
      · exact fun v s hs => .customDomain (Request.isDomainText_of_customDomain hs)
  | environments hfrom =>
      refine { h with environments := fun e he => ?_ }
      obtain ⟨hfrontend, hapi⟩ := (hfrom e he).labels
        (F := fun s => s = "" ∨ Hostname.isLabelsText s = true)
        (A := fun s => Hostname.isLabelsText s = true)
        (fun v s hs => (Request.isLabelsText_of_labels hs).imp_left And.right)
        (fun v s hs => (Request.isLabelsText_of_labels hs).resolve_left (by simp))
        (fun e he => ⟨(h.environments e he).frontendPrefix, (h.environments e he).apiPrefix⟩)
      exact ⟨hfrontend, hapi⟩
  | applications hfrom =>
      refine { h with slugs := fun a ha => ?_, sets := fun a ha => ?_ }
      · exact (hfrom a ha).slug (fun v s => Request.isFreeLabel_of_freeLabel) h.slugs
      · exact (hfrom a ha).forall_sets wellNamed_requestedSet h.sets
  | provider _ hswitch =>
      rw [(switchProvider_eq_ok hswitch).2]
      exact { h with }

theorem stable_wellNamed (settings : Settings) : Stable settings WellNamed where
  changes := by
    intro r r' hchanges h
    rw [refreshPatterns_eq]
    exact { h.changes hchanges with }
  stored := by
    intro r h
    refine ⟨h.baseDomain, ?_, ?_, ?_, ?_⟩
    all_goals simp only [Store.advance, stored, List.forall_mem_map]
    · exact fun e he => ⟨(h.environments e he).frontendPrefix, (h.environments e he).apiPrefix⟩
    · exact h.slugs
    · intro a ha
      simp only [Application.stored, List.forall_mem_map, EndpointSet.WellNamed, EndpointSet.stored]
      exact h.sets a ha
    · exact h.hosts

end Registry

end EdgeProxy
