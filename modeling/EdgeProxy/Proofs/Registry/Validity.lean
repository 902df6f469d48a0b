import EdgeProxy.Proofs.Keys
import EdgeProxy.Proofs.Registry.Outline
import Mathlib.Data.List.Nodup
import Mathlib.Data.List.Perm.Basic
/-!
When a registry is valid.  The report of violations is empty exactly if identifiers of environments
and slugs of applications are unique, at most one environment is the default, every host has exactly
one kind of name, and no two claims of a name are equal ignoring case.
-/

namespace EdgeProxy

theorem repeated_eq_nil_iff {l : List String} : repeated l = [] ↔ l.Nodup := by
  have hsort : repeated l = [] ↔ l.eraseDups.filter (fun s => 1 < l.count s) = [] := by
    rw [repeated, sortTexts, ← List.length_eq_zero_iff, List.length_mergeSort,
      List.length_eq_zero_iff]
  rw [hsort, List.filter_eq_nil_iff, List.nodup_iff_count_le_one]
  constructor
  · intro h s
    by_cases hs : s ∈ l
    · have hcount := h s (List.mem_eraseDups.mpr hs)
      simpa using hcount
    · rw [List.count_eq_zero_of_not_mem hs]
      exact Nat.zero_le 1
  · intro h s _
    have hcount := h s
    simpa using hcount

namespace Registry

theorem lookup_addClaim (names : List (String × List String)) (claim : String × String)
    (name : String) :
    (addClaim names claim).lookup name =
      if name = claim.1 then some ((names.lookup name).getD [] ++ [claim.2])
      else names.lookup name := by
  induction names with
  | nil =>
      by_cases hname : name = claim.1
      · simp [addClaim, hname]
      · simp [addClaim, hname, List.lookup_cons, beq_false_of_ne hname]
  | cons p rest ih =>
      obtain ⟨k, rules⟩ := p
      obtain ⟨claimed, rule⟩ := claim
      by_cases hk : k = claimed
      · subst hk
        by_cases hname : name = k
        · subst hname
          simp [addClaim]
        · simp [addClaim, hname, List.lookup_cons, beq_false_of_ne hname]
      · by_cases hname : name = k
        · subst hname
          simp [addClaim, hk]
        · simpa [addClaim, hk, List.lookup_cons, beq_false_of_ne hname] using ih

theorem nodup_keys_addClaim {names : List (String × List String)}
    (h : (names.map Prod.fst).Nodup) (claim : String × String) :
    ((addClaim names claim).map Prod.fst).Nodup ∧
      ∀ name ∈ (addClaim names claim).map Prod.fst, name = claim.1 ∨ name ∈ names.map Prod.fst := by
  induction names with
  | nil => simp [addClaim]
  | cons p rest ih =>
      obtain ⟨k, rules⟩ := p
      rw [List.map_cons, List.nodup_cons] at h
      by_cases hk : k = claim.1
      · simp only [addClaim, hk, beq_self_eq_true, ↓reduceIte, List.map_cons, List.nodup_cons]
        exact ⟨⟨hk ▸ h.1, h.2⟩, fun name hname => Or.inr hname⟩
      · obtain ⟨hnodup, hmem⟩ := ih h.2
        simp only [addClaim, beq_iff_eq, hk, ↓reduceIte, List.map_cons, List.nodup_cons,
          List.mem_cons]
        refine ⟨⟨?_, hnodup⟩, ?_⟩
        · intro hin
          rcases hmem k hin with heq | hrest
          · exact hk heq
          · exact h.1 hrest
        · intro name hname
          rcases hname with rfl | hin
          · exact Or.inr (Or.inl rfl)
          · exact (hmem name hin).imp_right Or.inr

/-- The claimants of a name are the rules of the claims of it, in their order. -/
theorem lookup_foldl_addClaim (claims : List (String × String)) (names : List (String × List String))
    (name : String) :
    ((claims.foldl addClaim names).lookup name).getD [] =
      (names.lookup name).getD [] ++ (claims.filter (·.1 == name)).map Prod.snd := by
  induction claims generalizing names with
  | nil => simp
  | cons claim rest ih =>
      rw [List.foldl_cons, ih, lookup_addClaim]
      by_cases hname : name = claim.1
      · simp [hname]
      · have hne : ¬ claim.1 = name := fun h => hname h.symm
        simp [hname, hne]

theorem nodup_keys_foldl_addClaim (claims : List (String × String))
    {names : List (String × List String)} (h : (names.map Prod.fst).Nodup) :
    ((claims.foldl addClaim names).map Prod.fst).Nodup := by
  induction claims generalizing names with
  | nil => exact h
  | cons claim rest ih => exact ih (nodup_keys_addClaim h claim).1

theorem lookup_claimants (r : Registry) (name : String) :
    (r.claimants.lookup name).getD [] = (r.claims.filter (·.1 == name)).map Prod.snd := by
  rw [claimants, lookup_foldl_addClaim, List.lookup_nil, Option.getD_none, List.nil_append]

theorem length_lookup_claimants (r : Registry) (name : String) :
    ((r.claimants.lookup name).getD []).length = (r.claims.map Prod.fst).count name := by
  rw [lookup_claimants, List.length_map, ← List.countP_eq_length_filter, List.count, List.countP_map]
  rfl

theorem nodup_keys_claimants (r : Registry) : (r.claimants.map Prod.fst).Nodup :=
  nodup_keys_foldl_addClaim r.claims List.nodup_nil

/-- A name that is claimed has as many claimants as there are claims of it. -/
theorem length_of_mem_claimants {r : Registry} {name : String} {rules : List String}
    (h : (name, rules) ∈ r.claimants) : rules.length = (r.claims.map Prod.fst).count name := by
  have hcount := r.length_lookup_claimants name
  rw [lookup_of_mem_of_nodup r.nodup_keys_claimants h] at hcount
  exact hcount

/-- What is reported as a collision is a name with the number of its claims. -/
theorem length_of_mem_collisions {r : Registry} {name : String} {rules : List String}
    (h : (name, rules) ∈ r.collisions) :
    1 < rules.length ∧ rules.length = (r.claims.map Prod.fst).count name := by
  obtain ⟨hmem, hseveral⟩ := List.mem_filter.mp h
  exact ⟨by simpa using hseveral, length_of_mem_claimants hmem⟩

/-- No name is claimed twice exactly if the claimed names are distinct. -/
theorem collisions_eq_nil_iff (r : Registry) :
    r.collisions = [] ↔ (r.claims.map Prod.fst).Nodup := by
  rw [collisions, List.filter_eq_nil_iff, List.nodup_iff_count_le_one]
  constructor
  · intro h name
    rw [← length_lookup_claimants]
    cases hlookup : r.claimants.lookup name with
    | none => simp
    | some rules =>
        have hmem : (name, rules) ∈ r.claimants := by
          obtain ⟨before, after, heq, -⟩ := List.lookup_eq_some_iff.mp hlookup
          rw [heq]
          simp
        have hlength := h (name, rules) hmem
        simpa using hlength
  · rintro h ⟨name, rules⟩ hmem
    have hlength := h name
    rw [← length_of_mem_claimants hmem] at hlength
    simpa using hlength

/-- What a valid registry satisfies. -/
structure Valid (r : Registry) : Prop where
  environments : (r.environments.map (·.id)).Nodup
  defaults : (r.environments.filter (·.isDefault)).length ≤ 1
  slugs : (r.applications.map (·.slug)).Nodup
  hosts : ∀ h ∈ r.hosts, isGiven h.subdomain ≠ isGiven h.customDomain
  names : (r.claims.map Prod.fst).Nodup

/-- No violation is reported exactly if the registry is valid. -/
theorem violations_eq_nil_iff (r : Registry) : r.violations = [] ↔ r.Valid := by
  have henvironments : r.environmentViolations = [] ↔ (r.environments.map (·.id)).Nodup := by
    rw [environmentViolations, ← repeated_eq_nil_iff]
    split
    next hnil => simp [hnil]
    next hne => simpa using hne
  have hdefaults : r.defaultViolations = [] ↔
      (r.environments.filter (·.isDefault)).length ≤ 1 := by
    simp [defaultViolations]
  have hslugs : r.slugViolations = [] ↔ (r.applications.map (·.slug)).Nodup := by
    rw [slugViolations, ← repeated_eq_nil_iff]
    split
    next hnil => simp [hnil]
    next hne => simpa using hne
  have hhosts : r.hostViolations = [] ↔
      ∀ h ∈ r.hosts, isGiven h.subdomain ≠ isGiven h.customDomain := by
    simp [hostViolations, List.filter_eq_nil_iff]
  have hdomains : r.domainViolations = [] ↔ (r.claims.map Prod.fst).Nodup := by
    rw [← collisions_eq_nil_iff, domainViolations, List.map_eq_nil_iff, ← List.length_eq_zero_iff,
      List.length_mergeSort, List.length_eq_zero_iff]
  simp only [violations, List.append_eq_nil_iff, henvironments, hdefaults, hslugs, hhosts, hdomains]
  constructor
  · rintro ⟨⟨⟨⟨h, h'⟩, h''⟩, h'''⟩, h''''⟩
    exact ⟨h, h', h'', h''', h''''⟩
  · intro h
    exact ⟨⟨⟨⟨h.environments, h.defaults⟩, h.slugs⟩, h.hosts⟩, h.names⟩

/-- Whether a registry is valid is seen from its outline. -/
theorem Valid.of_outline_eq {r r' : Registry} (h : r.Valid) (heq : r'.outline = r.outline) :
    r'.Valid := by
  have henvironments := congrArg Outline.environments heq
  have happlications := congrArg Outline.applications heq
  have hhosts := congrArg Outline.hosts heq
  simp only [outline] at henvironments happlications hhosts
  refine ⟨?_, ?_, ?_, ?_, ?_⟩
  · have hids := congrArg (List.map Environment.id) henvironments
    simp only [List.map_map] at hids
    exact hids ▸ h.environments
  · have hdefaults := congrArg (fun l => (l.filter Environment.isDefault).length) henvironments
    simp only [List.filter_map, List.length_map] at hdefaults
    exact hdefaults ▸ h.defaults
  · have hslugs := congrArg (List.map Application.Outline.slug) happlications
    simp only [List.map_map] at hslugs
    exact hslugs ▸ h.slugs
  · intro host hhost
    have hmem : host.outline ∈ r.hosts.map Host.outline := by
      rw [← hhosts]
      exact List.mem_map_of_mem hhost
    obtain ⟨host', hhost', houtline⟩ := List.mem_map.mp hmem
    have hgiven := h.hosts host' hhost'
    have hsubdomain := congrArg Host.Outline.subdomain houtline
    have hcustom := congrArg Host.Outline.customDomain houtline
    simp only [Host.outline] at hsubdomain hcustom
    rwa [hsubdomain, hcustom] at hgiven
  · rw [names_claims, heq, ← names_claims]
    exact h.names

end Registry

end EdgeProxy
