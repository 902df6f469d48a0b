import EdgeProxy.Change.Provider
import EdgeProxy.Proofs.Change.Keeping
import EdgeProxy.Proofs.Registry.WellFormed
import EdgeProxy.Route.Config
/-!
The patterns that wildcard certificates are asked for: which they are, when the stored ones are those, and
what the compiled configuration asks for then.
-/

namespace EdgeProxy

theorem mem_sortTexts {l : List String} {s : String} : s ∈ sortTexts l ↔ s ∈ l := by
  rw [sortTexts, List.mem_mergeSort]

namespace Registry

variable {r : Registry}

/-- The patterns are those below the base domain and below the labels of every environment. -/
theorem mem_wildcardPatterns {p : String} :
    p ∈ r.wildcardPatterns ↔ r.baseDomain ≠ "" ∧
      (p = "*." ++ r.baseDomain ∨
        ∃ e ∈ r.environments, ∃ labels ∈ [e.frontendPrefix, e.apiPrefix],
          labels ≠ "" ∧ p = wildcardBelow labels r.baseDomain) := by
  rw [wildcardPatterns]
  split
  next hbase =>
    have hempty : r.baseDomain = "" := by simpa using hbase
    simp [hempty]
  next hbase =>
    have hne : r.baseDomain ≠ "" := by simpa using hbase
    simp only [mem_sortTexts, List.mem_eraseDups, List.mem_cons, List.mem_flatMap, List.mem_map,
      List.mem_filter, hne, ne_eq, not_false_eq_true, true_and]
    refine or_congr_right (exists_congr fun e => and_congr_right fun _ => exists_congr fun labels => ?_)
    simp [and_assoc, eq_comm (a := p)]

theorem wildcardPatterns_ne_nil (h : r.baseDomain ≠ "") : r.wildcardPatterns ≠ [] :=
  List.ne_nil_of_mem (mem_wildcardPatterns.mpr ⟨h, .inl rfl⟩)

theorem wildcardPatterns_congr {r' : Registry} (hbase : r'.baseDomain = r.baseDomain)
    (henvironments : r'.environments = r.environments) : r'.wildcardPatterns = r.wildcardPatterns := by
  rw [wildcardPatterns, wildcardPatterns, hbase, henvironments]

theorem wildcardPatterns_stored (r : Registry) : r.stored.wildcardPatterns = r.wildcardPatterns := by
  simp [wildcardPatterns, stored, List.flatMap_map, Environment.stored]

/-- The stored patterns are those of the registry if the provider is on, and none if it is off; it is on
only below a base domain. -/
structure PatternsCurrent (r : Registry) : Prop where
  domains : r.provider.domains = if r.provider.enabled then r.wildcardPatterns else []
  base : r.provider.enabled = true → r.baseDomain ≠ ""

theorem refreshPatterns_eq (r : Registry) :
    r.refreshPatterns = { r with provider := { r.provider with
      domains := if r.provider.enabled then r.wildcardPatterns else r.provider.domains } } := by
  rw [refreshPatterns]
  split
  · rfl
  · rfl

/-- Bringing the patterns up to date makes them current if they are none while the provider is off. -/
theorem patternsCurrent_refreshPatterns (hoff : r.provider.enabled = false → r.provider.domains = [])
    (hbase : r.provider.enabled = true → r.baseDomain ≠ "") : r.refreshPatterns.PatternsCurrent := by
  rw [refreshPatterns_eq]
  refine ⟨?_, hbase⟩
  cases hon : r.provider.enabled with
  | false => simpa [hon] using hoff hon
  | true =>
      rw [if_pos rfl, if_pos rfl]
      exact (wildcardPatterns_congr rfl rfl).symm

theorem patternsCurrent_initial : initial.PatternsCurrent := ⟨rfl, fun h => nomatch h⟩

theorem PatternsCurrent.off (h : r.PatternsCurrent) (hoff : r.provider.enabled = false) :
    r.provider.domains = [] := by
  rw [h.domains, hoff, if_neg Bool.false_ne_true]

/-- The configuration asks for wildcard certificates exactly if the provider is on and there is a token,
and then for the patterns of the registry. -/
theorem PatternsCurrent.tls (h : r.PatternsCurrent) (settings : Settings) :
    ((r.compile settings).tls.isWildcard = true ↔
        r.provider.enabled = true ∧ settings.hasToken = true) ∧
      ((r.compile settings).tls.isWildcard = true →
        (r.compile settings).tls = .wildcard r.wildcardPatterns settings.tokenVariable) := by
  rw [compile, tlsPolicy]
  cases hon : r.provider.enabled with
  | false => simp [TlsPolicy.isWildcard]
  | true =>
      have hne : r.wildcardPatterns ≠ [] := wildcardPatterns_ne_nil (h.base hon)
      have hrequested : r.requestedPatterns = r.wildcardPatterns := by
        rw [requestedPatterns, h.domains, hon]
        simp
      cases htoken : settings.hasToken with
      | false => simp [TlsPolicy.isWildcard]
      | true => simp [hrequested, hne, TlsPolicy.isWildcard]

end Registry

end EdgeProxy
