import EdgeProxy.Proofs.Operation.RuleIds
import EdgeProxy.Proofs.Operation.Stable
import EdgeProxy.Proofs.Registry.Patterns
import EdgeProxy.Proofs.Request.Names
/-!
Stored patterns never go stale.  Whatever operations are run from where nothing is stored, the stored
patterns are those of the base domain and the environments that are stored with them, and the provider is on
only with a base domain and a token; so wildcard certificates are asked for exactly while it is on.
-/

namespace EdgeProxy

/-- Switching the provider on takes a token. -/
theorem Settings.hasToken_of_providerSwitch {settings : Settings} {data : Json}
    (h : settings.providerSwitch data = .ok true) : settings.hasToken = true := by
  simp only [providerSwitch, bind_eq_ok] at h
  obtain ⟨given, -, h⟩ := h
  split at h
  next enabled =>
    split at h
    · exact absurd h not_reject
    next htoken =>
      cases h
      simpa using htoken
  · exact absurd h not_reject

namespace Registry

/-- The stored patterns are current after every operation. -/
theorem stable_patternsCurrent (settings : Settings) : Stable settings PatternsCurrent where
  changes := by
    intro r r' hchanges h
    cases hchanges with
    | baseDomain hdomain =>
        have hne := Hostname.ne_empty_of_isDomainText (Request.isDomainText_of_baseDomain hdomain)
        exact patternsCurrent_refreshPatterns h.off fun _ => hne
    | hosts | environments | applications => exact patternsCurrent_refreshPatterns h.off h.base
    | @provider _ enabled _ _ hswitch =>
        obtain ⟨hbase, rfl⟩ := switchProvider_eq_ok hswitch
        apply patternsCurrent_refreshPatterns _ hbase
        rintro rfl
        rfl
  stored := by
    intro r h
    refine ⟨?_, h.base⟩
    rw [wildcardPatterns_stored]
    exact h.domains

/-- The provider is on only if there is a token. -/
def HasToken (settings : Settings) (r : Registry) : Prop :=
  r.provider.enabled = true → settings.hasToken = true

theorem stable_hasToken (settings : Settings) : Stable settings (HasToken settings) where
  changes := by
    intro r r' hchanges h
    rw [refreshPatterns_eq]
    cases hchanges with
    | baseDomain | hosts | environments | applications => exact h
    | provider hrequest hswitch =>
        obtain ⟨-, rfl⟩ := switchProvider_eq_ok hswitch
        rintro rfl
        exact Settings.hasToken_of_providerSwitch hrequest
  stored h := h

end Registry

namespace World

variable {settings : Settings} {w : World}

/-- After any history that begins where nothing is stored, the stored patterns are current, the provider
is on only with a base domain and a token, and wildcard certificates are asked for, by the current patterns,
exactly while it is on. -/
theorem stored_patterns_are_current (hnone : w.files.content? settings.registryPath = none)
    (steps : List (Surroundings × Operation)) :
    ∃ r : Registry, (∀ supply, Store.load supply (w.history settings steps).files
        settings.registryPath = (.ok r, supply)) ∧
      r.provider.domains = (if r.provider.enabled then r.wildcardPatterns else []) ∧
      (r.provider.enabled = true → r.baseDomain ≠ "" ∧ settings.hasToken = true) ∧
      ((r.compile settings).tls.isWildcard = true ↔ r.provider.enabled = true) ∧
      (r.provider.enabled = true →
        (r.compile settings).tls = .wildcard r.wildcardPatterns settings.tokenVariable) := by
  have hstable := (Registry.stable_patternsCurrent settings).and (Registry.stable_hasToken settings)
  have hinitial : Registry.PatternsCurrent .initial ∧ Registry.HasToken settings .initial :=
    ⟨Registry.patternsCurrent_initial, fun h => nomatch h⟩
  obtain ⟨r, hready, hcurrent, htoken⟩ := holds_history hstable hinitial hnone steps
  obtain ⟨hwildcard, hpolicy⟩ := hcurrent.tls settings
  have hon : (r.compile settings).tls.isWildcard = true ↔ r.provider.enabled = true :=
    ⟨fun h => (hwildcard.mp h).1, fun h => hwildcard.mpr ⟨h, htoken h⟩⟩
  exact ⟨r, hready.load, hcurrent.domains, fun h => ⟨hcurrent.base h, htoken h⟩, hon,
    fun h => hpolicy (hon.mpr h)⟩

/-- A provider token is configured, and the registry is stored right below the root. -/
def tokenSettings : Settings := { Clash.settings with token := some "token" }

/-- A registry is ready, and nothing is stored but it, right below the root. -/
structure OnShelf (r : Registry) (w : World) : Prop where
  ready : w.Ready tokenSettings r
  entries : w.files.entries = [] ∨ ∃ bytes, w.files.entries = [(Clash.shelf, .file bytes)]

/-- A valid change of what is on the shelf is written. -/
theorem OnShelf.saves {op : Operation} {edit : Edit} {r r' : Registry} {subject : Subject}
    {read drawn : Supply} {w : World} (h : OnShelf r w)
    (hedits : op.Edits tokenSettings (w.within offline).supply read edit)
    (hedit : edit read r = (.ok (r', subject), drawn)) (hpatterns : r'.refreshPatterns = r')
    (hvalid : r'.Valid) (hwritable : (Store.advance r').encode.isWritable = true) :
    OnShelf (Store.advance r').stored (op.run tokenSettings (w.within offline)).2 := by
  have hready : (w.within offline).Ready tokenSettings r := h.ready.of_content_eq (content?_within _ _ _)
  obtain ⟨hnext, hentries, -⟩ := Clash.saves_on_shelf rfl hready h.entries rfl hedits hedit hpatterns
    hvalid hwritable
  exact ⟨hnext, .inr hentries⟩

/-- The base domain is set, and then the provider is switched on. -/
def switchedOn : List (Surroundings × Operation) :=
  [(offline, .setBaseDomain (.str "example.org")),
    (offline, .switchProvider (.obj [("enabled", .bool true)]))]

/-- What is stored then, but for the version. -/
def providerOn (version : Int) : Registry :=
  { Clash.registry version [] [] with
    provider := ⟨true, (Clash.registry 1 [] []).wildcardPatterns, []⟩ }

theorem isWritable_providerOn : (providerOn 2).encode.isWritable = true := by
  simp [Registry.encode, Registry.encodeFields, providerOn, Clash.registry, Environment.initial,
    Environment.encode, WildcardProvider.encode, WildcardProvider.encodeFields, kept,
    Json.finiteFields, Json.texts, Json.isWritable_obj, Json.isWritable_arr, Json.isWritable_str,
    Json.isWritable_bool, Json.isWritable_int, Json.writableItems, Json.writableFields,
    Json.writableItems_iff]

theorem onShelf_domain {w : World} (h : OnShelf .initial w) :
    OnShelf (Clash.registry 1 [] [])
      (Operation.run tokenSettings (.setBaseDomain (.str "example.org")) (w.within offline)).2 := by
  have hrequest : Request.baseDomain (.str "example.org") = .ok "example.org" := rfl
  have hedits := @Operation.Edits.setBaseDomain tokenSettings (w.within offline).supply _ _ hrequest
  have hvalid : (Clash.registry 0 [] []).Valid :=
    ⟨by decide, by decide, by decide, by simp [Clash.registry], by decide⟩
  exact h.saves hedits rfl rfl hvalid
    (Clash.isWritable_registry 1 (by decide) [] (Or.inl rfl) [] (Or.inl rfl))

theorem onShelf_provider {w : World} (h : OnShelf (Clash.registry 1 [] []) w) :
    OnShelf (providerOn 2)
      (Operation.run tokenSettings (.switchProvider (.obj [("enabled", .bool true)]))
        (w.within offline)).2 := by
  have hrequest : tokenSettings.providerSwitch (.obj [("enabled", .bool true)]) = .ok true := rfl
  have hedits := @Operation.Edits.switchProvider tokenSettings (w.within offline).supply _ _ hrequest
  have hvalid : (providerOn 1).Valid :=
    ⟨by decide, by decide, by decide, by simp [providerOn, Clash.registry], by decide⟩
  exact h.saves hedits rfl rfl hvalid isWritable_providerOn

theorem onShelf_switchedOn : OnShelf (providerOn 2) (empty.history tokenSettings switchedOn) := by
  rw [switchedOn, history_cons, history_cons, history_nil]
  exact onShelf_provider (onShelf_domain ⟨ready_initial rfl, .inl rfl⟩)

/-- After the provider is switched on, wildcard certificates are asked for, by the current patterns. -/
theorem stored_patterns_are_current_switched_on :
    empty.files.content? tokenSettings.registryPath = none ∧
      ∃ r : Registry, (∀ supply, Store.load supply (empty.history tokenSettings switchedOn).files
          tokenSettings.registryPath = (.ok r, supply)) ∧
        r.provider.enabled = true ∧ r.provider.domains = r.wildcardPatterns ∧
        (r.compile tokenSettings).tls = .wildcard r.wildcardPatterns tokenSettings.tokenVariable := by
  have hnone : empty.files.content? tokenSettings.registryPath = none := rfl
  obtain ⟨r, hload, hdomains, -, -, htls⟩ := stored_patterns_are_current hnone switchedOn
  have heq : r = providerOn 2 := by
    have hboth := (hload empty.supply).symm.trans (onShelf_switchedOn.ready.load empty.supply)
    cases hboth
    rfl
  have hon : r.provider.enabled = true := heq ▸ rfl
  exact ⟨hnone, r, hload, hon, by rw [hdomains, if_pos hon], htls hon⟩

end World

end EdgeProxy
