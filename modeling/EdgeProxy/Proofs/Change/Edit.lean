import EdgeProxy.Operation.Run
import EdgeProxy.Proofs.Change.Keeping
/-!
Edits of the registry preserve what its records keep, its layout and its version: every operation that
changes the registry does so by such an edit.  So a well-formed registry stays well formed.
-/

namespace EdgeProxy

/-- What a change preserves: whatever is required of what the records keep, if keeping nothing meets it;
the layout and the version; and what is kept beside all records. -/
structure Registry.Preserves (r r' : Registry) : Prop where
  keeping : ∀ Q : Requirement, (∀ names, Q names []) → r.Keeping Q → r'.Keeping Q
  schemaVersion : r'.schemaVersion = r.schemaVersion
  version : r'.version = r.version
  extra : r'.extra = r.extra

/-- A registry that a change has led to: well formed, with the version that it had. -/
structure Registry.Keeps (r r' : Registry) : Prop where
  wellFormed : r'.WellFormed
  version : r'.version = r.version

namespace Registry

theorem Preserves.refl (r : Registry) : r.Preserves r := ⟨fun _ _ h => h, rfl, rfl, rfl⟩

theorem Preserves.trans {a b c : Registry} (h : a.Preserves b) (h' : b.Preserves c) :
    a.Preserves c :=
  ⟨fun Q hQ hkeeping => h'.keeping Q hQ (h.keeping Q hQ hkeeping),
    h'.schemaVersion.trans h.schemaVersion, h'.version.trans h.version, h'.extra.trans h.extra⟩

variable {r r' : Registry}

/-- A well-formed registry stays well formed. -/
theorem Preserves.keeps (h : r.Preserves r') (hwell : r.WellFormed) : r.Keeps r' := by
  obtain ⟨hschema, hkeeping, hdeprecated⟩ := wellFormed_iff.mp hwell
  refine ⟨wellFormed_iff.mpr ⟨?_, h.keeping Beside beside_nil hkeeping, ?_⟩, h.version⟩
  · rw [h.schemaVersion, hschema]
  · rw [h.extra]
    exact hdeprecated

theorem preserves_provider {p : WildcardProvider} (hp : p.extra = r.provider.extra) :
    r.Preserves { r with provider := p } := by
  refine ⟨?_, rfl, rfl, rfl⟩
  intro Q hQ h
  refine ⟨h.environments, h.applications, h.hosts, ?_, h.extra⟩
  rw [WildcardProvider.Keeping, hp]
  exact h.provider

theorem preserves_hosts {hosts : List Host}
    (hhosts : ∀ Q : Requirement, (∀ names, Q names []) → r.Keeping Q → ∀ a ∈ hosts, a.Keeping Q) :
    r.Preserves { r with hosts := hosts } :=
  ⟨fun Q hQ h => ⟨h.environments, h.applications, hhosts Q hQ h, h.provider, h.extra⟩,
    rfl, rfl, rfl⟩

theorem preserves_environments {environments : List Environment}
    (henvironments : ∀ Q : Requirement, (∀ names, Q names []) → r.Keeping Q →
      ∀ e ∈ environments, e.Keeping Q) :
    r.Preserves { r with environments := environments } :=
  ⟨fun Q hQ h => ⟨henvironments Q hQ h, h.applications, h.hosts, h.provider, h.extra⟩,
    rfl, rfl, rfl⟩

theorem preserves_applications {applications : List Application}
    (happlications : ∀ Q : Requirement, (∀ names, Q names []) → r.Keeping Q →
      ∀ a ∈ applications, a.Keeping Q) :
    r.Preserves { r with applications := applications } :=
  ⟨fun Q hQ h => ⟨h.environments, happlications Q hQ h, h.hosts, h.provider, h.extra⟩,
    rfl, rfl, rfl⟩

theorem preserves_setBaseDomain (r : Registry) (domain : String) :
    r.Preserves (r.setBaseDomain domain) :=
  ⟨fun _ _ h => ⟨h.environments, h.applications, h.hosts, h.provider, h.extra⟩, rfl, rfl, rfl⟩

theorem preserves_refreshPatterns (r : Registry) : r.Preserves r.refreshPatterns := by
  rw [refreshPatterns]
  split
  · exact preserves_provider rfl
  · exact .refl r

theorem preserves_switchProvider {enabled : Bool} (hswitch : r.switchProvider enabled = .ok r') :
    r.Preserves r' := by
  obtain ⟨-, rfl⟩ := switchProvider_eq_ok hswitch
  exact preserves_provider rfl

theorem preserves_addHost {a : Host} (ha : a.extra = []) : r.Preserves (r.addHost a) := by
  apply preserves_hosts
  intro Q hQ h b hb
  rcases List.mem_append.mp hb with hb | hb
  · exact h.hosts b hb
  · rw [List.mem_singleton.mp hb, Host.Keeping, ha]
    exact hQ _

theorem preserves_updateHost {id : String} {updates : Json} {a : Host}
    (hupdate : r.updateHost id updates = .ok (r', a)) : r.Preserves r' := by
  obtain ⟨present, hpresent, hchanged, rfl⟩ := updateHost_eq_ok hupdate
  apply preserves_hosts
  intro Q hQ h b hb
  rcases mem_replaceFirst hb with rfl | hb
  · have hkeeping := h.hosts present (List.mem_of_find?_eq_some hpresent)
    exact (Host.remains_update hchanged).keeping hkeeping
  · exact h.hosts b hb

theorem preserves_deleteHost {id : String} {a : Host}
    (hdelete : r.deleteHost id = .ok (r', a)) : r.Preserves r' := by
  obtain ⟨-, rfl⟩ := deleteHost_eq_ok hdelete
  exact preserves_hosts fun Q hQ h b hb => h.hosts b (List.mem_of_mem_eraseP hb)

theorem preserves_addEnvironment {e : Environment} (he : e.extra = [])
    (hadd : r.addEnvironment e = .ok r') : r.Preserves r' := by
  obtain rfl := addEnvironment_eq_ok hadd
  apply preserves_environments
  intro Q hQ h b hb
  rcases List.mem_append.mp hb with hb | hb
  · exact h.environments b hb
  · rw [List.mem_singleton.mp hb, Environment.Keeping, he]
    exact hQ _

theorem preserves_clearDefaults (r : Registry) : r.Preserves r.clearDefaults := by
  apply preserves_environments
  intro Q hQ h e he
  obtain ⟨e', he', rfl⟩ := List.mem_map.mp he
  exact h.environments e' he'

/-- An environment that keeps what one of the registry kept can be put in a place. -/
theorem Preserves.putEnvironment (h : r.Preserves r') {id : String} {present e : Environment}
    (hmem : present ∈ r.environments) (he : e.extra = present.extra) :
    r.Preserves (r'.putEnvironment id e) := by
  refine ⟨?_, h.schemaVersion, h.version, h.extra⟩
  intro Q hQ hkeeping
  have hkeeping' := h.keeping Q hQ hkeeping
  refine ⟨?_, hkeeping'.applications, hkeeping'.hosts, hkeeping'.provider, hkeeping'.extra⟩
  intro b hb
  rcases mem_replaceFirst hb with rfl | hb
  · rw [Environment.Keeping, he]
    exact hkeeping.environments present hmem
  · exact hkeeping'.environments b hb

theorem preserves_updateEnvironment {id : String} {updates : Json} {e : Environment}
    (hupdate : r.updateEnvironment id updates = .ok (r', e)) : r.Preserves r' := by
  obtain ⟨present, changed, hpresent, hchanged, hput⟩ := updateEnvironment_eq_ok hupdate
  have hmem := List.mem_of_find?_eq_some hpresent
  have hextra := (Environment.remains_update hchanged).extra
  rcases hput with ⟨-, rfl⟩ | ⟨v, -, rfl⟩
  · exact (Preserves.refl r).putEnvironment hmem hextra
  · split
    · exact (preserves_clearDefaults r).putEnvironment hmem hextra
    · exact (Preserves.refl r).putEnvironment hmem hextra

theorem preserves_deleteEnvironment {id : String} {e : Environment}
    (hdelete : r.deleteEnvironment id = .ok (r', e)) : r.Preserves r' := by
  obtain ⟨-, -, rfl⟩ := deleteEnvironment_eq_ok hdelete
  exact preserves_environments fun Q hQ h b hb => h.environments b (List.mem_of_mem_eraseP hb)

/-- The endpoints of a new application are those that its payload gives. -/
theorem requestedSets_of_newEndpoints {draft : Application.Draft}
    {sets : List (String × EndpointSet)} (hnew : r.newEndpoints draft = .ok sets) :
    Application.requestedSets r.environments [] draft.endpoints = .ok sets := by
  rw [newEndpoints] at hnew
  split at hnew
  · exact absurd hnew not_reject
  · simp only [bind_eq_ok] at hnew
    obtain ⟨read, hread, heq⟩ := hnew
    split at heq
    · exact absurd heq not_reject
    · simp only [bind_eq_ok] at heq
      obtain ⟨name, -, heq⟩ := heq
      cases heq
      exact hread

theorem keepingSets_newEndpoints {Q : Requirement} (hQ : ∀ names, Q names [])
    {draft : Application.Draft} {sets : List (String × EndpointSet)}
    (hnew : r.newEndpoints draft = .ok sets) : Application.KeepingSets Q sets := by
  have hnone : Application.KeepingSets Q [] := ⟨by simp, by simp⟩
  exact Application.requestedSets_keeping hQ hnone (requestedSets_of_newEndpoints hnew)

theorem preserves_addApplication {a : Application}
    (ha : ∀ Q : Requirement, (∀ names, Q names []) → a.Keeping Q) :
    r.Preserves (r.addApplication a) := by
  apply preserves_applications
  intro Q hQ h b hb
  rcases List.mem_append.mp hb with hb | hb
  · exact h.applications b hb
  · rw [List.mem_singleton.mp hb]
    exact ha Q hQ

section Application

variable {Q : Requirement} {a b : Application}

theorem keeping_renamed {v : Json} (h : a.Keeping Q) : (renamed v a).Keeping Q := by
  obtain ⟨name, heq⟩ := renamed_eq v a
  rw [heq]
  exact ⟨h.environments, h.endpoints, h.extra⟩

theorem keeping_reslugged {id : String} {v : Json} (h : a.Keeping Q)
    (hslug : r.reslugged id v a = .ok b) : b.Keeping Q := by
  obtain ⟨slug, rfl, -⟩ := reslugged_eq_ok hslug
  exact ⟨h.environments, h.endpoints, h.extra⟩

theorem keeping_switched {v : Json} (h : a.Keeping Q) : (switched v a).Keeping Q := by
  obtain ⟨enabled, heq⟩ := switched_eq v a
  rw [heq]
  exact ⟨h.environments, h.endpoints, h.extra⟩

theorem keeping_rerouted (hQ : ∀ names, Q names []) {v : Json} (h : a.Keeping Q)
    (hroute : r.rerouted v a = .ok b) : b.Keeping Q := by
  obtain ⟨sets, rfl, rfl | ⟨fields, -, hsets⟩⟩ := rerouted_eq_ok hroute
  · exact ⟨h.environments, h.endpoints, h.extra⟩
  · have hkeeping := Application.updateSets_keeping hQ ⟨h.environments, h.endpoints⟩ hsets
    exact ⟨hkeeping.nodup, hkeeping.sets, h.extra⟩

end Application

theorem preserves_updateApplication {id : String} {updates : Json} {a : Application}
    (hupdate : r.updateApplication id updates = .ok (r', a)) : r.Preserves r' := by
  obtain ⟨present, withSlug, name, slug, enabled, endpoints, hpresent, -, -, -, -, hslug, hroutes,
    rfl⟩ := updateApplication_eq_ok hupdate
  apply preserves_applications
  intro Q hQ h b hb
  rcases mem_replaceFirst hb with rfl | hb
  · have hkeeping := h.applications present (List.mem_of_find?_eq_some hpresent)
    have hwithSlug := keeping_reslugged (keeping_renamed hkeeping) hslug
    exact keeping_rerouted hQ (keeping_switched hwithSlug) hroutes
  · exact h.applications b hb

theorem preserves_deleteApplication {id : String} {a : Application}
    (hdelete : r.deleteApplication id = .ok (r', a)) : r.Preserves r' := by
  obtain ⟨-, rfl⟩ := deleteApplication_eq_ok hdelete
  exact preserves_applications fun Q hQ h b hb => h.applications b (List.mem_of_mem_eraseP hb)

end Registry

/-- An edit that preserves what the records keep, the layout and the version. -/
def Edit.Preserving (edit : Edit) : Prop :=
  ∀ ⦃supply left : Supply⦄ ⦃r r' : Registry⦄ ⦃subject : Subject⦄,
    edit supply r = (.ok (r', subject), left) → r.Preserves r'

/-- An edit that keeps registries well formed and leaves the version alone. -/
def Edit.Sound (edit : Edit) : Prop :=
  ∀ ⦃supply left : Supply⦄ ⦃r r' : Registry⦄ ⦃subject : Subject⦄, r.WellFormed →
    edit supply r = (.ok (r', subject), left) → r.Keeps r'

theorem Edit.Preserving.sound {edit : Edit} (h : edit.Preserving) : edit.Sound :=
  fun _ _ _ _ _ hwell hedit => (h hedit).keeps hwell

theorem Edit.preserving_ofChange {change : Registry → Requested (Registry × Subject)}
    (h : ∀ r r' subject, change r = .ok (r', subject) → r.Preserves r') :
    (Edit.ofChange change).Preserving := by
  intro supply left r r' subject hedit
  cases hedit' : change r with
  | error e => simp [Edit.ofChange, hedit'] at hedit
  | ok result =>
      simp only [Edit.ofChange, hedit', Prod.mk.injEq, Except.ok.injEq] at hedit
      obtain ⟨rfl, -⟩ := hedit
      exact h r r' subject hedit'

theorem Edit.exists_of_ofMap {α : Type} {change : Registry → Requested α}
    {f : α → Registry × Subject} {supply left : Supply} {r r' : Registry} {subject : Subject}
    (h : Edit.ofChange (fun r => (change r).map f) supply r = (.ok (r', subject), left)) :
    ∃ a, change r = .ok a ∧ (f a).1 = r' := by
  simp only [Edit.ofChange, Prod.mk.injEq, map_eq_ok] at h
  obtain ⟨⟨a, ha, heq⟩, -⟩ := h
  exact ⟨a, ha, by rw [heq]⟩

theorem Edit.preserving_ofMap {α : Type} {change : Registry → Requested α}
    {f : α → Registry × Subject} (h : ∀ r a, change r = .ok a → r.Preserves (f a).1) :
    (Edit.ofChange fun r => (change r).map f).Preserving := by
  apply Edit.preserving_ofChange
  intro r r' subject hchange
  obtain ⟨a, ha, heq⟩ := map_eq_ok.mp hchange
  have hpreserves := h r a ha
  rwa [heq] at hpreserves

/-- What is saved is what the edit has led to, with its patterns up to date, if it is valid. -/
theorem changed_eq_ok {edit : Edit} {supply left : Supply} {r r' : Registry} {subject : Subject} :
    changed edit supply r = (.ok (r', subject), left) ↔
      ∃ edited, edit supply r = (.ok (edited, subject), left) ∧ r' = edited.refreshPatterns ∧
        r'.violations = [] := by
  rw [changed]
  split
  next e left' hedit =>
    constructor
    · intro h
      cases h
    · rintro ⟨edited, h, -⟩
      rw [hedit] at h
      cases h
  next edited subject' left' hedit =>
    rw [Registry.checked]
    cases hviolations : edited.refreshPatterns.violations with
    | nil =>
        constructor
        · intro h
          cases h
          exact ⟨edited, hedit, rfl, hviolations⟩
        · rintro ⟨edited', h, rfl, -⟩
          rw [hedit] at h
          cases h
          rfl
    | cons v rest =>
        constructor
        · intro h
          cases h
        · rintro ⟨edited', h, rfl, hnone⟩
          rw [hedit] at h
          cases h
          rw [hviolations] at hnone
          cases hnone

/-- What is saved preserves what the edit preserves. -/
theorem changed_preserves {edit : Edit} (hedit : edit.Preserving) {supply left : Supply}
    {r r' : Registry} {subject : Subject}
    (h : changed edit supply r = (.ok (r', subject), left)) : r.Preserves r' := by
  obtain ⟨edited, hresult, rfl, -⟩ := changed_eq_ok.mp h
  exact (hedit hresult).trans (Registry.preserves_refreshPatterns edited)

/-- What is saved is a valid registry that the edit has led to. -/
theorem changed_ok {edit : Edit} (hedit : edit.Sound) {supply left : Supply} {r r' : Registry}
    {subject : Subject} (hwell : r.WellFormed)
    (h : changed edit supply r = (.ok (r', subject), left)) :
    r.Keeps r' ∧ r'.violations = [] := by
  obtain ⟨edited, hresult, rfl, hviolations⟩ := changed_eq_ok.mp h
  have hkeeps := hedit hwell hresult
  have hrefresh := (Registry.preserves_refreshPatterns edited).keeps hkeeps.wellFormed
  exact ⟨⟨hrefresh.wellFormed, hrefresh.version.trans hkeeps.version⟩, hviolations⟩

end EdgeProxy
