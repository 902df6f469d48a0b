import EdgeProxy.Proofs.Operation.Changes
/-!
What is known of an entity by where it comes from.  A property of one part of an entity that holds of what
was there, and of what a request for that part leads to, holds of every entity that a change puts in place.
Where the property depends on what is asked for, the payload has to be known to give nothing else.
-/

namespace EdgeProxy

namespace Host

variable {P : Host → Prop} {V : Json → Prop} {h h' : Host}

/-- An update preserves what each of its steps preserves. -/
theorem update_keeps {updates : Json} (hupdates : Payload.Within V updates)
    (htarget : ∀ v a b, Payload.given updates "targetHost" = .ok (some v) → P a →
      setTargetHost v a = .ok b → P b)
    (hport : ∀ v a b, P a → setTargetPort v a = .ok b → P b)
    (hflags : ∀ a enabled localOnly requireAuth, P a →
      P { a with enabled := enabled, localOnly := localOnly, requireAuth := requireAuth })
    (hsubdomain : ∀ v a b, V v → P a → setSubdomain v a = .ok b → P b)
    (hcustom : ∀ v a b, V v → P a → setCustomDomain v a = .ok b → P b)
    (hbefore : P h) (hupdate : h.update updates = .ok h') : P h' := by
  simp only [update, bind_eq_ok] at hupdate
  obtain ⟨withHost, hhost, withPort, hports, withEnabled, henabled, withLocal, hlocal, withAuth,
    hauth, withSubdomain, hsubdomains, hcustoms⟩ := hupdate
  have keepHost : P withHost := Payload.whenGiven_keeps htarget hbefore hhost
  have keepPort : P withPort := whenGiven_keeps hport keepHost hports
  have keepEnabled : P withEnabled := whenGiven_keeps
    (fun v a b ha hb => by cases hb; exact hflags a _ _ _ ha) keepPort henabled
  have keepLocal : P withLocal := whenGiven_keeps
    (fun v a b ha hb => by cases hb; exact hflags a _ _ _ ha) keepEnabled hlocal
  have keepAuth : P withAuth := whenGiven_keeps
    (fun v a b ha hb => by cases hb; exact hflags a _ _ _ ha) keepLocal hauth
  exact hupdates.whenGiven hcustom (hupdates.whenGiven hsubdomain keepAuth hsubdomains) hcustoms

theorem forall_presentOnly {v : Json} (h : V v) : ∀ w ∈ presentOnly v, V w := by
  intro w hw
  rw [presentOnly] at hw
  split at hw
  · cases hw
    exact h
  · cases hw

section Name

variable {N : Option String → Option String → Prop}
  (hsubdomain : ∀ v s, V v → Request.subdomain v = .ok s → N (some s) none)
  (hcustom : ∀ v s, V v → Request.customDomain v = .ok s → N none (some s))

include hsubdomain hcustom

theorem name_requestedName {subdomain customDomain : Option Json}
    (hgiven : ∀ v ∈ subdomain, V v) (hgiven' : ∀ v ∈ customDomain, V v)
    {name : Option String × Option String} (h : requestedName subdomain customDomain = .ok name) : N name.1 name.2 := by
  rw [requestedName.eq_def] at h
  split at h
  · exact absurd h not_reject
  · exact absurd h not_reject
  · obtain ⟨s, hs, rfl⟩ := map_eq_ok.mp h
    exact hsubdomain _ s (hgiven _ rfl) hs
  · obtain ⟨s, hs, rfl⟩ := map_eq_ok.mp h
    exact hcustom _ s (hgiven' _ rfl) hs

theorem name_draft {data : Json} (hdata : Payload.Within V data) {d : Draft}
    (h : draft data = .ok d) : N d.subdomain d.customDomain := by
  obtain ⟨_, _, _, _, -, -, -, -, hgiven, hgiven', hname, -⟩ := draft_eq_ok h
  exact name_requestedName hsubdomain hcustom (forall_presentOnly (hdata.field hgiven))
    (forall_presentOnly (hdata.field hgiven')) hname

theorem name_update {updates : Json} (hupdates : Payload.Within V updates)
    (hbefore : N h.subdomain h.customDomain) (hupdate : h.update updates = .ok h') :
    N h'.subdomain h'.customDomain := by
  refine update_keeps (P := fun a => N a.subdomain a.customDomain) hupdates ?_ ?_ ?_ ?_ ?_ hbefore
    hupdate
  · intro v a b _ ha hset
    obtain ⟨s, rfl⟩ := setTargetHost_eq_ok hset
    exact ha
  · intro v a b ha hset
    obtain ⟨p, rfl⟩ := setTargetPort_eq_ok hset
    exact ha
  · exact fun a _ _ _ ha => ha
  · intro v a b hv ha hset
    rcases setSubdomain_eq_ok hset with rfl | ⟨s, hs, rfl⟩
    · exact ha
    · exact hsubdomain v s hv hs
  · intro v a b hv ha hset
    rcases setCustomDomain_eq_ok hset with rfl | ⟨s, hs, rfl⟩
    · exact ha
    · exact hcustom v s hv hs

end Name

/-- The name of a host is one that was there, or was asked for. -/
theorem From.name {N : Option String → Option String → Prop}
    (hsubdomain : ∀ v s, Request.subdomain v = .ok s → N (some s) none)
    (hcustom : ∀ v s, Request.customDomain v = .ok s → N none (some s))
    {hosts : List Host} (hfrom : From hosts h)
    (hkept : ∀ a ∈ hosts, N a.subdomain a.customDomain) : N h.subdomain h.customDomain := by
  have hsubdomain' := fun v s (_ : True) => hsubdomain v s
  have hcustom' := fun v s (_ : True) => hcustom v s
  cases hfrom with
  | kept hmem => exact hkept h hmem
  | made hdraft => exact name_draft hsubdomain' hcustom' (Payload.within_true _) hdraft
  | updated hmem hupdate =>
      exact name_update hsubdomain' hcustom' (Payload.within_true _) (hkept _ hmem) hupdate

end Host

namespace Environment

variable {F A : String → Prop} {V : Json → Prop} {e e' : Environment}

section Labels

variable (hfrontend : ∀ v labels, V v → Request.labels v "prefix" true = .ok labels → F labels)
  (hapi : ∀ v labels, V v → Request.labels v "apiPrefix" false = .ok labels → A labels)

include hfrontend hapi

theorem labels_requested {data : Json} (hdata : Payload.Within V data)
    (h : requested data = .ok e) : F e.frontendPrefix ∧ A e.apiPrefix := by
  obtain ⟨_, _, _, _, _, -, -, hgivenFrontend, hgivenApi, hfrontendLabels, hapiLabels, rfl⟩ :=
    requested_eq_ok h
  exact ⟨hfrontend _ _ (hdata.field hgivenFrontend) hfrontendLabels,
    hapi _ _ (hdata.field hgivenApi) hapiLabels⟩

theorem labels_update {updates : Json} (hupdates : Payload.Within V updates)
    (hbefore : F e.frontendPrefix ∧ A e.apiPrefix) (hupdate : e.update updates = .ok e') :
    F e'.frontendPrefix ∧ A e'.apiPrefix := by
  simp only [update, bind_eq_ok] at hupdate
  obtain ⟨withName, hname, withPrefix, hprefix, hapiPrefix⟩ := hupdate
  have keepName := whenGiven_keeps (P := fun a => F a.frontendPrefix ∧ A a.apiPrefix) ?_ hbefore hname
  have keepPrefix := hupdates.whenGiven (P := fun a => F a.frontendPrefix ∧ A a.apiPrefix) ?_ keepName
    hprefix
  refine hupdates.whenGiven (P := fun a => F a.frontendPrefix ∧ A a.apiPrefix) ?_ keepPrefix hapiPrefix
  · intro v a b hv ha hset
    obtain ⟨labels, hlabels, rfl⟩ := setApiPrefix_eq_ok hset
    exact ⟨ha.1, hapi v labels hv hlabels⟩
  · intro v a b hv ha hset
    obtain ⟨labels, hlabels, rfl⟩ := setFrontendPrefix_eq_ok hset
    exact ⟨hfrontend v labels hv hlabels, ha.2⟩
  · intro v a b ha hset
    obtain ⟨s, rfl⟩ := setName_eq_ok hset
    exact ha

end Labels

/-- The labels of an environment are those of one that was there, or were asked for. -/
theorem From.labels
    (hfrontend : ∀ v labels, Request.labels v "prefix" true = .ok labels → F labels)
    (hapi : ∀ v labels, Request.labels v "apiPrefix" false = .ok labels → A labels)
    {environments : List Environment} (hfrom : From environments e)
    (hkept : ∀ e ∈ environments, F e.frontendPrefix ∧ A e.apiPrefix) :
    F e.frontendPrefix ∧ A e.apiPrefix := by
  have hfrontend' := fun v labels (_ : True) => hfrontend v labels
  have hapi' := fun v labels (_ : True) => hapi v labels
  induction hfrom with
  | kept hmem => exact hkept _ hmem
  | made hrequest => exact labels_requested hfrontend' hapi' (Payload.within_true _) hrequest
  | updated hmem hupdate =>
      exact labels_update hfrontend' hapi' (Payload.within_true _) (hkept _ hmem) hupdate
  | marked _ mark ih => exact ih

end Environment

namespace Registry

variable {r : Registry} {a b : Application}

theorem parts_renamed (v : Json) (a : Application) :
    (renamed v a).slug = a.slug ∧ (renamed v a).endpoints = a.endpoints := by
  obtain ⟨name, heq⟩ := renamed_eq v a
  rw [heq]
  exact ⟨rfl, rfl⟩

theorem parts_switched (v : Json) (a : Application) :
    (switched v a).slug = a.slug ∧ (switched v a).endpoints = a.endpoints := by
  obtain ⟨enabled, heq⟩ := switched_eq v a
  rw [heq]
  exact ⟨rfl, rfl⟩

theorem parts_reslugged {id : String} {v : Json} (h : r.reslugged id v a = .ok b) :
    (b.slug = a.slug ∨ Request.slug v = .ok b.slug) ∧ b.endpoints = a.endpoints := by
  obtain ⟨slug, rfl, hslug⟩ := reslugged_eq_ok h
  exact ⟨hslug, rfl⟩

theorem parts_rerouted {v : Json} (h : r.rerouted v a = .ok b) :
    b.slug = a.slug ∧ (b.endpoints = a.endpoints ∨
      ∃ fields, Application.updateSets r.environments a.endpoints fields = .ok b.endpoints) := by
  obtain ⟨sets, rfl, hsets⟩ := rerouted_eq_ok h
  exact ⟨rfl, hsets.imp_right fun ⟨fields, _, hread⟩ => ⟨fields, hread⟩⟩

end Registry

namespace Application

section Sets

variable {S : EndpointSet → Prop} {V : Json → Prop}
  (hset : ∀ v id present set, V v → (∀ s ∈ present, S s) →
    requestedSet v id present = .ok set → S set)

include hset

theorem forall_requestedSets {environments : List Environment}
    {sets read : List (String × EndpointSet)} {given : List (String × Json)}
    (hgiven : ∀ p ∈ given, V p.2) (hsets : ∀ p ∈ sets, S p.2)
    (h : requestedSets environments sets given = .ok read) : ∀ p ∈ read, S p.2 := by
  induction given generalizing sets with
  | nil =>
      cases h
      exact hsets
  | cons p rest ih =>
      obtain ⟨id, v⟩ := p
      rw [List.forall_mem_cons] at hgiven
      rw [requestedSets] at h
      split at h
      · simp only [bind_eq_ok] at h
        obtain ⟨set, hread, h⟩ := h
        refine ih hgiven.2 (fun p hp => ?_) h
        rcases mem_putSet hp with heq | hmem
        · exact heq ▸ hset v id none set hgiven.1 (by simp) hread
        · exact hsets p hmem
      · exact ih hgiven.2 hsets h

theorem forall_updateSets {environments : List Environment}
    {sets read : List (String × EndpointSet)} {given : List (String × Json)}
    (hgiven : ∀ p ∈ given, V p.2) (hsets : ∀ p ∈ sets, S p.2)
    (h : updateSets environments sets given = .ok read) : ∀ p ∈ read, S p.2 := by
  induction given generalizing sets with
  | nil =>
      cases h
      exact hsets
  | cons p rest ih =>
      obtain ⟨id, v⟩ := p
      rw [List.forall_mem_cons] at hgiven
      rw [updateSets] at h
      split at h
      · split at h
        · exact ih hgiven.2 (fun p hp => hsets p (List.mem_of_mem_filter hp)) h
        · simp only [bind_eq_ok] at h
          obtain ⟨set, hread, h⟩ := h
          refine ih hgiven.2 (fun p hp => ?_) h
          rcases mem_putSet hp with heq | hmem
          · refine heq ▸ hset v id _ set hgiven.1 (fun s hs => ?_) hread
            obtain ⟨before, after, heq, -⟩ := List.lookup_eq_some_iff.mp hs
            exact hsets (id, s) (by simp [heq])
          · exact hsets p hmem
      · exact ih hgiven.2 hsets h

end Sets

/-- The endpoints of an application are those of one that was there, or were asked for. -/
theorem From.forall_sets {S : EndpointSet → Prop}
    (hset : ∀ v id present set, (∀ s ∈ present, S s) →
      requestedSet v id present = .ok set → S set)
    {r : Registry} {a : Application} (hfrom : From r a)
    (hkept : ∀ a ∈ r.applications, ∀ p ∈ a.endpoints, S p.2) : ∀ p ∈ a.endpoints, S p.2 := by
  have hset' := fun v id present set (_ : True) => hset v id present set
  cases hfrom with
  | kept hmem => exact hkept a hmem
  | made hdraft hsets =>
      have hread := Registry.requestedSets_of_newEndpoints hsets
      exact forall_requestedSets hset' (fun _ _ => trivial) (by simp) hread
  | @updated before middle _ hmem _ name slug enabled endpoints hslug hroutes =>
      have hsame : (Registry.switched enabled middle).endpoints = before.endpoints := by
        rw [(Registry.parts_switched enabled middle).2, (Registry.parts_reslugged hslug).2,
          (Registry.parts_renamed name before).2]
      rcases (Registry.parts_rerouted hroutes).2 with heq | ⟨fields, hsets⟩
      · rw [heq, hsame]
        exact hkept before hmem
      · rw [hsame] at hsets
        exact forall_updateSets hset' (fun _ _ => trivial) (hkept before hmem) hsets

/-- The slug of an application is one that was there, or was asked for. -/
theorem From.slug {P : String → Prop} {r : Registry} {a : Application}
    (hrequest : ∀ v s, Request.slug v = .ok s → P s) (hfrom : From r a)
    (hkept : ∀ a ∈ r.applications, P a.slug) : P a.slug := by
  cases hfrom with
  | kept hmem => exact hkept a hmem
  | @made data draft hdraft =>
      obtain ⟨v, -, -, hv, -⟩ := draft_eq_ok hdraft
      exact hrequest v _ hv
  | @updated before middle _ hmem _ name slug enabled endpoints hslug hroutes =>
      rw [(Registry.parts_rerouted hroutes).1, (Registry.parts_switched enabled middle).1]
      rcases (Registry.parts_reslugged hslug).1 with heq | hasked
      · rw [heq, (Registry.parts_renamed name before).1]
        exact hkept before hmem
      · exact hrequest slug _ hasked

end Application

end EdgeProxy
