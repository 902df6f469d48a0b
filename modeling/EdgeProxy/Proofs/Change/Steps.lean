import EdgeProxy.Change.Application
import EdgeProxy.Change.Environment
import EdgeProxy.Change.Host
import EdgeProxy.Change.Provider
import EdgeProxy.Proofs.Result
/-!
What each change makes of what it changes, said once for each: the readers of what is asked for, the steps
that a payload is gone through in, and the changes of the registry that they are parts of.
-/

namespace EdgeProxy

theorem not_reject {α : Type} {why : Rejection} {a : α} : reject why ≠ .ok a := by
  intro h
  cases h

namespace Request

/-- What can be shown is shown as it is. -/
theorem showable_eq_ok {v shown : Json} (h : showable v = .ok shown) : shown = v := by
  rw [showable] at h
  split at h
  · exact (Except.ok.inj h).symm
  · cases h

section Endpoints

variable {fields : Fields} {v : Json} {subject : String}

theorem targetHost_eq_ok {host : String} :
    targetHost fields subject = .ok host ↔
      ∃ s, fields.get? "targetHost" = some (.str s) ∧ s ≠ "" ∧ host = Text.trim s := by
  rw [targetHost.eq_def]
  constructor
  · intro h
    split at h
    next s hget =>
      split at h
      · exact absurd h not_reject
      next hne => exact ⟨s, hget, by simpa using hne, (Except.ok.inj h).symm⟩
    · exact absurd h not_reject
  · rintro ⟨s, hget, hne, rfl⟩
    rw [hget]
    exact if_neg (by simpa using hne)

theorem backend_eq_ok {portSubject : String} {b : Backend} :
    backend fields subject portSubject = .ok b ↔
      targetHost fields subject = .ok b.targetHost ∧
        port (fields.valueOf "targetPort") portSubject = .ok b.targetPort ∧
        isSet fields "localOnly" = b.localOnly ∧ isSet fields "requireAuth" = b.requireAuth := by
  simp only [backend, bind_eq_ok, Except.ok.injEq]
  constructor
  · rintro ⟨host, hhost, p, hp, rfl⟩
    exact ⟨hhost, hp, rfl, rfl⟩
  · rintro ⟨hhost, hp, hlocal, hauth⟩
    exact ⟨_, hhost, _, hp, by rw [hlocal, hauth]⟩

theorem endpoint_eq_ok {e : Endpoint} :
    endpoint v subject = .ok e ↔
      ∃ fields : Fields, v = .obj fields ∧
        backend fields subject (subject ++ " port") = .ok e.toBackend ∧ e.extra = [] := by
  rw [endpoint.eq_def]
  split
  next fields =>
    simp only [bind_eq_ok]
    constructor
    · rintro ⟨b, hb, heq⟩
      obtain rfl := Except.ok.inj heq
      exact ⟨fields, rfl, hb, rfl⟩
    · rintro ⟨_, ⟨⟩, hb, hextra⟩
      exact ⟨_, hb, by rw [← hextra]⟩
  next hother =>
    refine iff_of_false not_reject ?_
    rintro ⟨fields, rfl, -⟩
    exact hother fields rfl

theorem api_eq_ok {a : Api} :
    api v subject = .ok a ↔
      ∃ fields : Fields, v = .obj fields ∧ (Fields.valueOf fields "slug").isWritable = true ∧
        backend fields subject (subject ++ " API port") = .ok a.toBackend ∧
        a.slug = apiSlug (fields.valueOf "slug") ∧ a.extra = [] := by
  rw [api.eq_def]
  split
  next fields =>
    simp only [bind_eq_ok]
    constructor
    · rintro ⟨slug, hslug, b, hb, heq⟩
      obtain rfl := Except.ok.inj heq
      rw [showable] at hslug
      split at hslug
      next hwritable =>
        obtain rfl := Except.ok.inj hslug
        exact ⟨fields, rfl, hwritable, hb, rfl, rfl⟩
      · cases hslug
    · rintro ⟨_, ⟨⟩, hwritable, hb, hslug, hextra⟩
      exact ⟨_, if_pos hwritable, _, hb, by rw [← hslug, ← hextra]⟩
  next hother =>
    refine iff_of_false not_reject ?_
    rintro ⟨fields, rfl, -⟩
    exact hother fields rfl

theorem endpointSet_eq_ok {environment : String} {present : Option EndpointSet} {set : EndpointSet} :
    endpointSet v environment present = .ok set ↔
      ∃ fields : Fields, v = .obj fields ∧
        frontend fields ("environment " ++ environment) (present.bind (·.frontend)) =
          .ok set.frontend ∧
        apis fields ("environment " ++ environment) ((present.map (·.apis)).getD []) = .ok set.apis ∧
        distinctSlugs set.apis = true ∧ set.extra = [] := by
  rw [endpointSet.eq_def]
  split
  next fields =>
    simp only [bind_eq_ok]
    constructor
    · rintro ⟨f, hf, as, has, h⟩
      split at h
      next hdistinct =>
        obtain rfl := Except.ok.inj h
        exact ⟨fields, rfl, hf, has, hdistinct, rfl⟩
      · exact absurd h not_reject
    · rintro ⟨_, ⟨⟩, hf, has, hdistinct, hextra⟩
      exact ⟨_, hf, _, has, by rw [if_pos hdistinct, ← hextra]⟩
  next hother =>
    refine iff_of_false not_reject ?_
    rintro ⟨fields, rfl, -⟩
    exact hother fields rfl

end Endpoints

end Request

namespace Application

theorem draft_eq_ok {data : Json} {d : Draft} (h : draft data = .ok d) :
    ∃ slug, Payload.field data "name" = .ok d.name ∧ Payload.field data "slug" = .ok slug ∧
      Request.slug slug = .ok d.slug ∧ Payload.field data "endpoints" = .ok (.obj d.endpoints) := by
  simp only [draft, bind_eq_ok] at h
  obtain ⟨name, hname, slug, hgiven, endpoints, hendpoints, h⟩ := h
  split at h
  · exact absurd h not_reject
  · simp only [bind_eq_ok] at h
    obtain ⟨label, hlabel, h⟩ := h
    split at h
    · cases h
      exact ⟨slug, hname, hgiven, hlabel, hendpoints⟩
    · exact absurd h not_reject

theorem requestedSet_eq_ok {v : Json} {environment : String} {present : Option EndpointSet}
    {set : EndpointSet} :
    requestedSet v environment present = .ok set ↔
      Request.endpointSet v environment present = .ok set ∧ set.inUse = true := by
  simp only [requestedSet, bind_eq_ok]
  constructor
  · rintro ⟨read, hread, h⟩
    split at h
    next hinUse =>
      obtain rfl := Except.ok.inj h
      exact ⟨hread, hinUse⟩
    · exact absurd h not_reject
  · rintro ⟨hread, hinUse⟩
    exact ⟨set, hread, if_pos hinUse⟩

end Application

namespace Host

theorem draft_eq_ok {data : Json} {d : Draft} (h : draft data = .ok d) :
    ∃ targetHost targetPort subdomain customDomain,
      Payload.field data "targetHost" = .ok targetHost ∧ targetHost.truthy = true ∧
      Payload.field data "targetPort" = .ok targetPort ∧ targetPort.truthy = true ∧
      Payload.field data "subdomain" = .ok subdomain ∧
      Payload.field data "customDomain" = .ok customDomain ∧
      requestedName (presentOnly subdomain) (presentOnly customDomain) =
        .ok (d.subdomain, d.customDomain) ∧
      requestedBackend data targetHost targetPort = .ok d.backend := by
  simp only [draft, bind_eq_ok] at h
  obtain ⟨targetHost, htargetHost, h⟩ := h
  split at h
  · exact absurd h not_reject
  next hset =>
    simp only [bind_eq_ok] at h
    obtain ⟨targetPort, htargetPort, h⟩ := h
    split at h
    · exact absurd h not_reject
    next hset' =>
      simp only [bind_eq_ok] at h
      obtain ⟨subdomain, hsubdomain, customDomain, hcustomDomain, name, hname, b, hb, h⟩ := h
      cases h
      exact ⟨targetHost, targetPort, subdomain, customDomain, htargetHost, by simpa using hset,
        htargetPort, by simpa using hset', hsubdomain, hcustomDomain, hname, hb⟩

theorem targetHost_requestedBackend {data targetHost targetPort : Json} {b : Backend}
    (h : requestedBackend data targetHost targetPort = .ok b) :
    b.targetHost = Text.trim targetHost.plainText := by
  simp only [requestedBackend, bind_eq_ok] at h
  obtain ⟨shown, hshown, port, -, _, -, _, -, h⟩ := h
  obtain rfl := Except.ok.inj h
  rw [Request.showable_eq_ok hshown]

variable {v : Json} {h h' : Host}

theorem setTargetHost_eq_ok (hset : h.setTargetHost v = .ok h') :
    ∃ s, h' = { h with targetHost := s } := by
  rw [setTargetHost.eq_def] at hset
  split at hset
  · split at hset
    · exact absurd hset not_reject
    · cases hset
      exact ⟨_, rfl⟩
  · exact absurd hset not_reject

theorem setTargetPort_eq_ok (hset : h.setTargetPort v = .ok h') :
    ∃ p, h' = { h with targetPort := p } := by
  simp only [setTargetPort, bind_eq_ok] at hset
  obtain ⟨p, -, hset⟩ := hset
  cases hset
  exact ⟨p, rfl⟩

theorem setSubdomain_eq_ok (hset : h.setSubdomain v = .ok h') :
    h' = h ∨ ∃ s, Request.subdomain v = .ok s ∧
      h' = { h with subdomain := some s, customDomain := none } := by
  rw [setSubdomain] at hset
  split at hset
  · cases hset
    exact .inl rfl
  · simp only [bind_eq_ok] at hset
    obtain ⟨s, hs, hset⟩ := hset
    cases hset
    exact .inr ⟨s, hs, rfl⟩

theorem setCustomDomain_eq_ok (hset : h.setCustomDomain v = .ok h') :
    h' = h ∨ ∃ s, Request.customDomain v = .ok s ∧
      h' = { h with customDomain := some s, subdomain := none } := by
  rw [setCustomDomain] at hset
  split at hset
  · cases hset
    exact .inl rfl
  · simp only [bind_eq_ok] at hset
    obtain ⟨s, hs, hset⟩ := hset
    cases hset
    exact .inr ⟨s, hs, rfl⟩

end Host

namespace Environment

variable {v : Json} {e e' : Environment}

theorem requested_eq_ok {data : Json} (h : requested data = .ok e) :
    ∃ name frontendPrefix apiPrefix frontendLabels apiLabels,
      Payload.field data "name" = .ok (.str name) ∧ name ≠ "" ∧
      Payload.field data "prefix" = .ok frontendPrefix ∧
      Payload.field data "apiPrefix" = .ok apiPrefix ∧
      Request.labels frontendPrefix "prefix" true = .ok frontendLabels ∧
      Request.labels apiPrefix "apiPrefix" false = .ok apiLabels ∧
      e = ⟨Request.environmentId name, Text.trim name, frontendLabels, apiLabels, false, []⟩ := by
  simp only [requested, bind_eq_ok] at h
  obtain ⟨name, hname, h⟩ := h
  split at h
  · split at h
    · exact absurd h not_reject
    next hne =>
      simp only [bind_eq_ok] at h
      obtain ⟨frontendPrefix, hfrontend, apiPrefix, hapi, h⟩ := h
      split at h
      · simp only [bind_eq_ok] at h
        obtain ⟨frontendLabels, hfrontendLabels, apiLabels, hapiLabels, h⟩ := h
        cases h
        exact ⟨_, _, _, _, _, hname, by simpa using hne, hfrontend, hapi, hfrontendLabels,
          hapiLabels, rfl⟩
      · exact absurd h not_reject
  · exact absurd h not_reject

theorem setName_eq_ok (hset : e.setName v = .ok e') : ∃ s, e' = { e with name := s } := by
  rw [setName.eq_def] at hset
  split at hset
  · split at hset
    · exact absurd hset not_reject
    · cases hset
      exact ⟨_, rfl⟩
  · exact absurd hset not_reject

theorem setFrontendPrefix_eq_ok (hset : e.setFrontendPrefix v = .ok e') :
    ∃ labels, Request.labels v "prefix" true = .ok labels ∧
      e' = { e with frontendPrefix := labels } := by
  simp only [setFrontendPrefix, bind_eq_ok] at hset
  obtain ⟨labels, hlabels, hset⟩ := hset
  cases hset
  exact ⟨labels, hlabels, rfl⟩

theorem setApiPrefix_eq_ok (hset : e.setApiPrefix v = .ok e') :
    ∃ labels, Request.labels v "apiPrefix" false = .ok labels ∧
      e' = { e with apiPrefix := labels } := by
  simp only [setApiPrefix, bind_eq_ok] at hset
  obtain ⟨labels, hlabels, hset⟩ := hset
  cases hset
  exact ⟨labels, hlabels, rfl⟩

end Environment

namespace Registry

variable {r r' : Registry} {id : String}

section Application

variable {a b : Application}

theorem renamed_eq (v : Json) (a : Application) : ∃ name, renamed v a = { a with name := name } := by
  rw [renamed]
  split <;> exact ⟨_, rfl⟩

theorem switched_eq (v : Json) (a : Application) :
    ∃ enabled, switched v a = { a with enabled := enabled } := by
  rw [switched.eq_def]
  split <;> exact ⟨_, rfl⟩

theorem reslugged_eq_ok {v : Json} (h : r.reslugged id v a = .ok b) :
    ∃ slug, b = { a with slug := slug } ∧ (slug = a.slug ∨ Request.slug v = .ok slug) := by
  rw [reslugged] at h
  split at h
  · cases h
    exact ⟨_, rfl, .inl rfl⟩
  · simp only [bind_eq_ok] at h
    obtain ⟨slug, hslug, h⟩ := h
    split at h
    · exact absurd h not_reject
    · cases h
      exact ⟨slug, rfl, .inr hslug⟩

theorem rerouted_eq_ok {v : Json} (h : r.rerouted v a = .ok b) :
    ∃ sets, b = { a with endpoints := sets } ∧ (sets = a.endpoints ∨
      ∃ fields, v = .obj fields ∧
        Application.updateSets r.environments a.endpoints fields = .ok sets) := by
  rw [rerouted.eq_def] at h
  split at h
  next fields =>
    simp only [bind_eq_ok] at h
    obtain ⟨sets, hsets, heq⟩ := h
    cases heq
    exact ⟨sets, rfl, .inr ⟨fields, rfl, hsets⟩⟩
  · cases h
    exact ⟨_, rfl, .inl rfl⟩

end Application

theorem updateHost_eq_ok {updates : Json} {b : Host} (h : r.updateHost id updates = .ok (r', b)) :
    ∃ a, r.host? id = some a ∧ a.update updates = .ok b ∧
      r' = { r with hosts := replaceFirst (·.id == id) b r.hosts } := by
  rw [updateHost] at h
  split at h
  · exact absurd h not_reject
  next a ha =>
    simp only [bind_eq_ok] at h
    obtain ⟨b', hb, heq⟩ := h
    cases heq
    exact ⟨a, ha, hb, rfl⟩

theorem deleteHost_eq_ok {a : Host} (h : r.deleteHost id = .ok (r', a)) :
    r.host? id = some a ∧ r' = { r with hosts := r.hosts.eraseP (·.id == id) } := by
  rw [deleteHost] at h
  split at h
  · exact absurd h not_reject
  next a' ha =>
    cases h
    exact ⟨ha, rfl⟩

theorem addEnvironment_eq_ok {e : Environment} (h : r.addEnvironment e = .ok r') :
    r' = { r with environments := r.environments ++ [e] } := by
  rw [addEnvironment] at h
  split at h
  · exact absurd h not_reject
  · cases h
    rfl

theorem updateEnvironment_eq_ok {updates : Json} {e : Environment}
    (h : r.updateEnvironment id updates = .ok (r', e)) :
    ∃ before after, r.environment? id = some before ∧ before.update updates = .ok after ∧
      (Payload.given updates "isDefault" = .ok none ∧ r' = r.putEnvironment id after ∨
        ∃ v, Payload.given updates "isDefault" = .ok (some v) ∧
          r' = (if v.truthy then r.clearDefaults else r).putEnvironment id
            { after with isDefault := v.truthy }) := by
  rw [updateEnvironment] at h
  split at h
  · exact absurd h not_reject
  next before hfound =>
    simp only [bind_eq_ok] at h
    obtain ⟨after, hupdate, given, hgiven, hput⟩ := h
    refine ⟨before, after, hfound, hupdate, ?_⟩
    cases given with
    | none =>
        cases hput
        exact .inl ⟨hgiven, rfl⟩
    | some v =>
        cases hput
        exact .inr ⟨v, hgiven, rfl⟩

theorem deleteEnvironment_eq_ok {e : Environment} (h : r.deleteEnvironment id = .ok (r', e)) :
    r.environment? id = some e ∧ r.applicationsUsing id = [] ∧
      r' = { r with environments := r.environments.eraseP (·.id == id) } := by
  rw [deleteEnvironment] at h
  split at h
  · exact absurd h not_reject
  next e' hfound =>
    split at h
    next hunused =>
      cases h
      exact ⟨hfound, hunused, rfl⟩
    · exact absurd h not_reject

theorem updateApplication_eq_ok {updates : Json} {c : Application}
    (h : r.updateApplication id updates = .ok (r', c)) :
    ∃ a b name slug enabled endpoints, r.application? id = some a ∧
      Payload.field updates "name" = .ok name ∧ Payload.field updates "slug" = .ok slug ∧
      Payload.field updates "enabled" = .ok enabled ∧
      Payload.field updates "endpoints" = .ok endpoints ∧
      r.reslugged id slug (renamed name a) = .ok b ∧
      r.rerouted endpoints (switched enabled b) = .ok c ∧
      r' = { r with applications := replaceFirst (·.id == id) c r.applications } := by
  rw [updateApplication] at h
  split at h
  · exact absurd h not_reject
  next a hfound =>
    simp only [bind_eq_ok] at h
    obtain ⟨name, hname, slug, hslug, enabled, henabled, endpoints, hendpoints, shown, hshown,
      b, hb, c, hc, heq⟩ := h
    cases heq
    cases Request.showable_eq_ok hshown
    exact ⟨a, b, name, slug, enabled, endpoints, hfound, hname, hslug, henabled, hendpoints, hb, hc, rfl⟩

theorem deleteApplication_eq_ok {a : Application} (h : r.deleteApplication id = .ok (r', a)) :
    r.application? id = some a ∧
      r' = { r with applications := r.applications.eraseP (·.id == id) } := by
  rw [deleteApplication] at h
  split at h
  · exact absurd h not_reject
  next a' ha =>
    cases h
    exact ⟨ha, rfl⟩

theorem switchProvider_eq_ok {enabled : Bool} (h : r.switchProvider enabled = .ok r') :
    (enabled = true → r.baseDomain ≠ "") ∧ r' = { r with provider := { r.provider with
      enabled := enabled, domains := if enabled then r.wildcardPatterns else [] } } := by
  rw [switchProvider] at h
  split at h
  · exact absurd h not_reject
  next hbase =>
    cases h
    refine ⟨fun henabled => ?_, rfl⟩
    simpa [henabled] using hbase

end Registry

end EdgeProxy
