import EdgeProxy.Proofs.Operation.Outcome
import EdgeProxy.Proofs.Registry.Patterns
/-!
What each operation does to the registry before the patterns are brought up to date, with the values that it
takes out of its payload and the entity that it finds.
-/

namespace EdgeProxy

/-- What an operation does to a registry. -/
inductive Operation.Effect (settings : Settings) (r : Registry) : Operation → Registry → Prop where
  | setBaseDomain {value : Json} {domain : String} (h : Request.baseDomain value = .ok domain) :
      Effect settings r (.setBaseDomain value) (r.setBaseDomain domain)
  | addHost {data : Json} {draft : Host.Draft} (h : Host.draft data = .ok draft)
      (id createdAt : String) :
      Effect settings r (.addHost data) (r.addHost (.ofDraft draft id createdAt))
  | updateHost {id : String} {updates : Json} {a b : Host} (hfound : r.host? id = some a)
      (h : a.update updates = .ok b) :
      Effect settings r (.updateHost id updates)
        { r with hosts := replaceFirst (·.id == id) b r.hosts }
  | toggleHost {id : String} {enabled : Json} {a b : Host} (hfound : r.host? id = some a)
      (h : a.update (World.switch enabled) = .ok b) :
      Effect settings r (.toggleHost id enabled)
        { r with hosts := replaceFirst (·.id == id) b r.hosts }
  | deleteHost {id : String} {a : Host} (hfound : r.host? id = some a) :
      Effect settings r (.deleteHost id) { r with hosts := r.hosts.eraseP (·.id == id) }
  | addEnvironment {data : Json} {e : Environment} (h : Environment.requested data = .ok e) :
      Effect settings r (.addEnvironment data) { r with environments := r.environments ++ [e] }
  | updateEnvironment {id : String} {updates : Json} {e e' : Environment}
      (hfound : r.environment? id = some e) (h : e.update updates = .ok e')
      (hmark : Payload.given updates "isDefault" = .ok none) :
      Effect settings r (.updateEnvironment id updates) (r.putEnvironment id e')
  | markEnvironment {id : String} {updates v : Json} {e e' : Environment}
      (hfound : r.environment? id = some e) (h : e.update updates = .ok e')
      (hmark : Payload.given updates "isDefault" = .ok (some v)) :
      Effect settings r (.updateEnvironment id updates)
        ((if v.truthy then r.clearDefaults else r).putEnvironment id
          { e' with isDefault := v.truthy })
  | deleteEnvironment {id : String} {e : Environment} (hfound : r.environment? id = some e)
      (hunused : r.applicationsUsing id = []) :
      Effect settings r (.deleteEnvironment id)
        { r with environments := r.environments.eraseP (·.id == id) }
  | addApplication {data : Json} {draft : Application.Draft}
      (h : Application.draft data = .ok draft) {sets : List (String × EndpointSet)}
      (hsets : r.newEndpoints draft = .ok sets) (id createdAt : String) :
      Effect settings r (.addApplication data)
        (r.addApplication (.ofDraft draft sets id createdAt))
  | updateApplication {id : String} {updates name slug enabled endpoints : Json}
      {a b c : Application} (hfound : r.application? id = some a)
      (hname : Payload.field updates "name" = .ok name)
      (hslug : Payload.field updates "slug" = .ok slug)
      (henabled : Payload.field updates "enabled" = .ok enabled)
      (hendpoints : Payload.field updates "endpoints" = .ok endpoints)
      (hb : r.reslugged id slug (Registry.renamed name a) = .ok b)
      (hc : r.rerouted endpoints (Registry.switched enabled b) = .ok c) :
      Effect settings r (.updateApplication id updates)
        { r with applications := replaceFirst (·.id == id) c r.applications }
  | toggleApplication {id : String} {enabled : Json} {a : Application}
      (hfound : r.application? id = some a) :
      Effect settings r (.toggleApplication id enabled)
        { r with applications :=
          replaceFirst (·.id == id) { a with enabled := enabled.truthy } r.applications }
  | deleteApplication {id : String} {a : Application} (hfound : r.application? id = some a) :
      Effect settings r (.deleteApplication id)
        { r with applications := r.applications.eraseP (·.id == id) }
  | switchProvider {data : Json} {enabled : Bool} (h : settings.providerSwitch data = .ok enabled)
      (hbase : enabled = true → r.baseDomain ≠ "") :
      Effect settings r (.switchProvider data)
        { r with provider := { r.provider with
          enabled := enabled, domains := if enabled then r.wildcardPatterns else [] } }

namespace Registry

variable {r r' : Registry} {id : String}

theorem effect_updateEnvironment (settings : Settings) {updates : Json} {e : Environment}
    (h : r.updateEnvironment id updates = .ok (r', e)) :
    Operation.Effect settings r (.updateEnvironment id updates) r' := by
  obtain ⟨before, after, hfound, hupdate, ⟨hmark, rfl⟩ | ⟨v, hmark, rfl⟩⟩ :=
    updateEnvironment_eq_ok h
  · exact .updateEnvironment hfound hupdate hmark
  · exact .markEnvironment hfound hupdate hmark

theorem effect_updateApplication (settings : Settings) {updates : Json} {a : Application}
    (h : r.updateApplication id updates = .ok (r', a)) :
    Operation.Effect settings r (.updateApplication id updates) r' := by
  obtain ⟨before, middle, name, slug, enabled, endpoints, hfound, hname, hslug, henabled, hendpoints,
    hmiddle, hafter, rfl⟩ := updateApplication_eq_ok h
  exact .updateApplication hfound hname hslug henabled hendpoints hmiddle hafter

/-- The payload that switches an application changes its flag only. -/
theorem effect_toggleApplication (settings : Settings) {enabled : Json} {a : Application}
    (h : r.updateApplication id (World.switch enabled) = .ok (r', a)) :
    Operation.Effect settings r (.toggleApplication id enabled) r' := by
  rw [updateApplication] at h
  split at h
  · exact absurd h not_reject
  next before hfound =>
    cases h
    exact .toggleApplication hfound

end Registry

/-- Every edit of an operation has its effect. -/
theorem Operation.Edits.effect {settings : Settings} {op : Operation} {supply read left drawn : Supply}
    {edit : Edit} {r r' : Registry} {subject : Subject} (h : op.Edits settings supply read edit)
    (hedit : edit left r = (.ok (r', subject), drawn)) : op.Effect settings r r' := by
  cases h with
  | setBaseDomain hdomain =>
      cases hedit
      exact .setBaseDomain hdomain
  | addHost hdraft =>
      cases hedit
      exact .addHost hdraft _ _
  | updateHost id updates =>
      obtain ⟨⟨r', b⟩, hb, rfl⟩ := Edit.exists_of_ofMap hedit
      obtain ⟨a, hfound, hupdate, rfl⟩ := Registry.updateHost_eq_ok hb
      exact .updateHost hfound hupdate
  | toggleHost id enabled =>
      obtain ⟨⟨r', b⟩, hb, rfl⟩ := Edit.exists_of_ofMap hedit
      obtain ⟨a, hfound, hupdate, rfl⟩ := Registry.updateHost_eq_ok hb
      exact .toggleHost hfound hupdate
  | deleteHost id =>
      obtain ⟨⟨r', a⟩, ha, rfl⟩ := Edit.exists_of_ofMap hedit
      obtain ⟨hfound, rfl⟩ := Registry.deleteHost_eq_ok ha
      exact .deleteHost hfound
  | addEnvironment hrequest =>
      obtain ⟨r', ha, rfl⟩ := Edit.exists_of_ofMap hedit
      obtain rfl := Registry.addEnvironment_eq_ok ha
      exact .addEnvironment hrequest
  | updateEnvironment id updates =>
      obtain ⟨⟨r', a⟩, ha, rfl⟩ := Edit.exists_of_ofMap hedit
      exact Registry.effect_updateEnvironment settings ha
  | deleteEnvironment id =>
      obtain ⟨⟨r', a⟩, ha, rfl⟩ := Edit.exists_of_ofMap hedit
      obtain ⟨hfound, hunused, rfl⟩ := Registry.deleteEnvironment_eq_ok ha
      exact .deleteEnvironment hfound hunused
  | addApplication hdraft =>
      rw [World.additionOf] at hedit
      split at hedit
      · cases hedit
      next sets hsets =>
        cases hedit
        exact .addApplication hdraft hsets _ _
  | updateApplication id updates =>
      obtain ⟨⟨r', a⟩, ha, rfl⟩ := Edit.exists_of_ofMap hedit
      exact Registry.effect_updateApplication settings ha
  | toggleApplication id enabled =>
      obtain ⟨⟨r', a⟩, ha, rfl⟩ := Edit.exists_of_ofMap hedit
      exact Registry.effect_toggleApplication settings ha
  | deleteApplication id =>
      obtain ⟨⟨r', a⟩, ha, rfl⟩ := Edit.exists_of_ofMap hedit
      obtain ⟨hfound, rfl⟩ := Registry.deleteApplication_eq_ok ha
      exact .deleteApplication hfound
  | switchProvider henabled =>
      obtain ⟨r', ha, rfl⟩ := Edit.exists_of_ofMap hedit
      obtain ⟨hbase, rfl⟩ := Registry.switchProvider_eq_ok ha
      exact .switchProvider henabled hbase

end EdgeProxy
