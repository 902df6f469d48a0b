import EdgeProxy.Proofs.Change.Identifiers
import EdgeProxy.Proofs.Operation.Effect
/-!
What a single operation can make of a registry, said once: the base domain is set, the provider is
switched, or one of the lists is replaced, and then it is known where each of its entities comes from.  An
environment is only dropped while no application uses it.
-/

namespace EdgeProxy

/-- Where a host comes from: it was there, it was asked for, or it is an updated one. -/
inductive Host.From (hosts : List Host) : Host → Prop where
  | kept {h : Host} (hmem : h ∈ hosts) : From hosts h
  | made {data : Json} {draft : Host.Draft} (hdraft : Host.draft data = .ok draft)
      (id createdAt : String) : From hosts (.ofDraft draft id createdAt)
  | updated {h h' : Host} (hmem : h ∈ hosts) {updates : Json} (hupdate : h.update updates = .ok h') :
      From hosts h'

/-- Where an environment comes from; besides, the default mark may have been given or taken. -/
inductive Environment.From (environments : List Environment) : Environment → Prop where
  | kept {e : Environment} (hmem : e ∈ environments) : From environments e
  | made {data : Json} {e : Environment} (hrequest : Environment.requested data = .ok e) :
      From environments e
  | updated {e e' : Environment} (hmem : e ∈ environments) {updates : Json}
      (hupdate : e.update updates = .ok e') : From environments e'
  | marked {e : Environment} (h : From environments e) (mark : Bool) :
      From environments { e with isDefault := mark }

/-- Where an application comes from. -/
inductive Application.From (r : Registry) : Application → Prop where
  | kept {a : Application} (hmem : a ∈ r.applications) : From r a
  | made {data : Json} {draft : Application.Draft} (hdraft : Application.draft data = .ok draft)
      {sets : List (String × EndpointSet)} (hsets : r.newEndpoints draft = .ok sets)
      (id createdAt : String) : From r (.ofDraft draft sets id createdAt)
  | updated {a b c : Application} (hmem : a ∈ r.applications) {id : String}
      {name slug enabled endpoints : Json}
      (hslug : r.reslugged id slug (Registry.renamed name a) = .ok b)
      (hroutes : r.rerouted endpoints (Registry.switched enabled b) = .ok c) : From r c

/-- What one operation makes of a registry before the patterns are brought up to date. -/
inductive Registry.Changes (settings : Settings) (r : Registry) : Registry → Prop where
  | baseDomain {value : Json} {domain : String} (h : Request.baseDomain value = .ok domain) :
      Changes settings r (r.setBaseDomain domain)
  | hosts {hosts : List Host} (h : ∀ a ∈ hosts, Host.From r.hosts a) :
      Changes settings r { r with hosts := hosts }
  | environments {environments : List Environment}
      (h : ∀ e ∈ environments, Environment.From r.environments e)
      (hdropped : ∀ e ∈ r.environments, e.id ∈ environments.map (·.id) ∨
        r.applicationsUsing e.id = []) :
      Changes settings r { r with environments := environments }
  | applications {applications : List Application}
      (h : ∀ a ∈ applications, Application.From r a) :
      Changes settings r { r with applications := applications }
  | provider {data : Json} {enabled : Bool} (h : settings.providerSwitch data = .ok enabled)
      {r' : Registry} (hswitch : r.switchProvider enabled = .ok r') : Changes settings r r'

namespace Registry

variable {settings : Settings} {r : Registry}

/-- One more entity at the end. -/
theorem forall_append_singleton {α : Type} {P : α → Prop} {l : List α} {a : α}
    (hkept : ∀ b ∈ l, P b) (ha : P a) : ∀ b ∈ l ++ [a], P b := by
  intro b hb
  rcases List.mem_append.mp hb with hb | hb
  · exact hkept b hb
  · exact List.mem_singleton.mp hb ▸ ha

/-- Another entity in the place of the first one. -/
theorem forall_replaceFirst {α : Type} {P : α → Prop} {l : List α} {p : α → Bool} {a : α}
    (hkept : ∀ b ∈ l, P b) (ha : P a) : ∀ b ∈ replaceFirst p a l, P b := by
  intro b hb
  rcases mem_replaceFirst hb with rfl | hb
  · exact ha
  · exact hkept b hb

/-- Putting an environment in the place of another one leaves the identifiers as they are. -/
theorem ids_putEnvironment (r : Registry) {id : String} {e : Environment} (he : e.id = id) :
    (r.putEnvironment id e).environments.map (·.id) = r.environments.map (·.id) := by
  apply map_replaceFirst
  intro a ha
  have hid : a.id = id := by simpa using List.find?_some ha
  rw [hid, he]

theorem id_of_environment? {id : String} {e : Environment} (h : r.environment? id = some e) :
    e.id = id := by
  simpa using List.find?_some h

theorem changes_putEnvironment {id : String} {e : Environment} (he : e.id = id)
    (hfrom : Environment.From r.environments e) : r.Changes settings (r.putEnvironment id e) := by
  refine .environments (forall_replaceFirst (fun b => .kept) hfrom) fun b hb => .inl ?_
  exact r.ids_putEnvironment he ▸ List.mem_map_of_mem hb

/-- An environment becomes the default: the others lose the mark. -/
theorem changes_putDefault {id : String} {e : Environment} (he : e.id = id)
    (hfrom : Environment.From r.environments e) :
    r.Changes settings (r.clearDefaults.putEnvironment id e) := by
  refine .environments (forall_replaceFirst ?_ hfrom) fun b hb => .inl ?_
  · exact List.forall_mem_map.mpr fun b hb => (Environment.From.kept hb).marked _
  · have hids := r.clearDefaults.ids_putEnvironment he
    rw [putEnvironment] at hids
    rw [hids]
    simp only [clearDefaults, List.map_map, Function.comp_def]
    exact List.mem_map_of_mem hb

theorem changes_eraseEnvironment {id : String} (hunused : r.applicationsUsing id = []) :
    r.Changes settings { r with environments := r.environments.eraseP (·.id == id) } := by
  refine .environments (fun b hb => .kept (List.mem_of_mem_eraseP hb)) fun b hb => ?_
  by_cases hid : b.id = id
  · exact .inr (hid ▸ hunused)
  · have hkept : b ∈ r.environments.eraseP (·.id == id) :=
      (List.mem_eraseP_of_neg (by simpa using hid)).mpr hb
    exact .inl (List.mem_map_of_mem hkept)

end Registry

/-- Every effect of an operation is one of these changes. -/
theorem Operation.Effect.changes {settings : Settings} {op : Operation} {r r' : Registry}
    (h : op.Effect settings r r') : r.Changes settings r' := by
  cases h with
  | setBaseDomain hdomain => exact .baseDomain hdomain
  | addHost hdraft =>
      exact .hosts (Registry.forall_append_singleton (fun b => .kept) (.made hdraft _ _))
  | updateHost hfound hupdate | toggleHost hfound hupdate =>
      exact .hosts (Registry.forall_replaceFirst (fun b => .kept)
        (.updated (List.mem_of_find?_eq_some hfound) hupdate))
  | deleteHost => exact .hosts fun b hb => .kept (List.mem_of_mem_eraseP hb)
  | addEnvironment hrequest =>
      refine .environments (Registry.forall_append_singleton (fun b => .kept) (.made hrequest)) ?_
      exact fun b hb => .inl (List.mem_map_of_mem (List.mem_append_left _ hb))
  | updateEnvironment hfound hupdate =>
      have hid := (Environment.remains_update hupdate).id.trans (Registry.id_of_environment? hfound)
      exact Registry.changes_putEnvironment hid
        (.updated (List.mem_of_find?_eq_some hfound) hupdate)
  | @markEnvironment id updates v e e' hfound hupdate =>
      have hid := (Environment.remains_update hupdate).id.trans (Registry.id_of_environment? hfound)
      have hnew : Environment.From r.environments e' :=
        .updated (List.mem_of_find?_eq_some hfound) hupdate
      cases v.truthy with
      | false => exact Registry.changes_putEnvironment hid (hnew.marked _)
      | true => exact Registry.changes_putDefault hid (hnew.marked _)
  | deleteEnvironment _ hunused => exact Registry.changes_eraseEnvironment hunused
  | addApplication hdraft hsets =>
      exact .applications (Registry.forall_append_singleton (fun b => .kept) (.made hdraft hsets _ _))
  | updateApplication hfound _ _ _ _ hslug hroutes =>
      exact .applications (Registry.forall_replaceFirst (fun b => .kept)
        (.updated (List.mem_of_find?_eq_some hfound) hslug hroutes))
  | @toggleApplication id enabled a hfound =>
      refine .applications (Registry.forall_replaceFirst (fun b => .kept) ?_)
      have hslug : r.reslugged id .null (Registry.renamed .null a) = .ok a := rfl
      have hroutes : r.rerouted .null (Registry.switched (.bool enabled.truthy) a) =
          .ok { a with enabled := enabled.truthy } := rfl
      exact .updated (List.mem_of_find?_eq_some hfound) hslug hroutes
  | deleteApplication => exact .applications fun b hb => .kept (List.mem_of_mem_eraseP hb)
  | @switchProvider data enabled henabled hbase =>
      refine .provider henabled ?_
      rw [Registry.switchProvider, if_neg]
      simpa using hbase

/-- Every edit of an operation is one of these changes. -/
theorem Operation.Edits.changes {settings : Settings} {op : Operation} {supply left drawn : Supply}
    {edit : Edit} {r r' : Registry} {subject : Subject} (h : op.Edits settings supply left edit)
    (hedit : edit left r = (.ok (r', subject), drawn)) : r.Changes settings r' :=
  (h.effect hedit).changes

end EdgeProxy
