import EdgeProxy.Proofs.Operation.Stable
import EdgeProxy.Proofs.Registry.Patterns
import EdgeProxy.Proofs.Request.Targets
/-!
Texts in the stored registry are as requests read them.  Requests trim what they read and lower-case labels, and
give endpoints no fields of their own; so whatever operations are run, every text that is stored would be read
as itself.
-/

namespace EdgeProxy

/-- Whatever a payload gives as a target host is trimmed. -/
theorem everywhere_aims_trimmed (data : Json) : data.Everywhere (Fields.Aims Text.Trimmed) :=
  fun _ _ _ => Text.trimmed_trim _

namespace Host

/-- The target host is one that was there, or a text that was trimmed. -/
theorem From.trimmed {hosts : List Host} {h : Host} (hfrom : From hosts h)
    (hkept : ∀ a ∈ hosts, a.toBackend.Trimmed) : h.toBackend.Trimmed := by
  cases hfrom with
  | kept hmem => exact hkept h hmem
  | made hdraft => exact aims_draft (everywhere_aims_trimmed _) hdraft
  | updated hmem hupdate => exact aims_update (everywhere_aims_trimmed _) (hkept _ hmem) hupdate

end Host

namespace Environment

/-- An environment as requests lead to it: its name and its labels are read as they are written. -/
structure Plain (e : Environment) : Prop where
  name : Text.Trimmed e.name
  frontendPrefix : Request.labels (.str e.frontendPrefix) "prefix" true = .ok e.frontendPrefix
  apiPrefix : Request.labels (.str e.apiPrefix) "apiPrefix" false = .ok e.apiPrefix

theorem trimmed_requested {data : Json} {e : Environment} (h : requested data = .ok e) :
    Text.Trimmed e.name := by
  obtain ⟨name, _, _, _, _, -, -, -, -, -, -, rfl⟩ := requested_eq_ok h
  exact Text.trimmed_trim name

theorem trimmed_setName {v : Json} {e e' : Environment} (hset : e.setName v = .ok e') :
    Text.Trimmed e'.name := by
  rw [setName.eq_def] at hset
  split at hset
  · split at hset
    · exact absurd hset not_reject
    · obtain rfl := Except.ok.inj hset
      exact Text.trimmed_trim _
  · exact absurd hset not_reject

/-- An update preserves what each of its steps preserves. -/
theorem update_keeps {P : Environment → Prop} {updates : Json} {e e' : Environment}
    (hname : ∀ v a b, P a → setName v a = .ok b → P b)
    (hfrontend : ∀ v a b, P a → setFrontendPrefix v a = .ok b → P b)
    (hapi : ∀ v a b, P a → setApiPrefix v a = .ok b → P b) (hbefore : P e)
    (hupdate : e.update updates = .ok e') : P e' := by
  simp only [update, bind_eq_ok] at hupdate
  obtain ⟨withName, hnames, withPrefix, hprefixes, hapis⟩ := hupdate
  have keepName : P withName := whenGiven_keeps hname hbefore hnames
  have keepPrefix : P withPrefix := whenGiven_keeps hfrontend keepName hprefixes
  exact whenGiven_keeps hapi keepPrefix hapis

theorem trimmed_update {updates : Json} {e e' : Environment} (hbefore : Text.Trimmed e.name)
    (hupdate : e.update updates = .ok e') : Text.Trimmed e'.name := by
  refine update_keeps (P := fun e => Text.Trimmed e.name) ?_ ?_ ?_ hbefore hupdate
  · exact fun v a b _ hset => trimmed_setName hset
  · intro v a b ha hset
    obtain ⟨labels, -, rfl⟩ := setFrontendPrefix_eq_ok hset
    exact ha
  · intro v a b ha hset
    obtain ⟨labels, -, rfl⟩ := setApiPrefix_eq_ok hset
    exact ha

theorem From.trimmed {environments : List Environment} {e : Environment}
    (hfrom : From environments e) (hkept : ∀ e ∈ environments, Text.Trimmed e.name) :
    Text.Trimmed e.name := by
  induction hfrom with
  | kept hmem => exact hkept _ hmem
  | made hrequest => exact trimmed_requested hrequest
  | updated hmem hupdate => exact trimmed_update (hkept _ hmem) hupdate
  | marked _ mark ih => exact ih

/-- The texts of an environment are those of one that was there, or were read by a request. -/
theorem From.plain {environments : List Environment} {e : Environment}
    (hfrom : From environments e) (hkept : ∀ e ∈ environments, e.Plain) : e.Plain := by
  obtain ⟨hfrontend, hapi⟩ := hfrom.labels
    (F := fun s => Request.labels (.str s) "prefix" true = .ok s)
    (A := fun s => Request.labels (.str s) "apiPrefix" false = .ok s)
    (fun _ _ => Request.labels_self) (fun _ _ => Request.labels_self)
    (fun e he => ⟨(hkept e he).frontendPrefix, (hkept e he).apiPrefix⟩)
  exact ⟨hfrom.trimmed fun e he => (hkept e he).name, hfrontend, hapi⟩

end Environment

namespace Application

theorem trimmed_renamed {a : Application} (h : Text.Trimmed a.name) (v : Json) :
    Text.Trimmed (Registry.renamed v a).name := by
  rw [Registry.renamed]
  split
  · exact Text.trimmed_trim _
  · exact h

/-- The name of an application is one that was there, or a text that was trimmed. -/
theorem From.trimmed {r : Registry} {a : Application} (hfrom : From r a)
    (hkept : ∀ a ∈ r.applications, Text.Trimmed a.name) : Text.Trimmed a.name := by
  cases hfrom with
  | kept hmem => exact hkept a hmem
  | made => exact Text.trimmed_trim _
  | @updated before middle _ hmem _ name slug enabled endpoints hslug hroutes =>
      obtain ⟨slug', rfl, -⟩ := Registry.reslugged_eq_ok hslug
      obtain ⟨sets, rfl, -⟩ := Registry.rerouted_eq_ok hroutes
      obtain ⟨enabled', hswitched⟩ := Registry.switched_eq enabled
        { Registry.renamed name before with slug := slug' }
      rw [hswitched]
      exact trimmed_renamed (hkept before hmem) name

theorem plain_requestedSet {v : Json} {id : String} {present : Option EndpointSet}
    {set : EndpointSet} (hpresent : ∀ s ∈ present, s.Plain)
    (h : requestedSet v id present = .ok set) : set.Plain :=
  Request.plain_endpointSet hpresent (requestedSet_eq_ok.mp h).1

end Application

theorem EndpointSet.Plain.stored_eq {s : EndpointSet} (h : s.Plain) : s.stored = s := by
  have hapis : s.apis.map Api.stored = s.apis := by
    apply map_eq_self
    intro a ha
    rw [Api.stored, (h.apis a ha).2]
    exact congrArg (fun extra => { a with extra := extra }) (h.apis a ha).2.symm
  have hfrontend : s.frontend.map Endpoint.stored = s.frontend := by
    cases hcase : s.frontend with
    | none => rfl
    | some e =>
        rw [Option.map_some, Endpoint.stored, (h.frontend e hcase).2]
        exact congrArg (fun extra => some { e with extra := extra }) (h.frontend e hcase).2.symm
  rw [EndpointSet.stored, hapis, hfrontend, h.extra]
  exact congrArg (fun extra => { s with extra := extra }) h.extra.symm

namespace Registry

/-- As requests lead to them: every text is trimmed, and endpoints have no fields of their own. -/
structure Plain (r : Registry) : Prop where
  hosts : ∀ h ∈ r.hosts, h.toBackend.Trimmed
  environments : ∀ e ∈ r.environments, e.Plain
  names : ∀ a ∈ r.applications, Text.Trimmed a.name
  sets : ∀ a ∈ r.applications, ∀ p ∈ a.endpoints, p.2.Plain

theorem plain_initial : initial.Plain where
  hosts := by simp [initial]
  environments := by
    intro e he
    simp only [initial, Environment.initial, List.mem_cons, List.not_mem_nil, or_false] at he
    rcases he with rfl | rfl
    · exact ⟨rfl, rfl, rfl⟩
    · exact ⟨rfl, rfl, rfl⟩
  names := by simp [initial]
  sets := by simp [initial]

theorem Plain.changes {settings : Settings} {r r' : Registry} (hchanges : r.Changes settings r')
    (h : r.Plain) : r'.Plain := by
  cases hchanges with
  | baseDomain => exact { h with }
  | hosts hfrom => exact { h with hosts := fun a ha => (hfrom a ha).trimmed h.hosts }
  | environments hfrom =>
      exact { h with environments := fun e he => (hfrom e he).plain h.environments }
  | applications hfrom =>
      refine { h with names := fun a ha => (hfrom a ha).trimmed h.names, sets := fun a ha => ?_ }
      exact (hfrom a ha).forall_sets
        (fun _ _ _ _ hpresent => Application.plain_requestedSet hpresent) h.sets
  | provider _ hswitch =>
      rw [(switchProvider_eq_ok hswitch).2]
      exact { h with }

theorem stable_plain (settings : Settings) : Stable settings Plain where
  changes := by
    intro r r' hchanges h
    rw [refreshPatterns_eq]
    exact { h.changes hchanges with }
  stored := by
    intro r h
    refine ⟨?_, ?_, ?_, ?_⟩
    all_goals simp only [Store.advance, stored, List.forall_mem_map]
    · exact h.hosts
    · exact fun e he => ⟨(h.environments e he).name, (h.environments e he).frontendPrefix,
        (h.environments e he).apiPrefix⟩
    · exact h.names
    · intro a ha
      simp only [Application.stored, List.forall_mem_map]
      intro p hp
      rw [(h.sets a ha p hp).stored_eq]
      exact h.sets a ha p hp

end Registry

end EdgeProxy
