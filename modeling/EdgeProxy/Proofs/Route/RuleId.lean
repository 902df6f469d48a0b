import EdgeProxy.Proofs.Change.Identifiers
import EdgeProxy.Proofs.Operation.Valid
import EdgeProxy.Proofs.Registry.Targets
import EdgeProxy.Route.Config
/-!
When the identifiers of the compiled rules are unique.  The identifier of an API's rule joins the slug of
the API and the identifier of the environment by a hyphen, which may stand in both of them: the joint
does not tell where the one ends and the other begins.
-/

namespace EdgeProxy

/-- How the rule of an API in an environment ends. -/
def ruleEnd (slug environment : String) : String :=
  if slug.isEmpty then environment else slug ++ "-" ++ environment

/-- How the rule of an endpoint ends, after the identifier of the application. -/
def EndpointKind.ruleSuffix (kind : EndpointKind) (e : Environment) : String :=
  match kind with
  | .frontend => "-frontend-" ++ e.id
  | .api slug => "-api-" ++ ruleEnd slug e.id

/-- The ends of the rules of an application's endpoints. -/
def Application.ruleSuffixes (app : Application) (environments : List Environment) : List String :=
  (app.endpointsIn environments).map fun (e, kind, _) => kind.ruleSuffix e

/-- The rules of an application's endpoints. -/
def Application.ruleIds (app : Application) (environments : List Environment) : List String :=
  (app.endpointsIn environments).map fun (e, kind, _) => app.ruleId kind e

/-- Two APIs of an application in different environments whose rules have one identifier. -/
def Application.Clashes (app : Application) (environments : List Environment) : Prop :=
  ∃ e slug backend e' slug' backend', (e, .api slug, backend) ∈ app.endpointsIn environments ∧
    (e', .api slug', backend') ∈ app.endpointsIn environments ∧ e.id ≠ e'.id ∧
    ruleEnd slug e.id = ruleEnd slug' e'.id

theorem Application.ruleId_eq (app : Application) (kind : EndpointKind) (e : Environment) :
    app.ruleId kind e = app.id ++ kind.ruleSuffix e := by
  cases kind with
  | frontend => rw [ruleId, EndpointKind.ruleSuffix, String.append_assoc]
  | api slug =>
      rw [ruleId, EndpointKind.ruleSuffix, ruleEnd]
      split <;> simp only [String.append_assoc]

theorem Application.length_ruleId (app : Application) (kind : EndpointKind) (e : Environment) :
    app.id.length < (app.ruleId kind e).length := by
  have hsuffix : 0 < (kind.ruleSuffix e).length := by
    cases kind with
    | frontend =>
        rw [EndpointKind.ruleSuffix, String.length_append]
        exact Nat.add_pos_left (by decide) _
    | api slug =>
        rw [EndpointKind.ruleSuffix, String.length_append]
        exact Nat.add_pos_left (by decide) _
  rw [app.ruleId_eq, String.length_append]
  omega

theorem Application.length_of_mem_ruleIds {app : Application} {environments : List Environment}
    {id : String} (h : id ∈ app.ruleIds environments) : app.id.length < id.length := by
  obtain ⟨⟨e, kind, backend⟩, -, rfl⟩ := List.mem_map.mp h
  exact app.length_ruleId kind e

theorem Application.ruleIds_eq (app : Application) (environments : List Environment) :
    app.ruleIds environments = (app.ruleSuffixes environments).map (app.id ++ ·) := by
  rw [ruleIds, ruleSuffixes, List.map_map]
  apply List.map_congr_left
  rintro ⟨e, kind, backend⟩ -
  exact app.ruleId_eq kind e

theorem Application.nodup_ruleIds_iff (app : Application) (environments : List Environment) :
    (app.ruleIds environments).Nodup ↔ (app.ruleSuffixes environments).Nodup := by
  rw [app.ruleIds_eq]
  exact List.nodup_map_iff fun s t heq => (String.append_right_inj _).mp heq

/-- Texts of one list are told from those of the other by their length. -/
theorem nodup_append_of_length_ne {l l' : List String}
    (h : ∀ a ∈ l, ∀ b ∈ l', a.length ≠ b.length) : (l ++ l').Nodup ↔ l.Nodup ∧ l'.Nodup := by
  rw [List.nodup_append]
  constructor
  · rintro ⟨hl, hl', -⟩
    exact ⟨hl, hl'⟩
  · rintro ⟨hl, hl'⟩
    exact ⟨hl, hl', fun a ha b hb heq => h a ha b hb (congrArg String.length heq)⟩

theorem append_inj_of_length {a b s t : String} (hlength : a.length = b.length)
    (h : a ++ s = b ++ t) : a = b ∧ s = t := by
  have hlists : a.toList ++ s.toList = b.toList ++ t.toList := by
    rw [← String.toList_append, ← String.toList_append, h]
  obtain ⟨ha, hs⟩ := List.append_inj hlists hlength
  exact ⟨String.toList_inj.mp ha, String.toList_inj.mp hs⟩

theorem ruleEnd_of_ne {slug : String} (h : slug ≠ "") (environment : String) :
    ruleEnd slug environment = slug ++ ("-" ++ environment) := by
  simp [ruleEnd, h, String.append_assoc]

theorem ruleEnd_ne {slug : String} (h : slug ≠ "") (environment : String) :
    ruleEnd slug environment ≠ environment := by
  intro heq
  have hlength := congrArg String.length heq
  have hhyphen : "-".length = 1 := rfl
  rw [ruleEnd_of_ne h, String.length_append, String.length_append] at hlength
  omega

/-- In one environment the end of a rule tells the slug. -/
theorem ruleEnd_inj {slug slug' environment : String}
    (h : ruleEnd slug environment = ruleEnd slug' environment) : slug = slug' := by
  by_cases hslug : slug = ""
  · subst hslug
    by_contra hne
    exact ruleEnd_ne (Ne.symm hne) environment h.symm
  · by_cases hslug' : slug' = ""
    · subst hslug'
      exact absurd h (ruleEnd_ne hslug environment)
    · rw [ruleEnd_of_ne hslug, ruleEnd_of_ne hslug'] at h
      exact (String.append_left_inj _).mp h

theorem ruleSuffix_ne (slug : String) (e e' : Environment) :
    EndpointKind.frontend.ruleSuffix e ≠ (EndpointKind.api slug).ruleSuffix e' := by
  intro h
  have hlists := congrArg String.toList h
  simp [EndpointKind.ruleSuffix] at hlists

namespace Registry

variable {r : Registry}

/-- In a valid registry the endpoints of an application have different names. -/
theorem Valid.nodup_domains (h : r.Valid) (hbase : r.baseDomain ≠ "") {app : Application}
    (happ : app ∈ r.applications) :
    ((app.endpointsIn r.environments).map fun (e, kind, _) =>
      app.domain kind e r.baseDomain).Nodup := by
  have hnames : r.names.Nodup := by
    apply List.Nodup.of_map Text.lower
    rw [r.lower_names]
    exact h.names
  have htargets : (r.applications.flatMap fun app =>
      (app.endpointsIn r.environments).map fun (e, kind, _) =>
        app.domain kind e r.baseDomain).Sublist r.names := by
    have hempty : r.baseDomain.isEmpty = false := by simpa using hbase
    have heq : (r.applications.flatMap fun app =>
        (app.endpointsIn r.environments).map fun (e, kind, _) =>
          app.domain kind e r.baseDomain) =
        (r.applications.flatMap (·.targets r.environments r.baseDomain)).map Target.domain := by
      rw [List.map_flatMap]
      simp only [Application.targets, List.map_map]
      rfl
    rw [heq, Registry.names, allTargets, hempty, if_neg Bool.false_ne_true, List.map_append]
    exact (List.sublist_append_left _ _).trans (List.sublist_append_right _ _)
  exact (List.nodup_flatMap.mp (hnames.sublist htargets)).1 app happ

/-- In a valid registry an endpoint of an application is told by its environment and its kind. -/
theorem Valid.endpoint_unique (h : r.Valid) (hbase : r.baseDomain ≠ "") {app : Application}
    (happ : app ∈ r.applications) {e e' : Environment} {kind kind' : EndpointKind}
    {backend backend' : Backend} (hmem : (e, kind, backend) ∈ app.endpointsIn r.environments)
    (hmem' : (e', kind', backend') ∈ app.endpointsIn r.environments) (hid : e.id = e'.id)
    (hkind : kind = kind') : (e, kind, backend) = (e', kind', backend') := by
  have he : e = e' := List.inj_on_of_nodup_map h.environments
    (Application.mem_endpointsIn.mp hmem).1 (Application.mem_endpointsIn.mp hmem').1 hid
  subst he hkind
  exact List.inj_on_of_nodup_map (h.nodup_domains hbase happ) hmem hmem' rfl

/-- In a valid registry two endpoints of an application have one rule identifier exactly if they are
APIs in different environments whose slugs and environments join to one text. -/
theorem Valid.nodup_ruleSuffixes_iff (h : r.Valid) (hbase : r.baseDomain ≠ "") {app : Application}
    (happ : app ∈ r.applications) :
    (app.ruleSuffixes r.environments).Nodup ↔ ¬ app.Clashes r.environments := by
  rw [Application.ruleSuffixes,
    List.nodup_map_iff_inj_on (List.Nodup.of_map _ (h.nodup_domains hbase happ))]
  constructor
  · rintro hinj ⟨e, slug, backend, e', slug', backend', hmem, hmem', hne, hend⟩
    have heq := hinj _ hmem _ hmem' (by simp only [EndpointKind.ruleSuffix, hend])
    exact hne (congrArg (·.1.id) heq)
  · rintro hclash ⟨e, kind, backend⟩ hmem ⟨e', kind', backend'⟩ hmem' hsuffix
    cases kind with
    | frontend =>
        cases kind' with
        | frontend =>
            have hid : e.id = e'.id := (String.append_right_inj _).mp hsuffix
            exact h.endpoint_unique hbase happ hmem hmem' hid rfl
        | api slug' => exact absurd hsuffix (ruleSuffix_ne slug' e e')
    | api slug =>
        cases kind' with
        | frontend => exact absurd hsuffix.symm (ruleSuffix_ne slug e' e)
        | api slug' =>
            have hend : ruleEnd slug e.id = ruleEnd slug' e'.id :=
              (String.append_right_inj _).mp hsuffix
            by_cases hid : e.id = e'.id
            · rw [hid] at hend
              exact h.endpoint_unique hbase happ hmem hmem' hid (congrArg _ (ruleEnd_inj hend))
            · exact absurd ⟨e, slug, backend, e', slug', backend', hmem, hmem', hid, hend⟩ hclash

/-- Rules of different applications have different identifiers, if those of the applications have one
length. -/
theorem nodup_flatMap_ruleIds_iff {applications : List Application}
    {environments : List Environment} (hids : (applications.map (·.id)).Nodup) {n : Nat}
    (hlength : ∀ app ∈ applications, app.id.length = n) :
    (applications.flatMap (·.ruleIds environments)).Nodup ↔
      ∀ app ∈ applications, (app.ruleSuffixes environments).Nodup := by
  have hapart : applications.Pairwise (Function.onFun List.Disjoint (·.ruleIds environments)) := by
    apply (List.pairwise_map.mp hids).imp_of_mem
    intro app app' hmem hmem' hne
    rw [Function.onFun, app.ruleIds_eq, app'.ruleIds_eq, List.disjoint_left]
    intro id hid hid'
    obtain ⟨s, -, rfl⟩ := List.mem_map.mp hid
    obtain ⟨s', -, heq⟩ := List.mem_map.mp hid'
    have hsame : app'.id.length = app.id.length :=
      (hlength app' hmem').trans (hlength app hmem).symm
    exact hne (append_inj_of_length hsame heq).1.symm
  rw [List.nodup_flatMap]
  constructor
  · rintro ⟨h, -⟩ app hmem
    exact (app.nodup_ruleIds_iff environments).mp (h app hmem)
  · intro h
    exact ⟨fun app hmem => (app.nodup_ruleIds_iff environments).mpr (h app hmem), hapart⟩

def endpointRules (r : Registry) : List String :=
  (r.applications.filter (·.enabled)).flatMap (·.ruleIds r.environments)

def hostRules (r : Registry) : List String :=
  (r.hosts.filter fun h => h.enabled && h.isNamed r.baseDomain).map (·.id)

/-- The compiled rules are those of the system routes, of the endpoints and of the hosts. -/
theorem ruleIds_routes (r : Registry) (settings : Settings) :
    (r.compile settings).routes.map Route.ruleId =
      (systemDomains r.baseDomain).map Prod.fst ++
        ((if r.baseDomain.isEmpty then [] else r.endpointRules) ++ r.hostRules) := by
  have hroutes : (r.compile settings).routes.map Route.ruleId =
      (systemDomains r.baseDomain).map Prod.fst ++ r.targets.map Target.ruleId := by
    simp only [compile, routes, Route.systemRoutes, List.map_append, List.map_map]
    rfl
  rw [hroutes, targets, List.map_append, hostRules, List.map_map]
  congr 2
  split
  · rfl
  · rw [endpointRules, List.map_flatMap]
    simp only [Application.targets, List.map_map]
    rfl

theorem endpointIds_sublist (r : Registry) :
    ((r.applications.filter (·.enabled)).map (·.id)).Sublist r.ids :=
  (List.filter_sublist.map _).trans (List.sublist_append_left _ _)

theorem hostRules_sublist (r : Registry) : r.hostRules.Sublist r.ids :=
  (List.filter_sublist.map _).trans (List.sublist_append_right _ _)

theorem length_of_mem_endpointRules (hlength : ∀ id ∈ r.ids, id.length = 36) {id : String}
    (h : id ∈ r.endpointRules) : 36 < id.length := by
  obtain ⟨app, happ, hid⟩ := List.mem_flatMap.mp h
  have hlonger := Application.length_of_mem_ruleIds hid
  have happ : app.id ∈ r.ids := r.endpointIds_sublist.subset (List.mem_map_of_mem happ)
  rwa [hlength app.id happ] at hlonger

theorem Valid.nodup_endpointRules_iff (h : r.Valid) (hbase : r.baseDomain ≠ "") (hids : r.ids.Nodup)
    (hlength : ∀ id ∈ r.ids, id.length = 36) :
    r.endpointRules.Nodup ↔
      ∀ app ∈ r.applications, app.enabled = true → ¬ app.Clashes r.environments := by
  have hlengths : ∀ app ∈ r.applications.filter (·.enabled), app.id.length = 36 := by
    intro app happ
    exact hlength app.id (r.endpointIds_sublist.subset (List.mem_map_of_mem happ))
  rw [endpointRules, nodup_flatMap_ruleIds_iff (hids.sublist r.endpointIds_sublist) hlengths]
  simp only [List.mem_filter, and_imp]
  constructor
  · intro hnodup app happ henabled
    exact (h.nodup_ruleSuffixes_iff hbase happ).mp (hnodup app happ henabled)
  · intro hclash app happ henabled
    exact (h.nodup_ruleSuffixes_iff hbase happ).mpr (hclash app happ henabled)

/-- The compiled rules of a valid registry have different identifiers exactly if no enabled application
has APIs that clash, where identifiers of entities have the length of those that are generated. -/
theorem Valid.nodup_ruleIds_iff (h : r.Valid) (hids : r.ids.Nodup)
    (hlength : ∀ id ∈ r.ids, id.length = 36) (settings : Settings) :
    ((r.compile settings).routes.map Route.ruleId).Nodup ↔
      r.baseDomain = "" ∨
        ∀ app ∈ r.applications, app.enabled = true → ¬ app.Clashes r.environments := by
  have hhosts : r.hostRules.Nodup := hids.sublist r.hostRules_sublist
  have hhostLength : ∀ id ∈ r.hostRules, id.length = 36 := fun id hid =>
    hlength id (r.hostRules_sublist.subset hid)
  rw [ruleIds_routes]
  by_cases hbase : r.baseDomain = ""
  · rw [hbase]
    constructor
    · intro _
      exact Or.inl rfl
    · intro _
      exact hhosts
  · have hempty : r.baseDomain.isEmpty = false := by simpa using hbase
    have hsystem : (systemDomains r.baseDomain).map Prod.fst = [dashboardRule, portalRule] := by
      rw [systemDomains, hempty, if_neg Bool.false_ne_true]
      rfl
    have hnodup : [dashboardRule, portalRule].Nodup := by decide
    -- rules of endpoints are longer than those of hosts, and these longer than the system's
    rw [hempty, if_neg Bool.false_ne_true, hsystem, nodup_append_of_length_ne,
      nodup_append_of_length_ne, h.nodup_endpointRules_iff hbase hids hlength]
    · simp only [hnodup, hhosts, hbase, and_true, true_and, false_or]
    · intro a ha b hb
      have hlonger := length_of_mem_endpointRules hlength ha
      rw [hhostLength b hb]
      omega
    · intro a ha b hb
      have hshort : a.length < 36 := by
        revert a
        decide
      rcases List.mem_append.mp hb with hb | hb
      · have hlonger := length_of_mem_endpointRules hlength hb
        omega
      · rw [hhostLength b hb]
        omega

end Registry

end EdgeProxy
