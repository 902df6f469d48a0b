import EdgeProxy.Proofs.Operation.Identifiers
import EdgeProxy.Proofs.Route.RuleId
/-!
Identifiers of compiled rules over a history that begins where nothing is stored.  They are unique
exactly as long as no enabled application has APIs that clash; and such APIs can be asked for.
-/

namespace EdgeProxy

/-- What is known of the names that a supply has given: they have 36 characters, and none was given
twice. -/
structure Supply.Generates (s : Supply) : Prop where
  distinct : s.Distinct
  length : ∀ i < s.used, (s.name i).length = 36

namespace Clash

/-- A place right below the root. -/
def shelf : Path := ⟨"/", ["registry.json"]⟩

/-- The registry is stored on the shelf. -/
def settings : Settings := { Settings.standard with registryPath := shelf }

/-- A supply that has given so many names. -/
def supply (used : Nat) : Supply :=
  ⟨fun n => String.ofList (List.replicate 36 (Text.digitChar n)), used, ⟨0⟩⟩

/-- An environment whose identifier ends in that of another one. -/
def environment : Environment := ⟨"x-dev", "x dev", "x.dev", "api.x.dev", false, []⟩

def apiPayload (slug : String) : Json :=
  .obj [("apis", .arr [.obj [("slug", .str slug), ("targetHost", .str "10.0.0.1"),
    ("targetPort", .int 80)]])]

/-- The application that is asked for. -/
def draft : Application.Draft :=
  ⟨.str "Shop", "shop", [("dev", apiPayload "a-x"), ("x-dev", apiPayload "a")]⟩

def endpoints (slug : String) : EndpointSet :=
  ⟨none, [⟨⟨"10.0.0.1", ⟨80, by decide, by decide⟩, false, false⟩, slug, []⟩], []⟩

def application : Application :=
  ⟨(supply 0).name 0, "Shop", "shop", true, (supply 0).timestamp,
    [("dev", endpoints "a-x"), ("x-dev", endpoints "a")], []⟩

/-- The registry after the base domain is set, after the environment is added, and after the
application is. -/
def registry (version : Int) (environments : List Environment) (applications : List Application) :
    Registry :=
  ⟨3, version, "example.org", Environment.initial ++ environments, applications, [], .off, []⟩

/-- The base domain is set, an environment is added, and an application with an API in each of two
environments. -/
def steps : List (Surroundings × Operation) :=
  [(World.offline, .setBaseDomain (.str "example.org")),
    (World.offline, .addEnvironment (.obj [("name", .str "x dev"), ("prefix", .str "x.dev"),
      ("apiPrefix", .str "api.x.dev")])),
    (World.offline, .addApplication (.obj [("name", .str "Shop"), ("slug", .str "shop"),
      ("endpoints", .obj draft.endpoints)]))]

/-- A world with nothing stored or with a registry on the shelf. -/
structure Shelved (r : Registry) (used : Nat) (w : World) : Prop where
  ready : w.Ready settings r
  entries : w.files.entries = [] ∨ ∃ bytes, w.files.entries = [(shelf, .file bytes)]
  supply : w.supply = supply used

theorem replace_shelf (files : Files)
    (hentries : files.entries = [] ∨ ∃ bytes, files.entries = [(shelf, .file bytes)])
    (hrefuses : files.refuses = fun _ => none) (bytes : List UInt8) :
    files.replace shelf bytes = (.ok (), ⟨[(shelf, .file bytes)], fun _ => none⟩) :=
  files.replace_alone hentries hrefuses bytes

/-- A valid change is written where there is nothing but the registry on the shelf. -/
theorem saves_on_shelf {settings : Settings} (hpath : settings.registryPath = shelf) {op : Operation}
    {edit : Edit} {r r' : Registry} {subject : Subject} {read drawn : Supply} {w : World}
    (hready : w.Ready settings r)
    (hentries : w.files.entries = [] ∨ ∃ bytes, w.files.entries = [(shelf, .file bytes)])
    (hrefuses : w.files.refuses = fun _ => none) (hedits : op.Edits settings w.supply read edit)
    (hedit : edit read r = (.ok (r', subject), drawn)) (hpatterns : r'.refreshPatterns = r')
    (hvalid : r'.Valid) (hwritable : (Store.advance r').encode.isWritable = true) :
    (op.run settings w).2.Ready settings (Store.advance r').stored ∧
      (∃ bytes, (op.run settings w).2.files.entries = [(shelf, .file bytes)]) ∧
      (op.run settings w).2.supply = drawn := by
  obtain ⟨message, hrun⟩ := hedits.run_eq
  have hsame : op.run settings w = { w with supply := read }.mutate settings message edit :=
    hrun settings.adminUrl
  have hread : { w with supply := read }.Ready settings r := hready.of_content_eq rfl
  have hchanged : changed edit read r = (.ok (r', subject), drawn) :=
    changed_eq_ok.mpr ⟨r', hedit, hpatterns.symm, (Registry.violations_eq_nil_iff _).mpr hvalid⟩
  have hmade : w.files.makeDirectories settings.registryPath.parent = .ok w.files := by
    rw [hpath]
    rfl
  have hreplace := replace_shelf w.files hentries hrefuses (Text.encode (Store.advance r').fileText)
  rw [← hpath] at hreplace
  obtain ⟨hfiles, hdrawn, hnext⟩ :=
    hread.mutate hedits.sound message hchanged hmade hwritable hreplace
  rw [hpath] at hfiles
  rw [hsame]
  exact ⟨hnext, ⟨_, congrArg Files.entries hfiles⟩, hdrawn⟩

theorem Shelved.supply_within {r : Registry} {used : Nat} {w : World} (h : Shelved r used w) :
    (w.within World.offline).supply = Clash.supply used := by
  have hwithin : (w.within World.offline).supply = { w.supply with now := ⟨0⟩ } := rfl
  rw [hwithin, h.supply]
  rfl

theorem Shelved.ready_within {r : Registry} {used : Nat} {w : World} (h : Shelved r used w) :
    (w.within World.offline).Ready settings r :=
  h.ready.of_content_eq (World.content?_within _ _ _)

/-- A valid change of what is on the shelf is written. -/
theorem Shelved.saves {op : Operation} {edit : Edit} {r r' : Registry} {subject : Subject}
    {used used' : Nat} {read : Supply} {w : World} (h : Shelved r used w)
    (hedits : op.Edits settings (Clash.supply used) read edit)
    (hedit : edit read r = (.ok (r', subject), Clash.supply used'))
    (hpatterns : r'.refreshPatterns = r') (hvalid : r'.Valid)
    (hwritable : (Store.advance r').encode.isWritable = true) :
    Shelved (Store.advance r').stored used' (op.run settings (w.within World.offline)).2 := by
  rw [← h.supply_within] at hedits
  obtain ⟨hready, hentries, hdrawn⟩ := saves_on_shelf rfl h.ready_within h.entries rfl hedits hedit
    hpatterns hvalid hwritable
  exact ⟨hready, .inr hentries, hdrawn⟩

theorem isWritable_registry (n : Nat) (hn : n < 100) (environments : List Environment)
    (henvironments : environments = [] ∨ environments = [environment])
    (applications : List Application) (happlications : applications = [] ∨ applications = [application]) :
    (registry n environments applications).encode.isWritable = true := by
  rcases henvironments with rfl | rfl <;> rcases happlications with rfl | rfl <;>
    simp [Registry.encode, Registry.encodeFields, registry, environment, application, endpoints,
      Environment.initial, Environment.encode, Application.encode, EndpointSet.encode, Api.encode,
      Backend.encode, WildcardProvider.encode, WildcardProvider.encodeFields, WildcardProvider.off,
      kept, Json.finiteFields, Json.texts, Json.isWritable_obj, Json.isWritable_arr,
      Json.isWritable_str, Json.isWritable_bool, Json.isWritable_null, Json.isWritable_int,
      Json.writableItems, Json.writableFields, hn]

/-- Where nothing is stored. -/
def start : World := ⟨.empty, ⟨.fresh, fun _ => .found [], .safe, []⟩, fun _ => .refused, [], supply 0⟩

theorem shelved_start : Shelved .initial 0 start where
  ready := World.ready_initial rfl
  entries := Or.inl rfl
  supply := rfl

theorem shelved_domain {w : World} (h : Shelved .initial 0 w) :
    Shelved (registry 1 [] []) 0
      (Operation.run settings (.setBaseDomain (.str "example.org")) (w.within World.offline)).2 := by
  have hrequest : Request.baseDomain (.str "example.org") = .ok "example.org" := rfl
  have hedits := @Operation.Edits.setBaseDomain settings (supply 0) _ _ hrequest
  have hvalid : (registry 0 [] []).Valid :=
    ⟨by decide, by decide, by decide, by simp [registry], by decide⟩
  exact h.saves hedits rfl rfl hvalid
    (isWritable_registry 1 (by decide) [] (Or.inl rfl) [] (Or.inl rfl))

theorem shelved_environment {w : World} (h : Shelved (registry 1 [] []) 0 w) :
    Shelved (registry 2 [environment] []) 0
      (Operation.run settings (.addEnvironment (.obj [("name", .str "x dev"), ("prefix", .str "x.dev"),
        ("apiPrefix", .str "api.x.dev")])) (w.within World.offline)).2 := by
  have hrequest : Environment.requested (.obj [("name", .str "x dev"), ("prefix", .str "x.dev"),
      ("apiPrefix", .str "api.x.dev")]) = .ok environment := rfl
  have hedits := @Operation.Edits.addEnvironment settings (supply 0) _ _ hrequest
  have hvalid : (registry 1 [environment] []).Valid :=
    ⟨by decide, by decide, by decide, by simp [registry], by decide⟩
  exact h.saves hedits rfl rfl hvalid
    (isWritable_registry 2 (by decide) [environment] (Or.inr rfl) [] (Or.inl rfl))

theorem shelved_application {w : World} (h : Shelved (registry 2 [environment] []) 0 w) :
    Shelved (registry 3 [environment] [application]) 1
      (Operation.run settings (.addApplication (.obj [("name", .str "Shop"), ("slug", .str "shop"),
        ("endpoints", .obj draft.endpoints)])) (w.within World.offline)).2 := by
  have hrequest : Application.draft (.obj [("name", .str "Shop"), ("slug", .str "shop"),
      ("endpoints", .obj draft.endpoints)]) = .ok draft := rfl
  have hedits := @Operation.Edits.addApplication settings (supply 0) _ _ hrequest
  have hvalid : (registry 2 [environment] [application]).Valid :=
    ⟨by decide, by decide, by decide, by simp [registry, application], by decide⟩
  exact h.saves hedits rfl rfl hvalid
    (isWritable_registry 3 (by decide) [environment] (Or.inr rfl) [application] (Or.inr rfl))

theorem shelved_history :
    Shelved (registry 3 [environment] [application]) 1 (start.history settings steps) := by
  rw [steps, World.history_cons, World.history_cons, World.history_cons, World.history_nil]
  exact shelved_application (shelved_environment (shelved_domain shelved_start))

theorem generates_history : (start.history settings steps).supply.Generates := by
  rw [shelved_history.supply]
  constructor
  · intro i j hi hj _
    have hi : i < 1 := hi
    have hj : j < 1 := hj
    omega
  · intro i _
    exact String.length_ofList.trans List.length_replicate

end Clash

namespace World

/-- After any history from nothing, the compiled rules have different identifiers exactly if no enabled
application has, in two environments, APIs whose slug and environment join to one text. -/
theorem rule_ids_unique_iff_no_clash {settings : Settings} {w : World}
    (hnone : w.files.content? settings.registryPath = none)
    (steps : List (Surroundings × Operation))
    (hids : (w.history settings steps).supply.Generates) :
    ∃ r, (∀ supply, Store.load supply (w.history settings steps).files settings.registryPath =
        (.ok r, supply)) ∧
      (((r.compile settings).routes.map Route.ruleId).Nodup ↔
        r.baseDomain = "" ∨
          ∀ app ∈ r.applications, app.enabled = true → ¬ app.Clashes r.environments) := by
  obtain ⟨r, h⟩ := tracks_history hnone steps
  have hlength : ∀ id ∈ r.ids, id.length = 36 := by
    intro id hid
    obtain ⟨i, hi, rfl⟩ := h.drawn id hid
    exact hids.length i hi
  exact ⟨r, h.load, h.valid.nodup_ruleIds_iff (h.nodup hids.distinct) hlength settings⟩

theorem rule_ids_unique_iff_no_clash_at_clash :
    Clash.start.files.content? Clash.settings.registryPath = none ∧
      (Clash.start.history Clash.settings Clash.steps).supply.Generates ∧
      ∃ r, (∀ supply, Store.load supply (Clash.start.history Clash.settings Clash.steps).files
          Clash.settings.registryPath = (.ok r, supply)) ∧
        (((r.compile Clash.settings).routes.map Route.ruleId).Nodup ↔
          r.baseDomain = "" ∨
            ∀ app ∈ r.applications, app.enabled = true → ¬ app.Clashes r.environments) := by
  have hnone : Clash.start.files.content? Clash.settings.registryPath = none := rfl
  exact ⟨hnone, Clash.generates_history,
    rule_ids_unique_iff_no_clash hnone Clash.steps Clash.generates_history⟩

/-- Rules of two APIs with one identifier, although no name was given twice. -/
theorem rule_ids_repeat :
    Clash.start.files.content? Clash.settings.registryPath = none ∧
      (Clash.start.history Clash.settings Clash.steps).supply.Generates ∧
      ∃ r, (∀ supply, Store.load supply (Clash.start.history Clash.settings Clash.steps).files
          Clash.settings.registryPath = (.ok r, supply)) ∧
        ¬ ((r.compile Clash.settings).routes.map Route.ruleId).Nodup := by
  refine ⟨rfl, Clash.generates_history, Clash.registry 3 [Clash.environment] [Clash.application],
    Clash.shelved_history.ready.load, ?_⟩
  have hids : ((Clash.registry 3 [Clash.environment] [Clash.application]).compile
      Clash.settings).routes.map Route.ruleId =
      ["system-dashboard", "system-auth",
        String.ofList (List.replicate 36 '0') ++ "-api-a-x-dev",
        String.ofList (List.replicate 36 '0') ++ "-api-a-x-dev"] := by
    rfl
  rw [hids]
  decide

end World

end EdgeProxy
