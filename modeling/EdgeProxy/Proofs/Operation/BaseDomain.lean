import EdgeProxy.Proofs.Operation.References
import EdgeProxy.Proofs.Registry.Stems
import EdgeProxy.Proofs.Route.Stored
/-!
Setting the first base domain.  While there is none, names below it are not compared; they are when it is
set.  So it can be set exactly if no two of them are equal, and then everything that is enabled is routed
under a name of its own.
-/

namespace EdgeProxy

namespace Registry

variable {r : Registry} {d : String}

theorem violations_refreshPatterns (r : Registry) : r.refreshPatterns.violations = r.violations := by
  rw [refreshPatterns_eq]
  rfl

/-- If two stems are equal, it is reported for one such stem how many there are. -/
theorem violations_setBaseDomain (hnamed : r.WellNamed) (hd : Hostname.isDomainText d = true)
    (hvalid : r.Valid) (hunset : r.baseDomain = "") (hnone : r.NoneBelow d)
    (hrepeated : ¬ r.stems.Nodup) :
    ∃ stem rest, 1 < r.stems.count stem ∧ (r.setBaseDomain d).violations =
      .domainInUse (stem ++ "." ++ d) (r.stems.count stem) :: rest := by
  have hbefore := (violations_eq_nil_iff r).mpr hvalid
  simp only [violations, List.append_eq_nil_iff] at hbefore
  obtain ⟨⟨⟨⟨henvironments, hdefaults⟩, hslugs⟩, hhosts⟩, -⟩ := hbefore
  -- Only the last of the checks looks at the base domain.
  have hdomains : (r.setBaseDomain d).violations = (r.setBaseDomain d).domainViolations := by
    have hrest : (r.setBaseDomain d).violations = r.environmentViolations ++ r.defaultViolations ++
        r.slugViolations ++ r.hostViolations ++ (r.setBaseDomain d).domainViolations := rfl
    rw [hrest, henvironments, hdefaults, hslugs, hhosts]
    rfl
  cases hviolations : (r.setBaseDomain d).violations with
  | nil =>
      have hafter := (violations_eq_nil_iff _).mp hviolations
      exact absurd ((valid_setBaseDomain_iff hnamed hd hvalid hunset hnone).mp hafter) hrepeated
  | cons v rest =>
      have hmem : v ∈ (r.setBaseDomain d).domainViolations := by
        rw [← hdomains, hviolations]
        exact List.mem_cons_self
      obtain ⟨⟨name, rules⟩, hcollision, rfl⟩ := List.mem_map.mp hmem
      obtain ⟨hseveral, hcount⟩ := length_of_mem_collisions (List.mem_mergeSort.mp hcollision)
      rw [claims_setBaseDomain hnamed hd] at hcount
      rw [hcount] at hseveral
      obtain ⟨stem, rfl, hstem⟩ :=
        count_names_setBaseDomain hnamed hd hvalid hunset hnone hseveral
      refine ⟨stem, rest, hstem ▸ hseveral, ?_⟩
      rw [← hstem, ← hcount]

/-- Under a base domain, the names of all routes are distinct, and everything that is enabled and named
below it is routed under its stem. -/
structure RoutedBelow (r : Registry) (settings : Settings) (d : String) (routes : List Route) :
    Prop where
  distinct : (routes.map Route.domain).Nodup
  hosts : ∀ h ∈ r.hosts, h.enabled = true → isGiven h.customDomain = false →
    Route.ofTarget settings d (h.target d) ∈ routes ∧ h.domain d = h.stem ++ "." ++ d
  endpoints : ∀ app ∈ r.applications, app.enabled = true → ∀ p ∈ app.endpoints,
    ∀ kind backend, (kind, backend) ∈ p.2.endpoints → ∃ e ∈ r.environments, e.id = p.1 ∧
      Route.ofTarget settings d (app.target d e kind backend) ∈ routes ∧
      app.domain kind e d = app.stem kind e ++ "." ++ d

theorem routedBelow_setBaseDomain (hwell : r.WellFormed) (hnamed : r.WellNamed)
    (hrefs : r.ReferencesHold) (hd : Hostname.isDomainText d = true)
    (hvalid : (r.setBaseDomain d).Valid) (settings : Settings) :
    r.RoutedBelow settings d ((r.setBaseDomain d).routes settings) := by
  have hne := Hostname.ne_empty_of_isDomainText hd
  have hroute : ∀ t ∈ (r.setBaseDomain d).targets,
      Route.ofTarget settings d t ∈ (r.setBaseDomain d).routes settings :=
    fun t ht => List.mem_append_right _ (List.mem_map_of_mem ht)
  refine ⟨?_, ?_, ?_⟩
  · have horder := hvalid.inOrder settings
    exact (horder.names.of_map _).sublist horder.routes
  · intro h hmem henabled hcustom
    have hname := (hnamed.isStem_host hmem hcustom).name
    have htarget : h.target d ∈ (r.setBaseDomain d).targets := by
      refine mem_targets.mpr (.inr ⟨h, hmem, henabled, ?_, rfl⟩)
      simpa [Host.isNamed, setBaseDomain] using .inr hne
    exact ⟨hroute _ htarget, (Host.domain_eq_stem hcustom d).trans (lower_below hname hd)⟩
  · intro app happ henabled p hp kind backend hendpoint
    obtain ⟨e, he, hid⟩ := List.mem_map.mp
      (hrefs.environments app happ p.1 (List.mem_map_of_mem hp))
    have hset : app.endpointSet? e.id = some p.2 :=
      lookup_of_mem_of_nodup (hwell.applications app happ).environments (hid ▸ hp)
    have hmem := Application.mem_endpointsIn.mpr ⟨he, p.2, hset, hendpoint⟩
    have htarget : app.target d e kind backend ∈ (r.setBaseDomain d).targets :=
      mem_targets.mpr (.inl ⟨hne, app, happ, henabled, e, kind, backend, hmem, rfl⟩)
    have hname := (hnamed.isStem_endpoint happ hmem).name
    exact ⟨e, he, hid, hroute _ htarget, (app.domain_eq_stem kind e d).trans (lower_below hname hd)⟩

end Registry

/-- An edit whose result has a violation is turned down with the first one. -/
theorem changed_of_violation {edit : Edit} {supply left : Supply} {r edited : Registry}
    {subject : Subject} {v : Violation} {rest : List Violation}
    (hedit : edit supply r = (.ok (edited, subject), left)) (h : edited.violations = v :: rest) :
    changed edit supply r = (.error (.rejected (.violation v)), left) := by
  rw [changed, hedit]
  simp only [Registry.checked, Registry.violations_refreshPatterns, h]
  rfl

namespace World

/-- How setting the first base domain ends: with success exactly if no two stems are equal, and then
everything that is enabled is routed below it; otherwise it is said of one name how often it is in use,
and nothing happens. -/
structure TakesDomain (settings : Settings) (r : Registry) (value : Json) (d : String) (w : World) :
    Prop where
  succeeds : w.Admits settings r.version →
    ((Operation.setBaseDomain value).Succeeds settings w ↔ r.stems.Nodup)
  distinct : w.Admits settings r.version → r.stems.Nodup →
    ∃ answer w' r', (Operation.setBaseDomain value).run settings w = (.ok answer, w') ∧
      answer.isSuccess = true ∧ w'.Ready settings r' ∧ r'.baseDomain = d ∧
      r.RoutedBelow settings d (r'.compile settings).routes
  repeated : ¬ r.stems.Nodup → ∃ stem w', 1 < r.stems.count stem ∧
    (Operation.setBaseDomain value).run settings w = (.ok (.refused (.rejected (.violation
      (.domainInUse (stem ++ "." ++ d) (r.stems.count stem))))), w') ∧ w.Untouched w'

section FirstDomain

variable {settings : Settings} {w : World} {r : Registry} {value : Json} {d : String}
  (hready : w.Ready settings r) (hnamed : r.WellNamed) (hvalid : r.Valid)
  (hunset : r.baseDomain = "") (hrequest : Request.baseDomain value = .ok d)
  (hnone : r.NoneBelow d)

include hready hnamed hvalid hunset hrequest hnone

theorem Ready.setBaseDomain_distinct (hrefs : r.ReferencesHold)
    (hadmits : w.Admits settings r.version) (hdistinct : r.stems.Nodup) :
    ∃ answer w' r', (Operation.setBaseDomain value).run settings w = (.ok answer, w') ∧
      answer.isSuccess = true ∧ w'.Ready settings r' ∧ r'.baseDomain = d ∧
      r.RoutedBelow settings d (r'.compile settings).routes := by
  have hd := Request.isDomainText_of_baseDomain hrequest
  have hedits := @Operation.Edits.setBaseDomain settings w.supply value d hrequest
  have hafter := (Registry.valid_setBaseDomain_iff hnamed hd hvalid hunset hnone).mpr hdistinct
  obtain ⟨answer, w', hrun, hsuccess, hready'⟩ := hedits.succeeds hready hadmits rfl hafter
  have hwell := Store.wellFormed_of_load (hready.load w.supply)
  have hrouted := Registry.routedBelow_setBaseDomain hwell hnamed hrefs hd hafter settings
  refine ⟨answer, w', _, hrun, hsuccess, hready', ?_, ?_⟩
  · rw [Registry.refreshPatterns_eq]
    rfl
  · rw [Registry.compile_stored, Registry.refreshPatterns_eq]
    exact hrouted

theorem Ready.setBaseDomain_repeated (hrepeated : ¬ r.stems.Nodup) :
    ∃ stem w', 1 < r.stems.count stem ∧
      (Operation.setBaseDomain value).run settings w = (.ok (.refused (.rejected (.violation
        (.domainInUse (stem ++ "." ++ d) (r.stems.count stem))))), w') ∧ w.Untouched w' := by
  have hd := Request.isDomainText_of_baseDomain hrequest
  have hedits := @Operation.Edits.setBaseDomain settings w.supply value d hrequest
  obtain ⟨stem, rest, hseveral, hviolations⟩ :=
    Registry.violations_setBaseDomain hnamed hd hvalid hunset hnone hrepeated
  obtain ⟨w', hrun, huntouched⟩ := hedits.refused hready (changed_of_violation rfl hviolations)
  exact ⟨stem, w', hseveral, hrun, huntouched⟩

theorem Ready.takesDomain (hrefs : r.ReferencesHold) : w.TakesDomain settings r value d := by
  have hdistinct := hready.setBaseDomain_distinct hnamed hvalid hunset hrequest hnone hrefs
  have hrepeated := hready.setBaseDomain_repeated hnamed hvalid hunset hrequest hnone
  refine ⟨fun hadmits => ⟨?_, fun hstems => ?_⟩, hdistinct, hrepeated⟩
  · rintro ⟨answer, w', hrun, hsuccess⟩
    by_contra hequal
    obtain ⟨stem, w'', -, hrefused, -⟩ := hrepeated hequal
    rw [hrun] at hrefused
    cases hrefused
    cases hsuccess
  · obtain ⟨answer, w', -, hrun, hsuccess, -⟩ := hdistinct hadmits hstems
    exact ⟨answer, w', hrun, hsuccess⟩

end FirstDomain

end World

namespace Twins

/-- The payload of a host that is named by a subdomain. -/
def payload : Json :=
  .obj [("targetHost", .str "10.0.0.1"), ("targetPort", .int 8080), ("subdomain", .str "nas")]

/-- The host that is asked for. -/
def draft : Host.Draft :=
  ⟨⟨"10.0.0.1", ⟨8080, by decide, by decide⟩, false, false⟩, some "nas", none⟩

/-- The host that is added with a name of the supply. -/
def host (n : Nat) : Host := .ofDraft draft ((Clash.supply n).name n) (Clash.supply n).timestamp

/-- The registry that holds some hosts, and no base domain. -/
def registry (version : Int) (hosts : List Host) : Registry :=
  { Registry.initial with version := version, hosts := hosts }

theorem shelved_first {w : World} (h : Clash.Shelved .initial 0 w) :
    Clash.Shelved (registry 1 [host 0]) 1
      ((Operation.addHost payload).run Clash.settings (w.within World.offline)).2 := by
  have hdraft : Host.draft payload = .ok draft := rfl
  have hvalid : (registry 0 [host 0]).Valid :=
    ⟨by decide, by decide, by decide, by decide, by decide⟩
  exact h.changes (by decide) (.addHost hdraft) rfl rfl hvalid

theorem shelved_second {w : World} (h : Clash.Shelved (registry 1 [host 0]) 1 w) :
    Clash.Shelved (registry 2 [host 0, host 1]) 2
      ((Operation.addHost payload).run Clash.settings (w.within World.offline)).2 := by
  have hdraft : Host.draft payload = .ok draft := rfl
  have hvalid : (registry 1 [host 0, host 1]).Valid :=
    ⟨by decide, by decide, by decide, by decide, by decide⟩
  exact h.changes (by decide) (.addHost hdraft) rfl rfl hvalid

/-- One host is added. -/
def first : List (Surroundings × Operation) := [(World.offline, .addHost payload)]

/-- The host is added twice. -/
def both : List (Surroundings × Operation) :=
  [(World.offline, .addHost payload), (World.offline, .addHost payload)]

theorem shelved_after_first :
    Clash.Shelved (registry 1 [host 0]) 1 (Clash.start.history Clash.settings first) := by
  rw [first, World.history_cons, World.history_nil]
  exact shelved_first Clash.shelved_start

theorem shelved_after_both :
    Clash.Shelved (registry 2 [host 0, host 1]) 2 (Clash.start.history Clash.settings both) := by
  rw [both, World.history_cons, World.history_cons, World.history_nil]
  exact shelved_second (shelved_first Clash.shelved_start)

theorem noneBelow_registry (version : Int) {hosts : List Host}
    (h : ∀ host ∈ hosts, host.customDomain = none) (d : String) :
    (registry version hosts).NoneBelow d := by
  intro host hhost label hown
  rw [h host hhost] at hown
  cases hown

end Twins

namespace Household

/-- The payload of an application with one API. -/
def shopPayload : Json :=
  .obj [("name", .str "Shop"), ("slug", .str "shop"), ("endpoints", .obj [("dev", Clash.apiPayload "a")])]

/-- The application that is added after the first host. -/
def shop : Application :=
  ⟨(Clash.supply 1).name 1, "Shop", "shop", true, (Clash.supply 1).timestamp,
    [("dev", Clash.endpoints "a")], []⟩

/-- The payload of a host with a domain of its own. -/
def cameraPayload : Json :=
  .obj [("targetHost", .str "10.0.0.1"), ("targetPort", .int 8080), ("customDomain", .str "cam.example.net")]

def cameraDraft : Host.Draft := ⟨Twins.draft.backend, none, some "cam.example.net"⟩

/-- The host that is added last. -/
def camera : Host := .ofDraft cameraDraft ((Clash.supply 2).name 2) (Clash.supply 2).timestamp

/-- The registry that holds some applications and hosts, and no base domain. -/
def registry (version : Int) (applications : List Application) (hosts : List Host) : Registry :=
  { Registry.initial with version := version, applications := applications, hosts := hosts }

/-- A host and an application are added. -/
def opening : List (Surroundings × Operation) :=
  [(World.offline, .addHost Twins.payload), (World.offline, .addApplication shopPayload)]

/-- A host, an application and another host are added. -/
def steps : List (Surroundings × Operation) :=
  opening ++ [(World.offline, .addHost cameraPayload)]

theorem shelved_application {w : World} (h : Clash.Shelved (Twins.registry 1 [Twins.host 0]) 1 w) :
    Clash.Shelved (registry 2 [shop] [Twins.host 0]) 2
      ((Operation.addApplication shopPayload).run Clash.settings (w.within World.offline)).2 := by
  have hdraft : Application.draft shopPayload =
      .ok ⟨.str "Shop", "shop", [("dev", Clash.apiPayload "a")]⟩ := rfl
  have hvalid : (registry 1 [shop] [Twins.host 0]).Valid :=
    ⟨by decide, by decide, by decide, by decide, by decide⟩
  exact h.changes (by decide) (.addApplication hdraft) rfl rfl hvalid

theorem shelved_camera {w : World} (h : Clash.Shelved (registry 2 [shop] [Twins.host 0]) 2 w) :
    Clash.Shelved (registry 3 [shop] [Twins.host 0, camera]) 3
      ((Operation.addHost cameraPayload).run Clash.settings (w.within World.offline)).2 := by
  have hdraft : Host.draft cameraPayload = .ok cameraDraft := rfl
  have hvalid : (registry 2 [shop] [Twins.host 0, camera]).Valid :=
    ⟨by decide, by decide, by decide, by decide, by decide⟩
  exact h.changes (by decide) (.addHost hdraft) rfl rfl hvalid

theorem shelved_after_opening :
    Clash.Shelved (registry 2 [shop] [Twins.host 0]) 2 (Clash.start.history Clash.settings opening) := by
  rw [opening, World.history_cons, World.history_cons, World.history_nil]
  exact shelved_application (Twins.shelved_first Clash.shelved_start)

theorem shelved_after_steps :
    Clash.Shelved (registry 3 [shop] [Twins.host 0, camera]) 3 (Clash.start.history Clash.settings steps) := by
  rw [steps, opening, List.cons_append, List.cons_append, List.nil_append, World.history_cons, World.history_cons,
    World.history_cons, World.history_nil]
  exact shelved_camera (shelved_application (Twins.shelved_first Clash.shelved_start))

theorem noneBelow_registry : (registry 3 [shop] [Twins.host 0, camera]).NoneBelow "example.org" := by
  intro host hhost label hown
  rcases List.mem_cons.mp hhost with rfl | hcamera
  · cases hown
  · rw [List.mem_singleton.mp hcamera] at hown
    have hlast := congrArg (fun s => s.toList.getLast?) (Option.some.inj hown)
    simp [String.toList_append, List.getLast?_append] at hlast

end Household

namespace World

/-- What is stored wherever operations lead is valid, its names follow their grammar, and no reference in
it dangles. -/
theorem Reachable.sound {path : Path} {w : World} (hreach : Reachable path w) :
    ∃ r : Registry, (∀ supply, Store.load supply w.files path = (.ok r, supply)) ∧
      (∀ settings : Settings, settings.registryPath = path → w.Ready settings r) ∧
      r.Valid ∧ r.WellNamed ∧ r.ReferencesHold :=
  hreach.ready
    (fun settings => (Registry.stable_wellNamed settings).and (Registry.stable_referencesHold settings))
    ⟨Registry.wellNamed_initial, Registry.referencesHold_initial⟩

/-- Wherever operations lead, as long as no base domain is set: any can be set that no host has a domain
below, exactly if no two names below it are equal. -/
theorem first_base_domain_can_be_set_iff_names_differ {path : Path} {w : World}
    (hreach : Reachable path w) :
    ∃ r : Registry, (∀ supply, Store.load supply w.files path = (.ok r, supply)) ∧
      (r.baseDomain = "" → ∀ (settings : Settings) (s : Surroundings) (value : Json) (d : String),
        settings.registryPath = path → Request.baseDomain value = .ok d → r.NoneBelow d →
          (w.within s).TakesDomain settings r value d) := by
  obtain ⟨r, hload, hready, hvalid, hnamed, hrefs⟩ := hreach.sound
  refine ⟨r, hload, ?_⟩
  intro hunset settings s value d hpath hrequest hnone
  have hwithin := (hready settings hpath).of_content_eq (content?_within s w _)
  exact hwithin.takesDomain hnamed hvalid hunset hrequest hnone hrefs

theorem first_base_domain_can_be_set_household :
    Reachable Clash.shelf (Clash.start.history Clash.settings Household.steps) ∧
      ∃ r : Registry, (∀ supply, Store.load supply
          (Clash.start.history Clash.settings Household.steps).files Clash.shelf = (.ok r, supply)) ∧
        r.baseDomain = "" ∧ Request.baseDomain (.str "example.org") = .ok "example.org" ∧
        r.NoneBelow "example.org" ∧ r.stems = ["shop-a.api.dev", "nas"] ∧
        (Operation.setBaseDomain (.str "example.org")).Succeeds
          Clash.settings ((Clash.start.history Clash.settings Household.steps).within offline) := by
  have hreach := reachable_start Household.steps
  obtain ⟨r, hload, htakes⟩ := first_base_domain_can_be_set_iff_names_differ hreach
  have hshelved := Household.shelved_after_steps
  obtain rfl := hshelved.ready.unique hload
  have hrequest : Request.baseDomain (.str "example.org") = .ok "example.org" := rfl
  have hnone := Household.noneBelow_registry
  have hdomain := htakes rfl Clash.settings offline _ _ rfl hrequest hnone
  have hsucceeds := (hdomain.succeeds (hshelved.admits (by decide))).mpr (by decide)
  exact ⟨hreach, _, hload, rfl, hrequest, hnone, rfl, hsucceeds⟩

/-- Two hosts can be stored under one subdomain while no base domain is set; then none can be set. -/
theorem first_base_domain_can_be_refused :
    Reachable Clash.shelf (Clash.start.history Clash.settings Twins.both) ∧
      ∃ r : Registry, (∀ supply, Store.load supply
          (Clash.start.history Clash.settings Twins.both).files Clash.shelf = (.ok r, supply)) ∧
        r.baseDomain = "" ∧ Request.baseDomain (.str "example.org") = .ok "example.org" ∧
        r.NoneBelow "example.org" ∧
        ((Clash.start.history Clash.settings Twins.both).within offline).Admits Clash.settings
          r.version ∧
        ¬ (Operation.setBaseDomain (.str "example.org")).Succeeds Clash.settings
          ((Clash.start.history Clash.settings Twins.both).within offline) := by
  have hreach := reachable_start Twins.both
  have hshelved := Twins.shelved_after_both
  have hnone : (Twins.registry 2 [Twins.host 0, Twins.host 1]).NoneBelow "example.org" :=
    Twins.noneBelow_registry 2 (by decide) _
  have hrequest : Request.baseDomain (.str "example.org") = .ok "example.org" := rfl
  have hadmits := hshelved.admits (by decide)
  obtain ⟨r, hload, -, hvalid, hnamed, hrefs⟩ := hreach.sound
  obtain rfl := hshelved.ready.unique hload
  have hdomain := hshelved.ready_within.takesDomain hnamed hvalid rfl hrequest hnone hrefs
  refine ⟨hreach, _, hload, rfl, hrequest, hnone, hadmits, fun hsucceeds => ?_⟩
  have hdistinct := (hdomain.succeeds hadmits).mp hsucceeds
  revert hdistinct
  decide

end World

end EdgeProxy
