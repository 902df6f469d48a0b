import EdgeProxy.Proofs.Change.Again
import EdgeProxy.Proofs.Operation.Names
import EdgeProxy.Proofs.Operation.Plain
import EdgeProxy.Proofs.Operation.References
import EdgeProxy.Proofs.Operation.Again
/-!
Entities that are updated by what is listed of them.  What is stored is read back from its own fields as it is,
wherever operations lead; so a client that reads an entity and writes it back as it is changes nothing.
-/

namespace EdgeProxy

/-- A step of an update whose value is what is there already. -/
theorem Payload.whenGiven_self {α : Type} {act : Json → α → Requested α} {fields : Fields} {key : String}
    {v : Json} {a : α} (hgiven : fields.get? key = some v) (hact : act v a = .ok a) :
    Payload.whenGiven (.obj fields) key act a = .ok a := by
  rw [Payload.whenGiven, Payload.given, hgiven]
  exact hact

namespace Host

variable {h : Host}

theorem setTargetHost_self (htrimmed : h.toBackend.Trimmed) (hgiven : h.targetHost ≠ "") :
    h.setTargetHost (.str h.targetHost) = .ok h := by
  rw [setTargetHost, if_neg (by simpa using hgiven), htrimmed]

theorem setTargetPort_self (h : Host) : h.setTargetPort (.int h.targetPort.number) = .ok h := by
  rw [setTargetPort, Request.port_number]
  rfl

/-- The name of a host is a subdomain or a domain of its own, so neither step removes what the other set. -/
theorem setName_self (hname : HostName h.subdomain h.customDomain) :
    h.setSubdomain (.ofText? h.subdomain) = .ok h ∧
      h.setCustomDomain (.ofText? h.customDomain) = .ok h := by
  obtain ⟨backend, id, subdomain, customDomain, enabled, createdAt, extra⟩ := h
  cases hname with
  | @subdomain s hs =>
      have hread : Request.subdomain (.str s) = .ok s := Request.freeLabel_self hs _ _
      refine ⟨?_, rfl⟩
      rw [setSubdomain, Json.ofText?, hread]
      split <;> rfl
  | @customDomain s hs =>
      have hread := Request.customDomain_self hs
      refine ⟨rfl, ?_⟩
      rw [setCustomDomain, Json.ofText?, hread]
      split <;> rfl

/-- A host is updated by what is written of it to itself. -/
theorem update_encode (htrimmed : h.toBackend.Trimmed) (hgiven : h.targetHost ≠ "")
    (hname : HostName h.subdomain h.customDomain) : h.update h.encode = .ok h := by
  rw [encode]
  simp only [update, bind_eq_ok]
  exact ⟨h, Payload.whenGiven_self rfl (setTargetHost_self htrimmed hgiven),
    h, Payload.whenGiven_self rfl h.setTargetPort_self, h, Payload.whenGiven_self rfl rfl,
    h, Payload.whenGiven_self rfl rfl, h, Payload.whenGiven_self rfl rfl,
    h, Payload.whenGiven_self rfl (setName_self hname).1,
    Payload.whenGiven_self rfl (setName_self hname).2⟩

end Host

namespace Environment

variable {e : Environment}

theorem Plain.setName_self (h : e.Plain) (hgiven : e.name ≠ "") : e.setName (.str e.name) = .ok e := by
  rw [setName, if_neg (by simpa using hgiven), h.name]

theorem Plain.setFrontendPrefix_self (h : e.Plain) :
    e.setFrontendPrefix (.str e.frontendPrefix) = .ok e := by
  rw [setFrontendPrefix, h.frontendPrefix]
  rfl

theorem Plain.setApiPrefix_self (h : e.Plain) : e.setApiPrefix (.str e.apiPrefix) = .ok e := by
  rw [setApiPrefix, h.apiPrefix]
  rfl

/-- An environment is updated by what is written of it to itself. -/
theorem Plain.update_encode (h : e.Plain) (hgiven : e.name ≠ "") : e.update e.encode = .ok e := by
  rw [encode]
  simp only [update, bind_eq_ok]
  exact ⟨e, Payload.whenGiven_self rfl (h.setName_self hgiven),
    e, Payload.whenGiven_self rfl h.setFrontendPrefix_self,
    Payload.whenGiven_self rfl h.setApiPrefix_self⟩

end Environment

namespace Registry

variable {r : Registry} {id : String}

theorem map_cleared {l : List Environment} (h : l.filter (·.isDefault) = []) :
    (l.map fun e => { e with isDefault := false }) = l := by
  rw [List.filter_eq_nil_iff] at h
  apply map_eq_self
  intro e he
  have hclear : e.isDefault = false := by simpa using h e he
  exact congrArg (fun mark => { e with isDefault := mark }) hclear.symm

/-- Where no other environment has the default mark, none loses it to the one that has. -/
theorem replaceFirst_cleared {p : Environment → Bool} {l : List Environment} {e : Environment}
    (hmark : ∀ e : Environment, p { e with isDefault := false } = p e) (hfound : l.find? p = some e)
    (hdefault : e.isDefault = true) (halone : (l.filter (·.isDefault)).length ≤ 1) :
    replaceFirst p e (l.map fun e => { e with isDefault := false }) = l := by
  induction l with
  | nil => cases hfound
  | cons c rest ih =>
      rw [List.map_cons, replaceFirst, hmark]
      by_cases hc : p c = true
      · rw [List.find?_cons_of_pos hc] at hfound
        obtain rfl := Option.some.inj hfound
        simp only [List.filter_cons, hdefault, ↓reduceIte, List.length_cons] at halone
        have hothers : rest.filter (·.isDefault) = [] := List.length_eq_zero_iff.mp (by omega)
        rw [if_pos hc, map_cleared hothers]
      · rw [List.find?_cons_of_neg hc] at hfound
        have hmem : e ∈ rest.filter (·.isDefault) :=
          List.mem_filter.mpr ⟨List.mem_of_find?_eq_some hfound, hdefault⟩
        have hpos := List.length_pos_of_mem hmem
        have hclear : ¬ c.isDefault = true := by
          intro hother
          simp only [List.filter_cons, hother, ↓reduceIte, List.length_cons] at halone
          omega
        rw [List.filter_cons_of_neg hclear] at halone
        have hsame : ({ c with isDefault := false } : Environment) = c :=
          congrArg (fun mark => { c with isDefault := mark }) (Bool.eq_false_of_not_eq_true hclear).symm
        rw [if_neg hc, hsame, ih hfound halone]

/-- The only environment with the default mark takes it from no other. -/
theorem putEnvironment_clearDefaults {e : Environment} (hvalid : r.Valid)
    (hfound : r.environment? id = some e) (hdefault : e.isDefault = true) :
    r.clearDefaults.putEnvironment id e = r := by
  have hsame := replaceFirst_cleared (fun _ => rfl) hfound hdefault hvalid.defaults
  exact congrArg (fun environments => { r with environments := environments }) hsame

/-- An environment that is found is updated by what is written of it to what is there. -/
theorem updateEnvironment_encode {e : Environment} (hvalid : r.Valid) (hplain : r.Plain)
    (hfound : r.environment? id = some e) (hgiven : e.name ≠ "") :
    r.updateEnvironment id e.encode = .ok (r, e) := by
  have hmem := List.mem_of_find?_eq_some hfound
  have hfixed := (hplain.environments e hmem).update_encode hgiven
  have hmark : Payload.given e.encode "isDefault" = .ok (some (.bool e.isDefault)) := rfl
  refine updateEnvironment_of_fixed hfound hfixed hmark ?_ ?_
  · intro v hv
    obtain rfl := Option.some.inj hv
    rfl
  · exact putEnvironment_clearDefaults hvalid hfound

theorem updateHost_encode {h : Host} (hplain : r.Plain) (hnamed : r.WellNamed)
    (hfound : r.host? id = some h) (hgiven : h.targetHost ≠ "") :
    r.updateHost id h.encode = .ok (r, h) := by
  have hmem := List.mem_of_find?_eq_some hfound
  exact updateHost_of_fixed hfound
    (Host.update_encode (hplain.hosts h hmem) hgiven (hnamed.hosts h hmem))

section Application

variable {a : Application}

theorem renamed_self (h : Text.Trimmed a.name) : renamed (.str a.name) a = a := by
  rw [renamed]
  split
  · exact congrArg (fun name => { a with name := name }) h
  · rfl

/-- No other application has the slug that an application has. -/
theorem reslugged_self (hvalid : r.Valid) (hfound : r.application? id = some a)
    (hslug : Hostname.IsFreeLabel a.slug) : r.reslugged id (.str a.slug) a = .ok a := by
  have hread : Request.slug (.str a.slug) = .ok a.slug := Request.freeLabel_self hslug _ _
  have hid : a.id = id := by simpa using List.find?_some hfound
  have hfree : ¬ (r.applications.any fun b => b.id != id && b.slug == a.slug) = true := by
    rw [List.any_eq_true]
    rintro ⟨b, hb, hrival⟩
    rw [Bool.and_eq_true, bne_iff_ne, beq_iff_eq] at hrival
    have hmem := List.mem_of_find?_eq_some hfound
    obtain rfl : b = a := List.inj_on_of_nodup_map hvalid.slugs hb hmem hrival.2
    exact hrival.1 hid
  rw [reslugged, hread]
  split
  · rfl
  · simp only [bind_eq_ok]
    exact ⟨a.slug, rfl, if_neg hfree⟩

/-- Endpoints are settled as they are written. -/
theorem settled_encode (hkeys : (a.endpoints.map Prod.fst).Nodup)
    (hread : ∀ p ∈ a.endpoints, Application.requestedSet p.2.encode p.1 (some p.2) = .ok p.2)
    (environments : List Environment) :
    ∀ entry ∈ a.endpoints.map fun (k, set) => (k, set.encode),
      Application.Settled environments a.endpoints entry := by
  intro entry hentry
  obtain ⟨⟨k, set⟩, hmem, rfl⟩ := List.mem_map.mp hentry
  refine ⟨fun _ hnull => ?_, fun _ _ => ⟨set, lookup_of_mem_of_nodup hkeys hmem, hread _ hmem⟩⟩
  cases hnull

theorem rerouted_self (hwell : a.WellFormed)
    (hread : ∀ p ∈ a.endpoints, Application.requestedSet p.2.encode p.1 (some p.2) = .ok p.2) :
    r.rerouted (.obj (a.endpoints.map fun (k, set) => (k, set.encode))) a = .ok a := by
  rw [rerouted]
  simp only [bind_eq_ok]
  have hsettled := settled_encode hwell.environments hread r.environments
  exact ⟨_, Application.updateSets_of_settled hsettled, rfl⟩

theorem requestedSet_encode {s : EndpointSet} (hplain : s.Plain) (hnamed : s.WellNamed)
    (horder : s.InOrder) (hgiven : s.Targeted) (environment : String) (present : Option EndpointSet) :
    Application.requestedSet s.encode environment present = .ok s := by
  have hread := Request.endpointSet_encode hplain hgiven hnamed horder.slugs environment present
  exact Application.requestedSet_eq_ok.mpr ⟨hread, horder.inUse⟩

/-- An application that is found is updated by what is written of it to what is there. -/
theorem updateApplication_encode (hvalid : r.Valid) (hwell : r.WellFormed) (hplain : r.Plain)
    (hnamed : r.WellNamed) (hrefs : r.ReferencesHold) (hfound : r.application? id = some a)
    (hgiven : ∀ p ∈ a.endpoints, p.2.Targeted) : r.updateApplication id a.encode = .ok (r, a) := by
  have hmem := List.mem_of_find?_eq_some hfound
  have hread : ∀ p ∈ a.endpoints, Application.requestedSet p.2.encode p.1 (some p.2) = .ok p.2 :=
    fun p hp => requestedSet_encode (hplain.sets a hmem p hp) (hnamed.sets a hmem p hp)
      (hrefs.sets a hmem p hp) (hgiven p hp) _ _
  exact updateApplication_of_fixed hfound rfl rfl rfl rfl (Request.showable_str a.name)
    (renamed_self (hplain.names a hmem)) (reslugged_self hvalid hfound (hnamed.slugs a hmem)) rfl
    (rerouted_self (hwell.applications a hmem) hread)

end Application

end Registry

/-- An entity is the one that its identifier finds if no two have one identifier. -/
theorem find?_id {α : Type} {key : α → String} {l : List α} (hkeys : (l.map key).Nodup) {a : α}
    (ha : a ∈ l) : l.find? (fun b => key b == key a) = some a := by
  cases hfound : l.find? (fun b => key b == key a) with
  | none => exact absurd (beq_self_eq_true _) (List.find?_eq_none.mp hfound a ha)
  | some b =>
      have hsame : key b = key a := by simpa using List.find?_some hfound
      rw [List.inj_on_of_nodup_map hkeys (List.mem_of_find?_eq_some hfound) ha hsame]

namespace World

variable {path : Path} {settings : Settings} {w : World} {r : Registry}

theorem Tracks.of_path {settings' : Settings} (hpath : settings'.registryPath = settings.registryPath)
    (h : w.Tracks settings r) : w.Tracks settings' r :=
  { h with toReady := h.toReady.of_path hpath }

/-- What is stored is tracked wherever operations lead. -/
theorem Reachable.tracks (h : Reachable path w) (hpath : settings.registryPath = path) :
    ∃ r, w.Tracks settings r := by
  induction h generalizing settings with
  | start hnone =>
      subst hpath
      exact ⟨.initial, tracks_initial hnone⟩
  | @step w settings' _ hpath' s op ih =>
      obtain ⟨r, htracks⟩ := ih hpath'
      have hwithin : (w.within s).Tracks settings' r :=
        htracks.of_kept ⟨fun p => content?_within s w p, rfl, Nat.le_refl _⟩
      rcases op.runs settings' (w.within s) with hkept | ⟨edit, read, hedits, hread, hsaved⟩
      · exact ⟨r, (hwithin.of_kept hkept).of_path (hpath.trans hpath'.symm)⟩
      · obtain ⟨r', hafter⟩ := hwithin.saved hedits hread hsaved
        exact ⟨r', hafter.of_path (hpath.trans hpath'.symm)⟩

/-- As long as no identifier was drawn twice, the identifiers of what is stored are distinct. -/
theorem Reachable.nodup_ids (h : Reachable path w) (hdistinct : w.supply.Distinct)
    (hload : ∀ supply, Store.load supply w.files path = (.ok r, supply)) : r.ids.Nodup := by
  let there : Settings := { Settings.standard with registryPath := path }
  obtain ⟨r', htracks⟩ := @Reachable.tracks path there w h rfl
  obtain rfl := htracks.unique hload
  exact htracks.nodup hdistinct

/-- What the lists of entities show. -/
structure Lists (settings : Settings) (r : Registry) (w : World) : Prop where
  hosts : (Operation.listHosts.run settings w).1 =
    .ok (.shown [("hosts", .arr (r.hosts.map Host.encode))])
  environments : (Operation.listEnvironments.run settings w).1 =
    .ok (.shown [("environments", .arr (r.environments.map Environment.encode))])
  applications : (Operation.listApplications.run settings w).1 =
    .ok (.shown [("applications", .arr (r.applications.map Application.encode))])

theorem Ready.lists (h : w.Ready settings r) : w.Lists settings r := by
  have hview : ∀ describe, w.view settings describe = (.ok (.shown (describe r)), w) :=
    fun describe => h.withRegistry fun r w => (.ok (.shown (describe r)), w)
  exact ⟨congrArg Prod.fst (hview _), congrArg Prod.fst (hview _), congrArg Prod.fst (hview _)⟩

/-- An operation succeeds and returns an entity, and the same is stored as before, but for the version. -/
def Idles (settings : Settings) (r : Registry) (op : Operation) (subject : Subject) (w : World) : Prop :=
  ∃ message applied w', op.run settings w = (.ok (.saved message subject applied), w') ∧
    SameButVersion settings.registryPath r (r.version + 1) w w'

/-- Every entity that its identifier finds and that is complete can be written back as it is listed. -/
structure WritesBack (settings : Settings) (r : Registry) (w : World) : Prop where
  host : ∀ id h, r.host? id = some h → h.targetHost ≠ "" →
    w.Idles settings r (.updateHost id h.encode) (.host h)
  environment : ∀ id e, r.environment? id = some e → e.name ≠ "" →
    w.Idles settings r (.updateEnvironment id e.encode) (.environment e)
  application : ∀ id a, r.application? id = some a → (∀ p ∈ a.endpoints, p.2.Targeted) →
    w.Idles settings r (.updateApplication id a.encode) (.application a)

theorem Stands.writesBack (h : w.Stands settings.registryPath r)
    (hadmits : w.Admits settings r.version) (hplain : r.Plain) (hnamed : r.WellNamed)
    (hrefs : r.ReferencesHold) : w.WritesBack settings r where
  host id host hfound hgiven := by
    have hupdate := Registry.updateHost_encode hplain hnamed hfound hgiven
    exact h.unchanged hadmits (.updateHost id host.encode)
      (Edit.ofMap_eq_ok.mpr ⟨⟨_, hupdate, rfl⟩, rfl⟩)
  environment id e hfound hgiven := by
    have hupdate := Registry.updateEnvironment_encode h.valid hplain hfound hgiven
    exact h.unchanged hadmits (.updateEnvironment id e.encode)
      (Edit.ofMap_eq_ok.mpr ⟨⟨_, hupdate, rfl⟩, rfl⟩)
  application id a hfound hgiven := by
    have hupdate := Registry.updateApplication_encode h.valid h.wellFormed hplain hnamed hrefs hfound
      hgiven
    exact h.unchanged hadmits (.updateApplication id a.encode)
      (Edit.ofMap_eq_ok.mpr ⟨⟨_, hupdate, rfl⟩, rfl⟩)

/-- Wherever operations lead, what is listed can be written back: as long as nothing outside the registry
stands in the way, the update of an entity by what is listed of it succeeds and changes nothing but the
version.  Every entity is the one that its identifier finds, as long as no identifier was drawn twice. -/
theorem listed_can_be_written_back (hreach : Reachable path w) :
    ∃ r : Registry, (∀ supply, Store.load supply w.files path = (.ok r, supply)) ∧
      (∀ e ∈ r.environments, r.environment? e.id = some e) ∧
      (w.supply.Distinct → (∀ h ∈ r.hosts, r.host? h.id = some h) ∧
        ∀ a ∈ r.applications, r.application? a.id = some a) ∧
      ∀ (settings : Settings) (s : Surroundings), settings.registryPath = path →
        (w.within s).Lists settings r ∧
          ((w.within s).Admits settings r.version → (w.within s).WritesBack settings r) := by
  obtain ⟨r', hstands⟩ := hreach.stands
  have hstable := fun settings => ((Registry.stable_plain settings).and
    (Registry.stable_wellNamed settings)).and (Registry.stable_referencesHold settings)
  have hinitial := And.intro (And.intro Registry.plain_initial Registry.wellNamed_initial)
    Registry.referencesHold_initial
  obtain ⟨r, hload, ⟨hplain, hnamed⟩, hrefs⟩ := hreach.holds hstable hinitial
  obtain rfl := hstands.unique hload
  refine ⟨r, hload, fun e he => find?_id hstands.valid.environments he, fun hdistinct => ?_, ?_⟩
  · have hids := hreach.nodup_ids hdistinct hload
    rw [Registry.ids, List.nodup_append] at hids
    exact ⟨fun h hh => find?_id hids.2.1 hh, fun a ha => find?_id hids.1 ha⟩
  · intro settings s hpath
    subst hpath
    have hwithin := hstands.of_content_eq (content?_within s w _)
    exact ⟨(hwithin.ready settings rfl).lists, fun hadmits => hwithin.writesBack hadmits hplain hnamed hrefs⟩

/-- At the clash, the application and the last environment can be written back. -/
theorem listed_can_be_written_back_at_clash :
    Reachable Clash.shelf (Clash.start.history Clash.settings Clash.steps) ∧
      (Clash.start.history Clash.settings Clash.steps).supply.Distinct ∧
      ((Clash.start.history Clash.settings Clash.steps).within offline).Admits Clash.settings 3 ∧
      ∃ r : Registry, r.application? Clash.application.id = some Clash.application ∧
        ((Clash.start.history Clash.settings Clash.steps).within offline).Idles Clash.settings r
          (.updateApplication Clash.application.id Clash.application.encode)
          (.application Clash.application) ∧
        ((Clash.start.history Clash.settings Clash.steps).within offline).Idles Clash.settings r
          (.updateEnvironment "x-dev" Clash.environment.encode) (.environment Clash.environment) := by
  have hreach := reachable_start Clash.steps
  obtain ⟨r, hload, henvironments, hfound, hwrites⟩ := listed_can_be_written_back hreach
  obtain rfl := Clash.shelved_history.ready.unique hload
  have hdistinct := Clash.generates_history.distinct
  have hadmits := Clash.shelved_history.admits (by decide)
  have hback := (hwrites Clash.settings offline rfl).2 hadmits
  have happlication := (hfound hdistinct).2 Clash.application (List.mem_singleton_self _)
  have henvironment := henvironments Clash.environment (by decide)
  have htargeted : ∀ p ∈ Clash.application.endpoints, p.2.Targeted := by
    intro p hp
    simp only [Clash.application, List.mem_cons, List.not_mem_nil, or_false] at hp
    rcases hp with rfl | rfl
    · exact ⟨by simp [Clash.endpoints], by simp [Clash.endpoints]⟩
    · exact ⟨by simp [Clash.endpoints], by simp [Clash.endpoints]⟩
  exact ⟨hreach, hdistinct, hadmits, _, happlication, hback.application _ _ happlication htargeted,
    hback.environment _ _ henvironment (by decide)⟩

end World

end EdgeProxy
