import EdgeProxy.Proofs.Operation.Unchanged
/-!
Deletions that undo additions.  What is added stands at the end of its list, and under an identifier of its
own; so its deletion finds it there and takes away nothing else.  No application refers to an environment that
was not there before, so a new one can be deleted again; and the patterns that its labels brought are gone when
they are brought up to date.
-/

namespace EdgeProxy

/-- The operation that deletes what a change was about. -/
def Subject.deletion? : Subject → Option Operation
  | host h => some (.deleteHost h.id)
  | environment e => some (.deleteEnvironment e.id)
  | application a => some (.deleteApplication a.id)
  | baseDomain _ => none
  | provider _ => none

/-- The identifier that a host or an application was given is none of those that were there; that of an
environment is made of its name. -/
def Subject.IsFresh (r : Registry) : Subject → Prop
  | host h => h.id ∉ r.hosts.map (·.id)
  | application a => a.id ∉ r.applications.map (·.id)
  | _ => True

/-- Operations that add an entity. -/
def Operation.isAddition : Operation → Bool
  | addHost _ => true
  | addEnvironment _ => true
  | addApplication _ => true
  | _ => false

theorem Operation.isChange_of_isAddition {op : Operation} (h : op.isAddition = true) :
    op.isChange = true := by
  cases op <;> first | rfl | cases h

/-- The registry with one more entity, at the end of its list. -/
inductive Registry.Adds (r : Registry) : Subject → Registry → Prop where
  | host (h : Host) : Adds r (.host h) (r.addHost h)
  | environment (e : Environment) :
      Adds r (.environment e) { r with environments := r.environments ++ [e] }
  | application (a : Application) : Adds r (.application a) (r.addApplication a)

theorem Operation.Edits.adds {settings : Settings} {op : Operation} {supply left drawn : Supply}
    {edit : Edit} {r r' : Registry} {subject : Subject} (h : op.Edits settings supply left edit)
    (hadds : op.isAddition = true) (hedit : edit left r = (.ok (r', subject), drawn)) :
    r.Adds subject r' := by
  cases h with
  | addHost =>
      cases hedit
      exact .host _
  | @addEnvironment data e =>
      rw [Edit.ofChange, Prod.mk.injEq, map_eq_ok] at hedit
      obtain ⟨⟨added, hadd, heq⟩, -⟩ := hedit
      cases heq
      rw [Registry.addEnvironment_eq_ok hadd]
      exact .environment e
  | addApplication =>
      rw [World.additionOf] at hedit
      split at hedit
      · cases hedit
      · cases hedit
        exact .application _
  | _ => cases hadds

section Lists

variable {α : Type} {key : α → String} {l all : List α} {a : α}

theorem forall_beq_eq_false {id : String} (h : id ∉ l.map key) : ∀ b ∈ l, (key b == id) = false := by
  intro b hb
  refine beq_false_of_ne ?_
  rintro rfl
  exact h (List.mem_map_of_mem hb)

/-- What stands at the end is found by its key if it is the first with it. -/
theorem find?_of_last (hall : all = l ++ [a]) (hfresh : key a ∉ l.map key) :
    all.find? (key · == key a) = some a := by
  have hfront := forall_beq_eq_false hfresh
  rw [hall, List.find?_eq_some_iff_append]
  exact ⟨beq_self_eq_true _, l, [], rfl, fun b hb => by simp [hfront b hb]⟩

theorem eraseP_of_last (hall : all = l ++ [a]) (hfresh : key a ∉ l.map key) :
    all.eraseP (key · == key a) = l := by
  have hfront : ∀ b ∈ l, ¬ (key b == key a) = true :=
    fun b hb => by simp [forall_beq_eq_false hfresh b hb]
  rw [hall, List.eraseP_append_right _ hfront]
  simp

end Lists

namespace Registry

variable {r r' : Registry} {subject : Subject}

/-- Whatever the patterns were in between, they are what they were once they are brought up to date. -/
theorem PatternsCurrent.refreshPatterns_restored (h : r.PatternsCurrent) (version : Int)
    (patterns : List String) :
    ({ r with
        version := version
        provider := { r.provider with
          domains := if r.provider.enabled then patterns else r.provider.domains } } :
      Registry).refreshPatterns = { r with version := version } := by
  have hsame : (if r.provider.enabled then r.wildcardPatterns else
      if r.provider.enabled then patterns else r.provider.domains) = r.provider.domains := by
    split
    next hon => rw [h.domains, if_pos hon]
    · rfl
  rw [refreshPatterns_eq]
  exact congrArg (fun domains => { r with
    version := version, provider := { r.provider with domains := domains } }) hsame

theorem deleteHost_of_last {h : Host} {hosts : List Host} (hhosts : r.hosts = hosts ++ [h])
    (hfresh : h.id ∉ hosts.map (·.id)) :
    r.deleteHost h.id = .ok ({ r with hosts := hosts }, h) := by
  have hfound : r.host? h.id = some h := find?_of_last hhosts hfresh
  rw [deleteHost, hfound, eraseP_of_last hhosts hfresh]

theorem deleteApplication_of_last {a : Application} {applications : List Application}
    (happlications : r.applications = applications ++ [a])
    (hfresh : a.id ∉ applications.map (·.id)) :
    r.deleteApplication a.id = .ok ({ r with applications := applications }, a) := by
  have hfound : r.application? a.id = some a := find?_of_last happlications hfresh
  rw [deleteApplication, hfound, eraseP_of_last happlications hfresh]

theorem deleteEnvironment_of_last {e : Environment} {environments : List Environment}
    (henvironments : r.environments = environments ++ [e])
    (hfresh : e.id ∉ environments.map (·.id)) (hunused : r.applicationsUsing e.id = []) :
    r.deleteEnvironment e.id = .ok ({ r with environments := environments }, e) := by
  have hfound : r.environment? e.id = some e := find?_of_last henvironments hfresh
  rw [deleteEnvironment, hfound, hunused, eraseP_of_last henvironments hfresh]

/-- No application refers to an environment that is not there. -/
theorem ReferencesHold.applicationsUsing_eq_nil (h : r.ReferencesHold) {id : String}
    (hnone : id ∉ r.environments.map (·.id)) : r.applicationsUsing id = [] :=
  applicationsUsing_eq_nil_iff.mpr fun a ha hid => hnone (h.environments a ha id hid)

/-- The identifier of the last environment of a valid registry is its own. -/
theorem Valid.fresh_of_last (h : r.Valid) {e : Environment} {environments : List Environment}
    (henvironments : r.environments = environments ++ [e]) : e.id ∉ environments.map (·.id) := by
  have hnodup := h.environments
  rw [henvironments, List.map_append, List.nodup_append] at hnodup
  intro hmem
  exact hnodup.2.2 _ hmem _ (List.mem_singleton_self _) rfl

theorem Adds.version (hadds : r.Adds subject r') :
    (Store.advance r'.refreshPatterns).version = r.version + 1 := by
  rw [refreshPatterns_eq]
  cases hadds <;> rfl

theorem Adds.deletion (hadds : r.Adds subject r') : ∃ deletion, subject.deletion? = some deletion := by
  cases hadds <;> exact ⟨_, rfl⟩

/-- The deletion of what was added leads to the registry that was there before, one version later. -/
theorem Adds.undone (hadds : r.Adds subject r') (hcurrent : r.PatternsCurrent)
    (hrefs : r.ReferencesHold) (hvalid : (Store.advance r'.refreshPatterns).Valid)
    (hfresh : subject.IsFresh r) {deletion : Operation} (hdeletion : subject.deletion? = some deletion)
    (settings : Settings) (supply : Supply) :
    ∃ edit edited, deletion.Edits settings supply supply edit ∧
      edit supply (Store.advance r'.refreshPatterns) = (.ok (edited, subject), supply) ∧
      edited.refreshPatterns = { r with version := r.version + 1 } := by
  have hrestored := hcurrent.refreshPatterns_restored (r.version + 1) r'.wildcardPatterns
  rw [refreshPatterns_eq] at hvalid ⊢
  cases hadds with
  | host h =>
      cases hdeletion
      refine ⟨_, _, .deleteHost h.id, ?_, hrestored⟩
      rw [Edit.ofChange, deleteHost_of_last rfl hfresh]
      rfl
  | environment e =>
      have hown := hvalid.fresh_of_last rfl
      have hunused := hrefs.applicationsUsing_eq_nil hown
      cases hdeletion
      refine ⟨_, _, .deleteEnvironment e.id, ?_, hrestored⟩
      rw [Edit.ofChange, deleteEnvironment_of_last rfl hown]
      · rfl
      · exact hunused
  | application a =>
      cases hdeletion
      refine ⟨_, _, .deleteApplication a.id, ?_, hrestored⟩
      rw [Edit.ofChange, deleteApplication_of_last rfl hfresh]
      rfl

end Registry

namespace World

variable {path : Path} {settings : Settings} {w w' : World} {op : Operation} {answer : Answer}

/-- How the deletion of what an addition returned ends: it succeeds, and the same is stored as before the
addition, but for the version. -/
structure Undoes (settings : Settings) (deletion : Operation) (r : Registry) (w w' : World) : Prop where
  succeeds : deletion.Succeeds settings w'
  restored : SameButVersion settings.registryPath r (r.version + 2) w (deletion.run settings w').2

/-- Wherever operations lead, an addition that succeeds can be undone: as long as the system lets files be
written, the exchange with the control plane returns and the version can be counted on, the deletion of what it
returned, whose identifier is none of those that were there, succeeds, and then the same is stored as before. -/
theorem deletion_undoes_addition (hreach : Reachable path w) (hpath : settings.registryPath = path)
    (hadds : op.isAddition = true) {s : Surroundings}
    (hrun : op.run settings (w.within s) = (.ok answer, w')) (hsuccess : answer.isSuccess = true) :
    ∃ r message subject applied deletion,
      (∀ supply, Store.load supply w.files path = (.ok r, supply)) ∧
        answer = .saved message subject applied ∧ subject.deletion? = some deletion ∧
        (subject.IsFresh r → (Json.int (r.version + 2)).isWritable = true →
          ∀ s' : Surroundings, s'.Unhindered settings →
            Undoes settings deletion r w (w'.within s')) := by
  subst hpath
  obtain ⟨r', hstands⟩ := hreach.stands
  obtain ⟨r, hsound, -, -, -, hrefs⟩ := hreach.sound
  obtain rfl := hstands.unique hsound
  have hwithin := hstands.of_content_eq (content?_within s w _)
  obtain ⟨read, edit, added, drawn, message, subject, applied, hedits, hedit, rfl, hrests,
    hreplaceable⟩ := hwithin.changed (Operation.isChange_of_isAddition hadds) hrun hsuccess
  have hmade := hedits.adds hadds hedit
  obtain ⟨deletion, hdeletion⟩ := hmade.deletion
  refine ⟨r, message, subject, applied, deletion, hsound, rfl, hdeletion, ?_⟩
  intro hfresh hroom s' hunhindered
  have hafter : (w'.within s').Rests settings.registryPath (Store.advance added.refreshPatterns) :=
    hrests.of_content_eq (content?_within s' w' _)
  obtain ⟨edit', edited, hedits', hedit', hrestored⟩ := hmade.undone hstands.current hrefs hafter.valid
    hfresh hdeletion settings (w'.within s').supply
  have hvalid : edited.Valid := by
    rw [← Registry.valid_refreshPatterns_iff, hrestored]
    exact hstands.valid.of_outline_eq rfl
  have hadmits : (w'.within s').Admits settings (Store.advance added.refreshPatterns).version := by
    have hversions : r.version + 1 + 1 = r.version + 2 := Int.add_assoc r.version 1 1
    apply hreplaceable s' _ hunhindered
    rw [hmade.version, hversions]
    exact hroom
  obtain ⟨message', applied', w'', hdeleted, hgone⟩ :=
    hafter.stands.change hadmits hedits' hedit' hvalid
  rw [hrestored, Store.advance, Int.add_assoc] at hgone
  refine ⟨⟨_, _, hdeleted, rfl⟩, ?_⟩
  rw [hdeleted]
  exact hstands.sameButVersion hgone

/-- Where there are a host and an application, another host is added and deleted, and what was there is back. -/
theorem deletion_undoes_addition_household :
    Reachable Clash.shelf (Clash.start.history Clash.settings Household.opening) ∧
      (Operation.addHost Household.cameraPayload).isAddition = true ∧
      (Subject.host Household.camera).IsFresh (Household.registry 2 [Household.shop] [Twins.host 0]) ∧
      offline.Unhindered Clash.settings ∧
      ∃ message applied w', (Operation.addHost Household.cameraPayload).run Clash.settings
          ((Clash.start.history Clash.settings Household.opening).within offline) =
            (.ok (.saved message (.host Household.camera) applied), w') ∧
        Undoes Clash.settings (.deleteHost Household.camera.id)
          (Household.registry 2 [Household.shop] [Twins.host 0])
          (Clash.start.history Clash.settings Household.opening) (w'.within offline) := by
  have hreach := reachable_start Household.opening
  have hshelved := Household.shelved_after_opening
  have hdraft : Host.draft Household.cameraPayload = .ok Household.cameraDraft := rfl
  have hvalid : (Household.registry 2 [Household.shop] [Twins.host 0, Household.camera]).Valid :=
    ⟨by decide, by decide, by decide, by decide, by decide⟩
  obtain ⟨r, hstands⟩ := hreach.stands
  obtain rfl := hstands.unique hshelved.ready.load
  have hwithin := hstands.of_content_eq (content?_within offline _ _)
  have hadds : (Operation.addHost Household.cameraPayload).Edits Clash.settings
      ((Clash.start.history Clash.settings Household.opening).within offline).supply (Clash.supply 2).draw.2
      (.ofChange fun r => .ok (r.addHost Household.camera, .host Household.camera)) := by
    rw [hshelved.supply_within]
    exact .addHost hdraft
  obtain ⟨message, applied, w', hrun, -⟩ :=
    hwithin.change (hshelved.admits (by decide)) hadds rfl hvalid
  obtain ⟨r, message', subject, applied', deletion, hload, hanswer, hdeletion, hundoes⟩ :=
    deletion_undoes_addition hreach rfl rfl hrun rfl
  cases hanswer
  cases hdeletion
  obtain rfl := hshelved.ready.unique hload
  have hfresh : (Subject.host Household.camera).IsFresh
      (Household.registry 2 [Household.shop] [Twins.host 0]) := by
    unfold Subject.IsFresh
    decide
  have hroom : (Json.int 4).isWritable = true := Json.isWritable_small (by decide)
  have hunhindered : offline.Unhindered Clash.settings := unhindered_offline standard_arrives
  exact ⟨hreach, rfl, hfresh, hunhindered, message, applied, w', hrun, hundoes hfresh hroom offline hunhindered⟩

end World

end EdgeProxy
