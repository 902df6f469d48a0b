import EdgeProxy.Proofs.Change.Faults
import EdgeProxy.Proofs.Operation.Admitted
/-!
Faults of operations that change the registry.  Where a registry is stored and the exchange with the control plane
returns, a change has an answer, unless its payload holds what no rule provides for, the next version is too long to
be written, the directory of the file cannot be made, or the text cannot be put into bytes; and such a fault has no
effect.
-/

namespace EdgeProxy

namespace FaultsIn

variable {α : Type} {P Q : Fault → Prop}

theorem mono {x : Requested α} (hx : FaultsIn P x) (h : ∀ f, P f → Q f) : FaultsIn Q x :=
  fun fault hfault => h fault (hx fault hfault)

/-- The check of what an edit has led to ends in no faults of its own. -/
theorem changed {edit : Edit} {supply : Supply} {r : Registry} (h : FaultsIn P (edit supply r).1) :
    FaultsIn P (changed edit supply r).1 := by
  rw [EdgeProxy.changed]
  split
  next hedit =>
    rw [hedit] at h
    exact h
  · rw [Registry.checked]
    split
    next hchecked =>
      split at hchecked
      · cases hchecked
      · cases hchecked
        exact .rejected _
    · exact .ok _

end FaultsIn

namespace Operation

/-- The payload of a change, if it may be any value. -/
def payload? : Operation → Option Json
  | addHost data => some data
  | updateHost _ updates => some updates
  | addEnvironment data => some data
  | updateEnvironment _ updates => some updates
  | addApplication data => some data
  | updateApplication _ updates => some updates
  | switchProvider data => some data
  | _ => none

/-- The faults that a change of a registry with a version can end in. -/
inductive FaultOf (settings : Settings) (op : Operation) (version : Int) (files : Files) :
    Fault → Prop where
  | payload {data : Json} {fault : Fault} (hdata : op.payload? = some data)
      (h : Payload.FaultOf data fault) : FaultOf settings op version files fault
  | version (h : (Json.int (version + 1)).isWritable = false) :
      FaultOf settings op version files .badValue
  | directory {fault : Fault} (h : files.makeDirectories settings.registryPath.parent = .error fault) :
      FaultOf settings op version files fault
  | unencodable (h : files.RefusesText) : FaultOf settings op version files .unencodable

variable {settings : Settings} {op : Operation} {w : World} {version : Int} {files : Files}

theorem faultOf_payload {data : Json} (hdata : op.payload? = some data) (f : Fault)
    (h : Payload.FaultOf data f) : FaultOf settings op version files f :=
  .payload hdata h

/-- The payload that switches an entity leads to no fault. -/
theorem not_faultOf_switch (enabled : Json) (f : Fault) :
    ¬ Payload.FaultOf (World.switch enabled) f := by
  have honly : ∀ fields : Fields, (World.switch enabled).Holds (.obj fields) →
      fields = [("enabled", .bool enabled.truthy)] := by
    intro fields hin
    cases hin with
    | self => rfl
    | field hmem h =>
        cases List.mem_singleton.mp hmem
        cases h
  rintro (h | h | ⟨hin, hport⟩ | ⟨hin, hkey, hshown⟩)
  · exact h _ rfl
  · exact h _ rfl
  · cases honly _ hin
    cases hport
  · cases honly _ hin
    have hnull : ∀ key ∈ Payload.shownKeys,
        Fields.valueOf [("enabled", .bool enabled.truthy)] key = .null := by
      simp [Payload.shownKeys, Fields.valueOf, Fields.get?]
    rw [hnull _ hkey] at hshown
    cases hshown

theorem faultOf_switch {enabled : Json} (f : Fault) (h : Payload.FaultOf (World.switch enabled) f) :
    FaultOf settings op version files f :=
  absurd h (not_faultOf_switch enabled f)

/-- An edit of an operation ends in no faults but those of the payload. -/
theorem Edits.faults {supply read : Supply} {edit : Edit} (h : op.Edits settings supply read edit)
    (start : Supply) (r : Registry) :
    FaultsIn (FaultOf settings op version files) (edit start r).1 := by
  cases h with
  | setBaseDomain => exact .ok _
  | addHost => exact .ok _
  | updateHost id updates =>
      exact ((r.faults_updateHost id updates).map _).mono (faultOf_payload rfl)
  | toggleHost id enabled => exact ((r.faults_updateHost id _).map _).mono faultOf_switch
  | deleteHost id => exact (r.faults_deleteHost _ id).map _
  | addEnvironment => exact (r.faults_addEnvironment _ _).map _
  | updateEnvironment id updates =>
      exact ((r.faults_updateEnvironment id updates).map _).mono (faultOf_payload rfl)
  | deleteEnvironment id => exact (r.faults_deleteEnvironment _ id).map _
  | addApplication hdraft =>
      have hfaults : FaultsIn (FaultOf settings (.addApplication _) version files)
          (r.newEndpoints _) := (r.faults_newEndpoints hdraft).mono (faultOf_payload rfl)
      rw [World.additionOf]
      split
      next hsets =>
        rw [hsets] at hfaults
        intro fault hfault
        cases hfault
        exact hfaults fault rfl
      · exact .ok _
  | updateApplication id updates =>
      exact ((r.faults_updateApplication id updates).map _).mono (faultOf_payload rfl)
  | toggleApplication id enabled =>
      exact ((r.faults_updateApplication id _).map _).mono faultOf_switch
  | deleteApplication id => exact (r.faults_deleteApplication _ id).map _
  | switchProvider => exact (r.faults_switchProvider _ _).map _

/-- A request is read, or it ends in a fault that is accounted for, if in any. -/
theorem read_or_faults {P : Fault → Prop} {α : Type} {request : Requested α}
    {next : α → World → Result × World} (h : FaultsIn P request) (w : World) :
    (∃ a, request = .ok a) ∨
      ∀ fault, (w.withRequest request next).1 = .error fault → P fault := by
  rcases request with failure | a
  · refine .inr fun fault hrun => ?_
    rcases failure with why | what
    · cases hrun
    · cases hrun
      exact h fault rfl
  · exact .inl ⟨a, rfl⟩

/-- A request for a change has an edit, or it ends in no faults but those of the payload. -/
theorem edits_or_faults (h : op.isChange = true) (settings : Settings) (version : Int) (files : Files)
    (w : World) :
    (∃ read edit, op.Edits settings w.supply read edit) ∨
      ∀ fault, (op.run settings w).1 = .error fault → op.FaultOf settings version files fault := by
  -- An update reads its payload as it edits; the other payloads are read before there is an edit.
  cases op with
  | setBaseDomain value =>
      exact (read_or_faults (Request.faults_baseDomain value) w).imp_left
        fun ⟨_, h⟩ => ⟨_, _, .setBaseDomain h⟩
  | addHost data =>
      have hfaults : FaultsIn (FaultOf settings (.addHost data) version files) (Host.draft data) :=
        (Host.faults_draft data).mono (faultOf_payload rfl)
      exact (read_or_faults hfaults w).imp_left fun ⟨_, h⟩ => ⟨_, _, .addHost h⟩
  | updateHost id updates => exact .inl ⟨_, _, .updateHost id updates⟩
  | toggleHost id enabled => exact .inl ⟨_, _, .toggleHost id enabled⟩
  | deleteHost id => exact .inl ⟨_, _, .deleteHost id⟩
  | addEnvironment data =>
      have hfaults : FaultsIn (FaultOf settings (.addEnvironment data) version files)
          (Environment.requested data) :=
        (Environment.faults_requested data).mono (faultOf_payload rfl)
      exact (read_or_faults hfaults w).imp_left fun ⟨_, h⟩ => ⟨_, _, .addEnvironment h⟩
  | updateEnvironment id updates => exact .inl ⟨_, _, .updateEnvironment id updates⟩
  | deleteEnvironment id => exact .inl ⟨_, _, .deleteEnvironment id⟩
  | addApplication data =>
      have hfaults : FaultsIn (FaultOf settings (.addApplication data) version files)
          (Application.draft data) :=
        (Application.faults_draft data).mono (faultOf_payload rfl)
      exact (read_or_faults hfaults w).imp_left fun ⟨_, h⟩ => ⟨_, _, .addApplication h⟩
  | updateApplication id updates => exact .inl ⟨_, _, .updateApplication id updates⟩
  | toggleApplication id enabled => exact .inl ⟨_, _, .toggleApplication id enabled⟩
  | deleteApplication id => exact .inl ⟨_, _, .deleteApplication id⟩
  | switchProvider data =>
      have hfaults : FaultsIn (FaultOf settings (.switchProvider data) version files)
          (settings.providerSwitch data) :=
        (settings.faults_providerSwitch data).mono (faultOf_payload rfl)
      exact (read_or_faults hfaults w).imp_left fun ⟨_, h⟩ => ⟨_, _, .switchProvider h⟩
  | _ => cases h

end Operation

namespace Store

variable {supply left : Supply} {files after : Files} {path : Path} {r registry : Registry}

/-- Where the file is read, a save ends in a fault only if nothing can be put in its place. -/
theorem notReplaced_of_save {expected : Int} {fault : Fault}
    (hload : load supply files path = (.ok r, left))
    (hsave : save registry files path (some expected) = (.error (.fault fault), after)) :
    NotReplaced registry files path (.fault fault) := by
  obtain ⟨found, hversion⟩ := version_of_load hload
  rcases (save_error hsave).1 with hcheck | ⟨-, hnot⟩
  · rw [check_some hversion] at hcheck
    split at hcheck <;> cases hcheck
  · exact hnot

end Store

namespace World

variable {settings : Settings} {w : World}

/-- A change of a registry that was read ends in a fault of its edit, because nothing can be put in the place of the
file, or after it was saved. -/
theorem faults_mutate {message : Option String} {edit : Edit} {r : Registry} {left : Supply}
    {fault : Fault} (hload : Store.load w.supply w.files settings.registryPath = (.ok r, left))
    (hfault : (w.mutate settings message edit).1 = .error fault) :
    (changed edit left r).1 = .error (.fault fault) ∨ ∃ changed' subject drawn,
      changed edit left r = (.ok (changed', subject), drawn) ∧
        (Store.NotReplaced changed' w.files settings.registryPath (.fault fault) ∨
          ∃ saved files,
            Store.save changed' w.files settings.registryPath (some r.version) = (.ok saved, files)) := by
  obtain ⟨⟨outcome, drawn⟩, hchanged⟩ : ∃ result, changed edit left r = result := ⟨_, rfl⟩
  simp only [mutate, withRegistry, load, hload, commit, hchanged] at hfault
  cases outcome with
  | error failure =>
      cases failure with
      | rejected why => cases hfault
      | fault what =>
          cases hfault
          exact .inl (by rw [hchanged])
  | ok edited =>
      obtain ⟨changed', subject⟩ := edited
      obtain ⟨⟨written, files⟩, hsave⟩ : ∃ result,
          Store.save changed' w.files settings.registryPath (some r.version) = result := ⟨_, rfl⟩
      refine .inr ⟨changed', subject, drawn, hchanged, ?_⟩
      simp only [save, hsave] at hfault
      cases written with
      | error failure =>
          cases failure with
          | refused why => cases hfault
          | fault what =>
              cases hfault
              exact .inl (Store.notReplaced_of_save hload hsave)
      | ok saved => exact .inr ⟨saved, files, hsave⟩

end World

namespace Operation

variable {settings : Settings} {op : Operation} {w : World}

/-- A change of a stored registry is saved, or it ends in no faults but those that are accounted for. -/
theorem saves_or_faultOf_run (hchange : op.isChange = true) {supply left : Supply} {r : Registry}
    (hload : Store.load supply w.files settings.registryPath = (.ok r, left)) {fault : Fault}
    (hfault : (op.run settings w).1 = .error fault) :
    (∃ loaded subject saved written, op.Saves settings w loaded subject saved written) ∨
      op.FaultOf settings r.version w.files fault := by
  rcases edits_or_faults hchange settings r.version w.files w with ⟨read, edit, hedits⟩ | hfaults
  · obtain ⟨message, hrun⟩ := hedits.run_eq
    have hsame : op.run settings w = { w with supply := read }.mutate settings message edit :=
      hrun settings.adminUrl
    obtain ⟨r', left', hload', hversion, -⟩ := Store.load_of_load hload read
    rw [hsame] at hfault
    rcases World.faults_mutate hload' hfault with
      hchanged | ⟨_, subject, drawn, hchanged, hnot | ⟨saved, files, hsave⟩⟩
    · exact .inr ((hedits.faults left' r').changed fault hchanged)
    · obtain ⟨edited, hedit, rfl, -⟩ := changed_eq_ok.mp hchanged
      refine .inr ?_
      cases hnot with
      | unwritable hunwritable =>
          refine .version ?_
          have hwritable := hedits.isWritable hload' hedit
          rw [hunwritable, hversion] at hwritable
          simpa using hwritable
      | noDirectory hdirectory => exact .directory hdirectory
      | unencodable hrefuses => exact .unencodable hrefuses
    · exact .inl ⟨r', subject, saved, _, .intro hedits hload' hchanged hsave⟩
  · exact .inr (hfaults fault hfault)

/-- The values that a change is given, whatever they are. -/
def given : Operation → List Json
  | setBaseDomain value => [value]
  | toggleHost _ enabled => [enabled]
  | toggleApplication _ enabled => [enabled]
  | op => op.payload?.toList

/-- How a change of a stored registry ends: with an answer that tells whether it succeeded, without effect in a fault
that is accounted for, or, once it was saved, in a fault of the exchange with the control plane. -/
inductive Ends (settings : Settings) (op : Operation) (version : Int) (w : World) : Prop where
  | answered {answer : Answer} {w' : World} (hrun : op.run settings w = (.ok answer, w'))
      (hsuccess : Fields.get? answer.fields "success" = some (.bool answer.isSuccess))
  | unchanged {fault : Fault} {w' : World} (hrun : op.run settings w = (.error fault, w'))
      (huntouched : w.Untouched w') (hfault : op.FaultOf settings version w.files fault)
  | saved {fault : Fault} {loaded saved : Registry} {subject : Subject} {written : World} {line : Line}
      (hsaves : op.Saves settings w loaded subject saved written)
      (hrun : op.run settings w = (.error fault, { written with line := line }))
      (hfault : settings.exchangeFault? (saved.compile settings).toJson w.line = some fault)

theorem Saves.ends {loaded saved : Registry} {subject : Subject} {written : World}
    (h : op.Saves settings w loaded subject saved written) (version : Int) : op.Ends settings version w := by
  rcases h.run_spec with ⟨fault, line, hfault, hrun, -⟩ | ⟨-, message, applied, line, hrun, -⟩
  · exact .saved h hrun hfault
  · exact .answered hrun (Answer.get?_success _)

/-- A change of a stored registry has an answer that tells whether it succeeded, or it ends without effect in a fault
that is accounted for, or in a fault of the exchange with the control plane, which returns where the answers are
those of the protocol; and a port is a number in range or turned down, unless it is infinite.  Here there is room
for any depth; programs that have less have as much as is assumed of what is stored and of what is given. -/
theorem change_answers_or_fault_is_accounted_for (settings : Settings) (op : Operation) (w : World)
    (v : Json) (subject : String) :
    (∀ (supply left : Supply) (r : Registry), op.isChange = true →
      Store.load supply w.files settings.registryPath = (.ok r, left) →
      Store.IsShallow w.files settings.registryPath → (∀ data ∈ op.given, data.depth ≤ Json.safeDepth) →
        op.Ends settings r.version w ∧
          (settings.Returns w.line → ∀ fault w', op.run settings w = (.error fault, w') →
            w.Untouched w' ∧ op.FaultOf settings r.version w.files fault)) ∧
      Request.ReadsPort v subject := by
  refine ⟨?_, Request.readsPort v subject⟩
  intro supply left r hchange hload _ _
  have hends : op.Ends settings r.version w := by
    rcases change_cases hchange settings w with
      ⟨result, w', -, huntouched, hruns⟩ | ⟨loaded, subject, saved, written, hsaves⟩
    · have hrun : op.run settings w = (result, w') := hruns settings.adminUrl
      rcases result with fault | answer
      · rcases saves_or_faultOf_run hchange hload (by rw [hrun]) with ⟨_, _, _, _, hsaves⟩ | hfault
        · exact hsaves.ends r.version
        · exact .unchanged hrun huntouched hfault
      · exact .answered hrun answer.get?_success
    · exact hsaves.ends r.version
  refine ⟨hends, fun hreturns fault w' hrun => ?_⟩
  cases hends with
  | answered hanswer => cases hrun.symm.trans hanswer
  | unchanged hfault huntouched haccount =>
      cases hrun.symm.trans hfault
      exact ⟨huntouched, haccount⟩
  | saved hsaves hfault hexchange => cases (hreturns _).symm.trans hexchange

/-- The payload of a host whose port is infinite. -/
def infinitePort : Json :=
  .obj [("targetHost", .str "10.0.0.1"), ("targetPort", .float (.infinite false)),
    ("subdomain", .str "nas")]

theorem run_infinitePort (settings : Settings) (w : World) :
    (addHost infinitePort).run settings w = (.error .overflow, w) := rfl

/-- A world in which a base domain is stored. -/
def stored : World :=
  { Clash.start with
    files := ⟨[(Clash.shelf, .file (Text.encode (Clash.registry 1 [] []).fileText))], fun _ => none⟩ }

theorem stores_stored : stored.Stores Clash.settings (Clash.registry 1 [] []) :=
  ⟨Clash.isWritable_registry 1 (by decide) [] (.inl rfl) [] (.inl rfl), rfl⟩

theorem ready_stored : stored.Ready Clash.settings (Clash.registry 1 [] []) := by
  obtain ⟨written, hsaves⟩ := FirstDomain.saves Settings.standard.adminUrl
  exact World.ready_of_stores hsaves.stores.1 stores_stored

theorem isShallow_stored : Store.IsShallow stored.files Clash.settings.registryPath :=
  Store.isShallow_of_written (by decide) stores_stored.bytes

/-- The fault that an infinite port leads to is accounted for. -/
theorem change_answers_or_fault_is_accounted_for_infinite_port :
    (addHost infinitePort).isChange = true ∧
      Store.load (Clash.supply 0) stored.files Clash.settings.registryPath =
        (.ok (Clash.registry 1 [] []), Clash.supply 0) ∧
      Store.IsShallow stored.files Clash.settings.registryPath ∧
      (∀ data ∈ (addHost infinitePort).given, data.depth ≤ Json.safeDepth) ∧
      Clash.settings.Returns stored.line ∧
      (addHost infinitePort).run Clash.settings stored = (.error .overflow, stored) ∧
      (addHost infinitePort).FaultOf Clash.settings 1 stored.files .overflow ∧
      Request.ReadsPort (.float (.infinite false)) "port" := by
  have hload := ready_stored.load (Clash.supply 0)
  have hrun := run_infinitePort Clash.settings stored
  have hgiven : ∀ data ∈ (addHost infinitePort).given, data.depth ≤ Json.safeDepth := by decide
  have hreturns : Clash.settings.Returns stored.line :=
    Settings.returns_of_live World.standard_arrives rfl rfl rfl (Nat.le_refl _) (Nat.le_refl _)
  obtain ⟨hanswers, hreads⟩ := change_answers_or_fault_is_accounted_for Clash.settings
    (addHost infinitePort) stored (.float (.infinite false)) "port"
  obtain ⟨-, hfaults⟩ := hanswers _ _ _ rfl hload isShallow_stored hgiven
  exact ⟨rfl, hload, isShallow_stored, hgiven, hreturns, hrun, (hfaults hreturns _ _ hrun).2, hreads⟩

/-- A host with an infinite port is asked for, and there is no answer, though a registry is stored. -/
theorem change_without_answer :
    ∃ w : World, (∀ supply, Store.load supply w.files Clash.settings.registryPath =
        (.ok (Clash.registry 1 [] []), supply)) ∧
      Store.version w.files Clash.settings.registryPath = .ok (.number 1) ∧
      Clash.settings.client.arrives = true ∧
      (∀ answer w', (addHost infinitePort).run Clash.settings w ≠ (.ok answer, w')) ∧
      Request.port (.float (.infinite false)) "port" = .error (.fault .overflow) := by
  refine ⟨stored, ready_stored.load, ready_stored.version,
    World.standard_arrives, fun answer w' hanswer => ?_, rfl⟩
  cases (run_infinitePort Clash.settings stored).symm.trans hanswer

end Operation

end EdgeProxy
