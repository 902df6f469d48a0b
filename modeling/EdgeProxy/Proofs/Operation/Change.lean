import EdgeProxy.Proofs.Operation.Apply
import EdgeProxy.Proofs.Operation.Outcome
/-!
How an operation that changes the registry ends.  Either it stops before it writes, and then nothing was
sent either; or its change is saved, and what follows is the announcement of the saved registry.  Which
of the two it is does not depend on the address of the control plane.  So running an operation writes
what an edit of it makes of the registry that was read, or nothing.
-/

namespace EdgeProxy

/-- The settings with another address of the control plane. -/
def Settings.controlledAt (settings : Settings) (url : String) : Settings :=
  { settings with adminUrl := url }

/-- Whether an operation changes the registry. -/
def Operation.isChange : Operation → Bool
  | setBaseDomain _ => true
  | addHost _ => true
  | updateHost _ _ => true
  | deleteHost _ => true
  | toggleHost _ _ => true
  | addEnvironment _ => true
  | updateEnvironment _ _ => true
  | deleteEnvironment _ => true
  | addApplication _ => true
  | updateApplication _ _ => true
  | deleteApplication _ => true
  | toggleApplication _ _ => true
  | switchProvider _ => true
  | _ => false

/-- A result that does not tell of a success. -/
def Result.IsFailure (result : Result) : Prop :=
  ∀ answer, result = .ok answer → answer.isSuccess = false

namespace World

/-- No file has another content, and nothing was sent. -/
structure Untouched (w w' : World) : Prop extends Kept w w' where
  line : w'.line = w.line

theorem Untouched.refl (w : World) : w.Untouched w := ⟨Kept.refl w, rfl⟩

theorem Untouched.trans {a b c : World} (h : a.Untouched b) (h' : b.Untouched c) : a.Untouched c :=
  ⟨h.toKept.trans h'.toKept, h'.line.trans h.line⟩

end World

theorem Result.isFailure_fault (fault : Fault) : Result.IsFailure (.error fault) := by
  intro answer h
  cases h

theorem Result.isFailure_refused (why : Refusal) : Result.IsFailure (.ok (.refused why)) := by
  intro answer h
  cases h
  rfl

/-- A run that fails without effect, wherever the control plane is. -/
def World.Fails (w : World) (run : String → Result × World) : Prop :=
  ∃ result w', result.IsFailure ∧ w.Untouched w' ∧ ∀ url, run url = (result, w')

/-- The change of an operation is saved: the registry that was read, changed by an edit of the operation,
is valid and takes the place of the file. -/
inductive Operation.Saves (settings : Settings) (op : Operation) (w : World) :
    Registry → Subject → Registry → World → Prop where
  | intro {edit : Edit} {read left drawn : Supply} {loaded r saved : Registry} {subject : Subject}
      {files : Files} (hedits : op.Edits settings w.supply read edit)
      (hload : Store.load read w.files settings.registryPath = (.ok loaded, left))
      (hchanged : changed edit left loaded = (.ok (r, subject), drawn))
      (hsave : Store.save r w.files settings.registryPath (some loaded.version) =
        (.ok saved, files)) :
      Saves settings op w loaded subject saved { w with files := files, supply := drawn }

namespace World

variable {settings : Settings} {w : World}

theorem untouched_of_draws {supply : Supply} (h : supply.Extends w.supply) :
    w.Untouched { w with supply := supply } :=
  ⟨⟨fun _ => rfl, h⟩, rfl⟩

/-- A change whose save succeeds goes on to the announcement. -/
theorem mutate_of_save {edit : Edit} (message : Option String) {loaded r saved : Registry}
    {subject : Subject} {left drawn : Supply} {files : Files}
    (hload : Store.load w.supply w.files settings.registryPath = (.ok loaded, left))
    (hchanged : changed edit left loaded = (.ok (r, subject), drawn))
    (hsave : Store.save r w.files settings.registryPath (some loaded.version) =
      (.ok saved, files)) :
    w.mutate settings message edit =
      { w with files := files, supply := drawn }.announce settings message subject saved := by
  simp only [mutate, withRegistry, load, hload, commit, hchanged, save, hsave]

/-- A change that is valid is written, if the file still has the version that was read and can be
replaced. -/
theorem mutate_saves {edit : Edit} (message : Option String) {loaded r saved : Registry}
    {subject : Subject} {left drawn : Supply} {files : Files}
    (hload : Store.load w.supply w.files settings.registryPath = (.ok loaded, left))
    (hchanged : changed edit left loaded = (.ok (r, subject), drawn))
    (hsave : Store.save r w.files settings.registryPath (some loaded.version) =
      (.ok saved, files)) :
    (w.mutate settings message edit).2.files = files ∧
      (w.mutate settings message edit).2.supply = drawn := by
  rw [mutate_of_save message hload hchanged hsave]
  have haside : { w with files := files, supply := drawn }.Aside
      ({ w with files := files, supply := drawn }.announce settings message subject saved).2 :=
    aside_announce _ _ _
  exact ⟨haside.files, haside.supply⟩

/-- A change either fails without effect or is saved. -/
theorem mutate_cases (settings : Settings) (w : World) (message : Option String) {edit : Edit}
    (hdraws : edit.Draws) :
    w.Fails (fun url => w.mutate (settings.controlledAt url) message edit) ∨
      ∃ loaded left r subject drawn saved files,
        Store.load w.supply w.files settings.registryPath = (.ok loaded, left) ∧
          changed edit left loaded = (.ok (r, subject), drawn) ∧
          Store.save r w.files settings.registryPath (some loaded.version) =
            (.ok saved, files) := by
  obtain ⟨⟨answer, left⟩, hload⟩ : ∃ result,
      Store.load w.supply w.files settings.registryPath = result := ⟨_, rfl⟩
  have hpath : ∀ url, (settings.controlledAt url).registryPath = settings.registryPath :=
    fun url => rfl
  have hread : w.Untouched { w with supply := left } := by
    apply untouched_of_draws
    have hextends := Store.extends_load w.supply w.files settings.registryPath
    rwa [hload] at hextends
  cases answer with
  | error failure =>
      refine Or.inl ?_
      cases failure with
      | fault fault =>
          refine ⟨_, _, Result.isFailure_fault fault, hread, fun url => ?_⟩
          simp only [mutate, withRegistry, load, hpath, hload]
      | refused why =>
          refine ⟨_, _, Result.isFailure_refused (.store why), hread, fun url => ?_⟩
          simp only [mutate, withRegistry, load, hpath, hload]
  | ok loaded =>
      obtain ⟨⟨outcome, drawn⟩, hchanged⟩ : ∃ result, changed edit left loaded = result :=
        ⟨_, rfl⟩
      have hdrawn : w.Untouched { w with supply := drawn } :=
        hread.trans (untouched_of_draws (hdraws.changed hchanged))
      cases outcome with
      | error failure =>
          refine Or.inl ?_
          cases failure with
          | fault fault =>
              refine ⟨_, _, Result.isFailure_fault fault, hdrawn, fun url => ?_⟩
              simp only [mutate, withRegistry, load, hpath, hload, commit, hchanged]
          | rejected why =>
              refine ⟨_, _, Result.isFailure_refused (.rejected why), hdrawn, fun url => ?_⟩
              simp only [mutate, withRegistry, load, hpath, hload, commit, hchanged]
      | ok edited =>
          obtain ⟨r, subject⟩ := edited
          obtain ⟨⟨written, files⟩, hsave⟩ : ∃ result,
              Store.save r w.files settings.registryPath (some loaded.version) = result :=
            ⟨_, rfl⟩
          cases written with
          | ok saved =>
              exact Or.inr ⟨loaded, left, r, subject, drawn, saved, files, hload, hchanged, hsave⟩
          | error failure =>
              have hfiles : w.Untouched { w with files := files, supply := drawn } :=
                ⟨⟨(Store.save_error hsave).2, hdrawn.supply⟩, rfl⟩
              refine Or.inl ?_
              cases failure with
              | fault fault =>
                  refine ⟨_, _, Result.isFailure_fault fault, hfiles, fun url => ?_⟩
                  simp only [mutate, withRegistry, load, hpath, hload, commit, hchanged, save,
                    hsave]
              | refused why =>
                  refine ⟨_, _, Result.isFailure_refused (.store why), hfiles, fun url => ?_⟩
                  simp only [mutate, withRegistry, load, hpath, hload, commit, hchanged, save,
                    hsave]

/-- A request that is turned down has no effect. -/
theorem fails_withRequest {α : Type} {request : Requested α} {next : String → α → World → Result × World}
    (h : ∀ a, request ≠ .ok a) : w.Fails fun url => w.withRequest request (next url) := by
  cases request with
  | ok a => exact absurd rfl (h a)
  | error e =>
      cases e with
      | fault fault =>
          exact ⟨_, _, Result.isFailure_fault fault, Untouched.refl w, fun _ => rfl⟩
      | rejected why =>
          exact ⟨_, _, Result.isFailure_refused (.rejected why), Untouched.refl w, fun _ => rfl⟩

theorem withRequest_ok {α : Type} {request : Requested α} {a : α} (h : request = .ok a)
    (next : α → World → Result × World) : w.withRequest request next = next a w := by
  rw [h, withRequest]

end World

namespace Operation

variable {settings : Settings} {op : Operation} {w : World}

/-- An operation with an edit changes the stored registry by it. -/
theorem Edits.run_eq {read : Supply} {edit : Edit} (h : op.Edits settings w.supply read edit) :
    ∃ message, ∀ url, op.run (settings.controlledAt url) w =
      { w with supply := read }.mutate (settings.controlledAt url) message edit := by
  cases h with
  | setBaseDomain h => exact ⟨_, fun url => World.withRequest_ok h _⟩
  | addHost h =>
      refine ⟨none, fun url => ?_⟩
      rw [run, World.addHost, World.withRequest_ok h]
      rfl
  | updateHost id updates => exact ⟨_, fun url => rfl⟩
  | toggleHost id enabled => exact ⟨_, fun url => rfl⟩
  | deleteHost id => exact ⟨_, fun url => rfl⟩
  | addEnvironment h => exact ⟨_, fun url => World.withRequest_ok h _⟩
  | updateEnvironment id updates => exact ⟨_, fun url => rfl⟩
  | deleteEnvironment id => exact ⟨_, fun url => rfl⟩
  | addApplication h => exact ⟨_, fun url => World.withRequest_ok h _⟩
  | updateApplication id updates => exact ⟨_, fun url => rfl⟩
  | toggleApplication id enabled => exact ⟨_, fun url => rfl⟩
  | deleteApplication id => exact ⟨_, fun url => rfl⟩
  | switchProvider h => exact ⟨_, fun url => World.withRequest_ok h _⟩

/-- The supply that is left when the registry is read was drawn from. -/
theorem Edits.extends_read {supply read : Supply} {edit : Edit}
    (h : op.Edits settings supply read edit) : read.Extends supply := by
  cases h with
  | addHost h => exact supply.extends_draw
  | _ => exact .refl supply

/-- A request for a change is turned down, or it has an edit. -/
theorem edits_or_fails (h : op.isChange = true) (settings : Settings) (w : World) :
    w.Fails (fun url => op.run (settings.controlledAt url) w) ∨
      ∃ read edit, op.Edits settings w.supply read edit := by
  have hrequest : ∀ {α : Type} (request : Requested α)
      (next : String → α → World → Result × World),
      w.Fails (fun url => w.withRequest request (next url)) ∨ ∃ a, request = .ok a := by
    intro α request next
    by_cases hok : ∃ a, request = .ok a
    · exact Or.inr hok
    · exact Or.inl (World.fails_withRequest fun a ha => hok ⟨a, ha⟩)
  cases op with
  | setBaseDomain value =>
      exact (hrequest (Request.baseDomain value) _).imp_right fun ⟨_, h⟩ => ⟨_, _, .setBaseDomain h⟩
  | addHost data =>
      simp only [run, World.addHost]
      exact (hrequest (Host.draft data) _).imp_right fun ⟨_, h⟩ => ⟨_, _, .addHost h⟩
  | updateHost id updates => exact Or.inr ⟨_, _, .updateHost id updates⟩
  | toggleHost id enabled => exact Or.inr ⟨_, _, .toggleHost id enabled⟩
  | deleteHost id => exact Or.inr ⟨_, _, .deleteHost id⟩
  | addEnvironment data =>
      exact (hrequest (Environment.requested data) _).imp_right
        fun ⟨_, h⟩ => ⟨_, _, .addEnvironment h⟩
  | updateEnvironment id updates => exact Or.inr ⟨_, _, .updateEnvironment id updates⟩
  | deleteEnvironment id => exact Or.inr ⟨_, _, .deleteEnvironment id⟩
  | addApplication data =>
      exact (hrequest (Application.draft data) _).imp_right
        fun ⟨_, h⟩ => ⟨_, _, .addApplication h⟩
  | updateApplication id updates => exact Or.inr ⟨_, _, .updateApplication id updates⟩
  | toggleApplication id enabled => exact Or.inr ⟨_, _, .toggleApplication id enabled⟩
  | deleteApplication id => exact Or.inr ⟨_, _, .deleteApplication id⟩
  | switchProvider data =>
      exact (hrequest (settings.providerSwitch data) _).imp_right
        fun ⟨_, h⟩ => ⟨_, _, .switchProvider h⟩
  | _ => cases h

/-- An operation whose change is saved goes on to the announcement of what was saved. -/
theorem Saves.run_eq {loaded saved : Registry} {subject : Subject} {written : World}
    (h : op.Saves settings w loaded subject saved written) :
    ∃ message, ∀ url, op.run (settings.controlledAt url) w =
      written.announce (settings.controlledAt url) message subject saved := by
  obtain ⟨hedits, hload, hchanged, hsave⟩ := h
  obtain ⟨message, hrun⟩ := hedits.run_eq
  refine ⟨message, fun url => ?_⟩
  rw [hrun]
  exact World.mutate_of_save message hload hchanged hsave

/-- An operation that changes the registry fails without effect or saves its change. -/
theorem change_cases (h : op.isChange = true) (settings : Settings) (w : World) :
    w.Fails (fun url => op.run (settings.controlledAt url) w) ∨
      ∃ loaded subject saved written, op.Saves settings w loaded subject saved written := by
  rcases edits_or_fails h settings w with hfails | ⟨read, edit, hedits⟩
  · exact Or.inl hfails
  · obtain ⟨message, hrun⟩ := hedits.run_eq
    rcases World.mutate_cases settings { w with supply := read } message hedits.draws with
      ⟨result, w', hresult, huntouched, hmutate⟩ |
        ⟨loaded, left, r, subject, drawn, saved, files, hload, hchanged, hsave⟩
    · refine Or.inl ⟨result, w', hresult, ?_, fun url => (hrun url).trans (hmutate url)⟩
      exact (World.untouched_of_draws hedits.extends_read).trans huntouched
    · exact Or.inr ⟨loaded, subject, saved, _, .intro hedits hload hchanged hsave⟩

/-- What is saved is what an edit makes of the registry that was read. -/
theorem Saves.runs {loaded saved : Registry} {subject : Subject} {written w' : World}
    (h : op.Saves settings w loaded subject saved written) (haside : written.Aside w') :
    op.Runs settings w w' := by
  obtain @⟨edit, read, left, drawn, loaded, r, saved, subject, files, hedits, hload, hchanged,
    hsave⟩ := h
  obtain ⟨-, rfl, hwritable, hbytes⟩ := Store.save_ok hsave
  have hread : w.Kept { w with supply := read } := ⟨fun _ => rfl, hedits.extends_read⟩
  have hdrawn : w'.supply = drawn := haside.supply
  refine Or.inr ⟨edit, { w with supply := read }, hedits, hread, loaded, left, r, subject, hload,
    ?_, ?_⟩
  · rw [hdrawn, hchanged]
  · exact World.Stores.of_aside ⟨hwritable, hbytes⟩ haside

/-- An operation that does not change the registry writes nothing. -/
theorem kept_run (h : op.isChange = false) (settings : Settings) (w : World) :
    w.Kept (op.run settings w).2 := by
  cases op with
  | reload => exact World.kept_repush settings "Proxy configuration reloaded" w
  | renew => exact World.kept_repush settings "Certificate renewal triggered" w
  | showStatus => exact World.kept_showStatus settings w
  | showCertificates => exact World.kept_showCertificates settings w
  | setBaseDomain | addHost | updateHost | deleteHost | toggleHost | addEnvironment
  | updateEnvironment | deleteEnvironment | addApplication | updateApplication | deleteApplication
  | toggleApplication | switchProvider => cases h
  | _ => exact World.kept_view _

/-- Running an operation edits the registry by an edit of the operation, or writes nothing. -/
theorem runs (op : Operation) (settings : Settings) (w : World) :
    op.Runs settings w (op.run settings w).2 := by
  cases hchange : op.isChange with
  | false => exact Or.inl (kept_run hchange settings w)
  | true =>
      rcases change_cases hchange settings w with
        ⟨result, w', -, huntouched, hrun⟩ | ⟨loaded, subject, saved, written, hsaves⟩
      · have hsame : op.run settings w = (result, w') := hrun settings.adminUrl
        rw [hsame]
        exact Or.inl huntouched.toKept
      · obtain ⟨message, hrun⟩ := hsaves.run_eq
        have hsame : op.run settings w = written.announce settings message subject saved :=
          hrun settings.adminUrl
        rw [hsame]
        exact hsaves.runs (World.aside_announce message subject saved)

end Operation

end EdgeProxy
