import EdgeProxy.Proofs.Certificate.Report
import EdgeProxy.Proofs.Operation.Apply
import EdgeProxy.Proofs.Operation.Valid
import EdgeProxy.Proofs.Store.Legible
import EdgeProxy.Report.Check
import EdgeProxy.Report.Health
/-!
What becomes of a broken registry file.  An operation that looks at the stored registry, the check and the health
of the registry have an answer exactly if the content of the file is legible; on any other content they end in the
fault that reading ends in, and so does every change.  The report on certificates and the health of the whole ask
others besides, whose replies may be faults of their own.
-/

namespace EdgeProxy

/-- The operations that show something of the stored registry and do nothing else. -/
def Operation.isView : Operation → Bool
  | .showConfig | .listHosts | .listEnvironments | .listApplications | .showProvider
  | .showSystemRoute | .preview => true
  | _ => false

namespace World

/-- The registry file is missing, or its content is legible. -/
def HasLegible (settings : Settings) (w : World) : Prop :=
  Store.HasLegible w.files settings.registryPath

variable {settings : Settings} {w : World}

/-- How a reading ends: with a registry of the current layout or with a reason, both from a legible file,
or in a fault. -/
inductive Reads (settings : Settings) (w : World) : Prop where
  | registry {r : Registry} {left : Supply}
      (hload : w.load settings = (.ok r, { w with supply := left })) (hlegible : w.HasLegible settings)
  | refusal {why : StoreError} {left : Supply}
      (hload : w.load settings = (.error (.refused why), { w with supply := left }))
      (hlegible : w.HasLegible settings)
  | fault {fault : Fault} {w' : World} (hload : w.load settings = (.error (.fault fault), w'))
      (hlegible : ¬ w.HasLegible settings)

theorem reads (settings : Settings) (w : World) : Reads settings w := by
  have hends := Store.ends_load_iff_legible w.supply w.files settings.registryPath
  obtain ⟨⟨result, left⟩, hload⟩ :
      ∃ result, Store.load w.supply w.files settings.registryPath = result := ⟨_, rfl⟩
  have hworld : w.load settings = (result, { w with supply := left }) := by
    rw [load, hload]
  rw [hload] at hends
  cases result with
  | ok r => exact .registry hworld (hends.mp (.read (Store.schemaVersion_of_load hload)))
  | error failure =>
      cases failure with
      | refused why => exact .refusal hworld (hends.mp (.refused why))
      | fault fault =>
          refine .fault hworld fun h => ?_
          cases hends.mpr h

/-- What goes on with the stored registry and always has an answer has one exactly on a legible file. -/
theorem withRegistry_answers_iff {next : Registry → World → Result × World}
    (hnext : ∀ r w, ∃ answer, (next r w).1 = .ok answer) :
    (∃ answer, (w.withRegistry settings next).1 = .ok answer) ↔ w.HasLegible settings := by
  rw [withRegistry]
  cases reads settings w with
  | registry hload h =>
      rw [hload]
      exact iff_of_true (hnext _ _) h
  | refusal hload h =>
      rw [hload]
      exact iff_of_true ⟨_, rfl⟩ h
  | fault hload h =>
      rw [hload]
      exact iff_of_false (by simp) h

theorem view_answers_iff {describe : Registry → Fields} :
    (∃ answer, (w.view settings describe).1 = .ok answer) ↔ w.HasLegible settings :=
  withRegistry_answers_iff fun _ _ => ⟨_, rfl⟩

theorem run_answers_iff {op : Operation} (hop : op.isView = true) :
    (∃ answer, (op.run settings w).1 = .ok answer) ↔ w.HasLegible settings := by
  cases op with
  | showConfig | listHosts | listEnvironments | listApplications | showProvider | showSystemRoute
  | preview => exact view_answers_iff
  | _ => cases hop

/-- No hostname that is connected to for the stored registry raises a fault. -/
def AllAnswer (settings : Settings) (w : World) : Prop :=
  ∀ r w', w.load settings = (.ok r, w') → ∀ job ∈ r.probeDomains, ∀ fault, ¬ (w.peers job.2).Raises fault

theorem exists_certificates_iff (settings : Settings) (w : World) (r : Registry) :
    (∃ report, (w.certificates settings r).1 = .ok report) ↔
      ∀ job ∈ r.probeDomains, ∀ fault, ¬ (w.peers job.2).Raises fault :=
  Registry.exists_report_iff (r.complete_inTurn settings w.peers w.supply.now)

theorem showCertificates_answers_iff :
    (∃ answer, (Operation.showCertificates.run settings w).1 = .ok answer) ↔
      w.HasLegible settings ∧ w.AllAnswer settings := by
  unfold Operation.run showCertificates withRegistry
  cases reads settings w with
  | @registry r left hload h =>
      have hall : w.AllAnswer settings ↔
          ∀ job ∈ r.probeDomains, ∀ fault, ¬ (w.peers job.2).Raises fault := by
        refine ⟨fun hall => hall r _ hload, fun hall r' w' hload' => ?_⟩
        cases hload.symm.trans hload'
        exact hall
      have hreport := exists_certificates_iff settings { w with supply := left } r
      rw [hload, and_iff_right h, hall]
      refine Iff.trans ?_ hreport
      dsimp only
      rcases ({ w with supply := left } : World).certificates settings r with ⟨fault | entries, after⟩
      · exact iff_of_false (fun ⟨_, h⟩ => by cases h) fun ⟨_, h⟩ => by cases h
      · exact iff_of_true ⟨_, rfl⟩ ⟨_, rfl⟩
  | refusal hload h =>
      rw [hload]
      exact iff_of_true ⟨_, rfl⟩ ⟨h, fun r w' hload' => by cases hload.symm.trans hload'⟩
  | fault hload h =>
      rw [hload]
      exact iff_of_false (fun ⟨_, h'⟩ => by cases h') fun h' => h h'.1

theorem check_answers_iff :
    (∃ result, (w.check settings).1 = .ok result) ↔ w.HasLegible settings := by
  rw [check]
  cases reads settings w with
  | registry hload h => simp [hload, h]
  | refusal hload h => simp [hload, h]
  | fault hload h => simp [hload, h]

/-- Examining the registry leaves the line alone. -/
theorem registryHealth_spec (settings : Settings) (w : World) :
    (∃ part left, w.registryHealth settings = (.ok part, { w with supply := left }) ∧ w.HasLegible settings) ∨
      ∃ fault w', w.registryHealth settings = (.error fault, w') ∧ ¬ w.HasLegible settings := by
  unfold registryHealth
  cases reads settings w with
  | registry hload h => exact .inl ⟨_, _, by rw [hload], h⟩
  | refusal hload h => exact .inl ⟨_, _, by rw [hload], h⟩
  | fault hload h => exact .inr ⟨_, _, by rw [hload], h⟩

theorem registryHealth_answers_iff :
    (∃ part, (w.registryHealth settings).1 = .ok part) ↔ w.HasLegible settings := by
  rcases registryHealth_spec settings w with ⟨part, left, hpart, h⟩ | ⟨fault, w', hfault, h⟩
  · rw [hpart]
    exact iff_of_true ⟨part, rfl⟩ h
  · rw [hfault]
    exact iff_of_false (fun ⟨_, h'⟩ => by cases h') h

theorem exists_proxyHealth_iff (settings : Settings) (w : World) :
    (∃ part, (w.proxyHealth settings).1 = .ok part) ↔ settings.client.readFault? w.line = none := by
  rw [← settings.client.exists_status_iff]
  unfold proxyHealth exchange
  dsimp only
  rcases settings.client.status w.line with ⟨fault | status, line⟩
  · exact iff_of_false (fun ⟨_, h⟩ => by cases h) fun ⟨_, h⟩ => by cases h
  · exact iff_of_true ⟨_, rfl⟩ ⟨_, rfl⟩

/-- The whole is examined exactly if the file is legible and the question for the live configuration returns. -/
theorem health_answers_iff :
    (∃ report, (w.health settings).1 = .ok report) ↔
      w.HasLegible settings ∧ settings.client.readFault? w.line = none := by
  unfold health
  rcases registryHealth_spec settings w with ⟨part, left, hpart, h⟩ | ⟨fault, w', hfault, h⟩
  · have hproxy := exists_proxyHealth_iff settings { w with supply := left }
    rw [hpart, and_iff_right h]
    refine Iff.trans ?_ hproxy
    dsimp only
    rcases ({ w with supply := left } : World).proxyHealth settings with ⟨fault | proxy, after⟩
    · exact iff_of_false (fun ⟨_, h⟩ => by cases h) fun ⟨_, h⟩ => by cases h
    · exact iff_of_true ⟨_, rfl⟩ ⟨_, rfl⟩
  · rw [hfault]
    exact iff_of_false (fun ⟨_, h'⟩ => by cases h') fun h' => h h'.1

/-- How a change begins on a legible file: it is turned down with the reason that reading gives, or goes
on with the registry that was read. -/
inductive Begins (settings : Settings) (message : Option String) (edit : Edit) (w : World) : Prop where
  | refused {why : StoreError} {w' : World} (hload : w.load settings = (.error (.refused why), w'))
      (hmutate : w.mutate settings message edit = (.ok (.refused (.store why)), w'))
  | read {r : Registry} {w' : World} (hload : w.load settings = (.ok r, w'))
      (hmutate : w.mutate settings message edit = w'.commit settings message edit r)

theorem mutate_begins_iff (message : Option String) (edit : Edit) :
    Begins settings message edit w ↔ w.HasLegible settings := by
  cases reads settings w with
  | registry hload h => exact iff_of_true (.read hload (by rw [mutate, withRegistry, hload])) h
  | refusal hload h => exact iff_of_true (.refused hload (by rw [mutate, withRegistry, hload])) h
  | fault hload h =>
      refine iff_of_false ?_ h
      rintro (⟨hload', -⟩ | ⟨hload', -⟩) <;> cases hload.symm.trans hload'

theorem mutate_of_illegible (h : ¬ w.HasLegible settings) (message : Option String) (edit : Edit) :
    ∃ fault, (w.load settings).1 = .error (.fault fault) ∧
      (w.mutate settings message edit).1 = .error fault := by
  cases reads settings w with
  | registry _ h' => exact absurd h' h
  | refusal _ h' => exact absurd h' h
  | fault hload => exact ⟨_, by rw [hload], by rw [mutate, withRegistry, hload]⟩

/-- A broken registry file is reported as such exactly if its content is legible.  The report on certificates needs
besides that no hostname raises a fault, and the health of the whole that the question for the live configuration
returns.  Here there is room for any depth; programs that have less have as much as is assumed of the file. -/
theorem broken_file_is_reported_iff_legible {settings : Settings} {w : World}
    (_hshallow : Store.IsShallow w.files settings.registryPath) :
    (Store.Ends (w.load settings).1 ↔ w.HasLegible settings) ∧
      (∀ op : Operation, op.isView = true →
        ((∃ answer, (op.run settings w).1 = .ok answer) ↔ w.HasLegible settings)) ∧
      ((∃ answer, (Operation.showCertificates.run settings w).1 = .ok answer) ↔
        w.HasLegible settings ∧ w.AllAnswer settings) ∧
      ((∃ result, (w.check settings).1 = .ok result) ↔ w.HasLegible settings) ∧
      ((∃ part, (w.registryHealth settings).1 = .ok part) ↔ w.HasLegible settings) ∧
      ((∃ report, (w.health settings).1 = .ok report) ↔
        w.HasLegible settings ∧ settings.client.readFault? w.line = none) ∧
      ∀ message edit, (Begins settings message edit w ↔ w.HasLegible settings) ∧
        (¬ w.HasLegible settings → ∃ fault, (w.load settings).1 = .error (.fault fault) ∧
          (w.mutate settings message edit).1 = .error fault) :=
  ⟨Store.ends_load_iff_legible .., fun _ => run_answers_iff, showCertificates_answers_iff, check_answers_iff,
    registryHealth_answers_iff, health_answers_iff,
    fun message edit =>
      ⟨mutate_begins_iff message edit, fun h => mutate_of_illegible h message edit⟩⟩

/-- The registry file has a given content. -/
def holding (settings : Settings) (bytes : List UInt8) : World :=
  { empty with files := ⟨[(settings.registryPath.resolve, .file bytes)], fun _ => none⟩ }

theorem content?_holding (settings : Settings) (bytes : List UInt8) :
    (holding settings bytes).files.content? settings.registryPath = some (.ok bytes) := by
  simp [holding, Files.content?, Files.lookup?]

/-- A document with a text in the place of an application. -/
def misshapen : Fields := [("applications", .arr [.str "shop"])]

theorem portable_misshapen : (Json.obj misshapen).Portable where
  distinct := by
    have hitems : ∀ v ∈ [Json.str "shop"], v.Distinct := by simp [Json.Distinct]
    rw [misshapen, Json.distinct_obj, List.forall_mem_singleton]
    exact ⟨by simp, Json.distinct_arr.mpr hitems⟩
  writable := by
    simp [misshapen, Json.isWritable_obj, Json.isWritable_arr, Json.isWritable_str,
      Json.writableFields, Json.writableItems]

/-- A file whose document has a text for an application. -/
def misshapenFile : World := holding .standard (Text.encode ((Json.obj misshapen).render .file ++ "\n"))

theorem isShallow_misshapenFile :
    Store.IsShallow misshapenFile.files Settings.standard.registryPath := by
  intro bytes text hbytes htext
  have hwritten : Text.encode ((Json.obj misshapen).render .file ++ "\n") = bytes :=
    Except.ok.inj (Option.some.inj ((content?_holding .standard _).symm.trans hbytes))
  have hread : (Json.obj misshapen).render .file ++ "\n" = text :=
    Except.ok.inj ((Text.decode_encode _).symm.trans (hwritten ▸ htext))
  rw [← hread]
  exact Json.overflows_render_append (by decide) .file (by simp [Json.Unmarked, Json.isMark])

theorem load_misshapenFile : (misshapenFile.load .standard).1 = .error (.fault .noFields) := by
  have hread := Json.read_render portable_misshapen
  have hupgrade : Migration.upgrade (Migration.stripDeprecated misshapen) = .error (.fault .noFields) := rfl
  simp only [misshapenFile, load, Store.load, Store.document, content?_holding, Text.decode_encode, hread,
    Store.currentDocument, hupgrade]

/-- Without a file everything is told; with a text for an application, neither the check nor the health of the
registry is, and no change is refused. -/
theorem broken_file_is_reported_iff_legible_misshapen :
    Store.IsShallow empty.files Settings.standard.registryPath ∧
      (∃ part, (empty.registryHealth .standard).1 = .ok part) ∧
      Store.IsShallow misshapenFile.files Settings.standard.registryPath ∧
      ¬ misshapenFile.HasLegible .standard ∧ (¬ ∃ result, (misshapenFile.check .standard).1 = .ok result) ∧
      (¬ ∃ part, (misshapenFile.registryHealth .standard).1 = .ok part) ∧
      ∀ message edit, ∃ fault, (misshapenFile.mutate .standard message edit).1 = .error fault := by
  have hempty : Store.IsShallow empty.files Settings.standard.registryPath := fun bytes text h => by cases h
  have hlegible : empty.HasLegible .standard := fun bytes h => by cases h
  obtain ⟨-, -, -, -, htold, -⟩ := broken_file_is_reported_iff_legible hempty
  obtain ⟨hends, -, -, hcheck, hhealth, -, hchanges⟩ :=
    broken_file_is_reported_iff_legible isShallow_misshapenFile
  have hnot : ¬ misshapenFile.HasLegible .standard := by
    rw [← hends, load_misshapenFile]
    exact fun h => by cases h
  refine ⟨hempty, htold.mpr hlegible, isShallow_misshapenFile, hnot, mt hcheck.mp hnot, mt hhealth.mp hnot,
    fun message edit => ?_⟩
  obtain ⟨fault, -, hfault⟩ := (hchanges message edit).2 hnot
  exact ⟨fault, hfault⟩

/-- A file that is cut off within a character, and a file whose document has a text for an application,
end the reading in a fault, and with it every change. -/
theorem broken_files_end_in_faults :
    ((holding .standard [0xC3]).load .standard).1 = .error (.fault (.undecodable .ending)) ∧
      (misshapenFile.load .standard).1 = .error (.fault .noFields) ∧
      ∀ message edit, ((holding .standard [0xC3]).mutate .standard message edit).1 =
        .error (.undecodable .ending) := by
  have hcut : ((holding .standard [0xC3]).load .standard).1 =
      .error (.fault (.undecodable .ending)) := by
    have hdecode : Text.decode [0xC3] = .error .ending := by decide
    simp only [load, Store.load, Store.document, content?_holding, hdecode]
  refine ⟨hcut, load_misshapenFile, fun message edit => ?_⟩
  · rw [mutate, withRegistry]
    split
    next fault w' hload =>
      rw [hload] at hcut
      cases hcut
      rfl
    next hload => rw [hload] at hcut; cases hcut
    next hload => rw [hload] at hcut; cases hcut

end World

end EdgeProxy
