import EdgeProxy.Proofs.Operation.Change
import EdgeProxy.Proofs.Operation.Identifiers
/-!
An operation that changes the registry has each of its effects once, or none of them.  A change that is
refused leaves the content of every file as it was and sends nothing; a change that succeeds replaces
the file once, by a document one version later, and sends what it saved once.
-/

namespace EdgeProxy

/-- A file was replaced, once, in a directory that was made if it was not there. -/
def Files.ReplacedOnce (files : Files) (path : Path) (bytes : List UInt8) (after : Files) : Prop :=
  ∃ made, files.makeDirectories path.parent = .ok made ∧ made.replace path bytes = (.ok (), after)

theorem Store.save_replaces {registry saved : Registry} {files after : Files} {path : Path}
    {expected : Option Int} (h : save registry files path expected = (.ok saved, after)) :
    files.ReplacedOnce path (Text.encode saved.fileText) after := by
  rw [save] at h
  split at h
  · cases h
  · rw [replace] at h
    split at h
    · cases h
    next made hmade =>
      dsimp only at h
      split at h
      · cases h
      · split at h
        next files hreplace =>
          cases h
          exact ⟨made, hmade, hreplace⟩
        · cases h
        · cases h

namespace Answer

/-- Whether an operation succeeded is told by its answer. -/
theorem get?_success (answer : Answer) :
    Fields.get? answer.fields "success" = some (.bool answer.isSuccess) := by
  cases answer <;> rfl

end Answer

namespace World

/-- A change was carried out, each of its effects once: the file was replaced by a document one version
later, and what was saved was sent, by one request; then the live configuration was asked for, by one request, exactly
if what was sent was accepted and that is wanted.  Besides, each of the two is only followed to the addresses it is
sent on to. -/
structure ChangedOnce (settings : Settings) (loaded saved : Registry) (applied : Applied)
    (w w' : World) : Prop where
  version : saved.version = loaded.version + 1
  replaced : w.files.ReplacedOnce settings.registryPath (Text.encode saved.fileText) w'.files
  document : Store.document w'.files settings.registryPath = .ok (some saved.encodeFields)
  stored : Store.version w'.files settings.registryPath = .ok (.number (loaded.version + 1))
  sent : Sends settings saved w.line applied w'.line
  once : (w'.line.requests.drop w.line.requests.length).filter (·.method == "POST") =
    if settings.client.arrives then
      [⟨"POST", settings.client.address Client.loadPath, settings.client.timeout, some configContentType,
        some (saved.compile settings).toJson⟩]
    else []
  attempted : settings.client.arrives = true → w'.line.requests = w.line.requests ++
    (⟨"POST", settings.client.address Client.loadPath, settings.client.timeout, some configContentType,
      some (saved.compile settings).toJson⟩ :: w.line.proxy.onPush.hops.map settings.client.follow ++
      if applied.push.accepted && settings.confirmPush then
        ⟨"GET", settings.client.address Client.configPath, settings.client.timeout, none, none⟩ ::
          w.line.proxy.onRead.hops.map settings.client.follow
      else [])

end World

namespace Operation

variable {settings : Settings} {op : Operation} {w : World}

theorem Saves.line_eq {loaded saved : Registry} {subject : Subject} {written : World}
    (h : op.Saves settings w loaded subject saved written) : written.line = w.line := by
  obtain ⟨-, -, -, -⟩ := h
  rfl

/-- What is saved does not depend on the proxy. -/
theorem Saves.onLine {loaded saved : Registry} {subject : Subject} {written : World}
    (h : op.Saves settings w loaded subject saved written) (line : Line) :
    op.Saves settings { w with line := line } loaded subject saved { written with line := line } := by
  obtain ⟨hedits, hload, hchanged, hsave⟩ := h
  exact .intro hedits hload hchanged hsave

/-- What is saved was computed from what was loaded, and takes the place of the file. -/
theorem Saves.stores {loaded saved : Registry} {subject : Subject} {written : World}
    (h : op.Saves settings w loaded subject saved written) :
    saved.WellFormed ∧ written.Stores settings saved ∧ saved.version = loaded.version + 1 := by
  obtain ⟨hedits, hload, hchanged, hsave⟩ := h
  obtain ⟨-, rfl, hwritable, hbytes⟩ := Store.save_ok hsave
  obtain ⟨hkeeps, -⟩ := changed_ok hedits.sound (Store.wellFormed_of_load hload) hchanged
  refine ⟨Store.advance_wellFormed hkeeps.wellFormed, ⟨hwritable, hbytes⟩, ?_⟩
  rw [Store.advance, hkeeps.version]

/-- What is saved is read back as it is stored. -/
theorem Saves.ready {loaded saved : Registry} {subject : Subject} {written : World}
    (h : op.Saves settings w loaded subject saved written) : written.Ready settings saved.stored :=
  World.ready_of_stores h.stores.1 h.stores.2.1

theorem Saves.changedOnce {loaded saved : Registry} {subject : Subject} {written : World}
    (h : op.Saves settings w loaded subject saved written) {applied : Applied} {line : Line}
    (hsent : Sends settings saved written.line applied line) :
    w.ChangedOnce settings loaded saved applied { written with line := line } := by
  obtain ⟨hwell, hstores, hversion⟩ := h.stores
  refine ⟨hversion, ?_, Store.document_of_written hwell hstores.writable hstores.bytes, ?_, ?_, ?_, ?_⟩
  · obtain ⟨-, -, -, hsave⟩ := h
    exact Store.save_replaces hsave
  · rw [← hversion]
    exact Store.version_of_written hwell hstores.writable hstores.bytes
  · rwa [h.line_eq] at hsent
  · rw [hsent.requests, h.line_eq, List.drop_left]
    exact settings.attempts_posts _ _ _
  · intro harrives
    rw [h.line_eq] at hsent
    rw [hsent.accepted, ← Settings.attempts_of_arrives harrives]
    exact hsent.requests

/-- An operation whose change is saved sends it once; it ends in a fault exactly if one of the replies is
one. -/
theorem Saves.run_spec {loaded saved : Registry} {subject : Subject} {written : World}
    (h : op.Saves settings w loaded subject saved written) :
    (∃ fault line, settings.exchangeFault? (saved.compile settings).toJson w.line = some fault ∧
        op.run settings w = (.error fault, { written with line := line }) ∧ Sent settings saved w.line line) ∨
      settings.exchangeFault? (saved.compile settings).toJson w.line = none ∧
        ∃ message applied line, op.run settings w =
            (.ok (.saved message subject applied), { written with line := line }) ∧
          Sends settings saved w.line applied line := by
  obtain ⟨message, hrun⟩ := h.run_eq
  have hrun : op.run settings w = written.announce settings message subject saved :=
    hrun settings.adminUrl
  rw [hrun, ← h.line_eq]
  unfold World.announce
  rcases World.apply_spec settings saved written with
    ⟨fault, line, hfault, happly, hsent⟩ | ⟨hnone, applied, line, happly, hsent⟩
  · refine Or.inl ⟨fault, line, hfault, ?_, hsent⟩
    simp only [happly]
  · refine Or.inr ⟨hnone, message, applied, line, ?_, hsent⟩
    simp only [happly]

end Operation

namespace World

end World

namespace FirstDomain

/-- The registry in which only the base domain is set. -/
def registry : Registry := Registry.initial.setBaseDomain "example.org"

theorem isWritable_registry : (Store.advance registry).encode.isWritable = true := by
  simp [Registry.encode, Registry.encodeFields, registry, Registry.initial, Registry.setBaseDomain,
    Store.advance, Environment.initial, Environment.encode, WildcardProvider.encode,
    WildcardProvider.encodeFields, WildcardProvider.off, kept, Json.finiteFields, Json.texts,
    Json.isWritable_obj, Json.isWritable_arr, Json.isWritable_str, Json.isWritable_bool,
    Json.isWritable_int, currentSchema, Json.writableItems, Json.writableFields]

/-- Where nothing is stored, the base domain can be set, wherever the control plane is. -/
theorem saves (url : String) :
    ∃ written, (Operation.setBaseDomain (.str "example.org")).Saves
      (Settings.standard.controlledAt url) World.empty .initial (.baseDomain "example.org")
      (Store.advance registry) written := by
  have hrequest : Request.baseDomain (.str "example.org") = .ok "example.org" := rfl
  have hready : World.empty.Ready (Settings.standard.controlledAt url) .initial :=
    World.ready_initial rfl
  have hvalid : registry.Valid := ⟨by decide, by decide, by decide, nofun, by decide⟩
  obtain ⟨made, hmade, hreplace⟩ : ∃ made,
      World.empty.files.makeDirectories Settings.standard.registryPath.parent = .ok made ∧
        ∀ bytes, (made.replace Settings.standard.registryPath bytes).1 = .ok () :=
    ⟨_, rfl, fun _ => rfl⟩
  have hchanged : changed
      (.ofChange fun r => .ok (r.setBaseDomain "example.org", .baseDomain "example.org"))
      World.empty.supply .initial =
        (.ok (registry, .baseDomain "example.org"), World.empty.supply) :=
    changed_eq_ok.mpr ⟨registry, rfl, rfl, (Registry.violations_eq_nil_iff _).mpr hvalid⟩
  exact ⟨_, .intro (.setBaseDomain hrequest) (hready.load _) hchanged
    (hready.save hmade isWritable_registry (Prod.ext (hreplace _) rfl))⟩

end FirstDomain

namespace World

theorem standard_arrives : Settings.standard.client.arrives = true := by decide +kernel

theorem returns_empty : Settings.standard.Returns empty.line :=
  Settings.returns_of_live standard_arrives rfl rfl rfl (Nat.le_refl _) (Nat.le_refl _)

end World

end EdgeProxy
