import EdgeProxy.Proofs.File.Again
import EdgeProxy.Proofs.Operation.Toggle
/-!
Changes after which the same is stored as before, but for the version.  A registry that stands can be changed
by any edit that leads to a valid registry; if the edit leads back to a registry that stood before, the
document is the one that was there then, with another version.
-/

namespace EdgeProxy

section Lasting

theorem forall_of_map_eq_self {α : Type} {f : α → α} {l : List α} (h : l.map f = l) :
    ∀ a ∈ l, f a = a :=
  List.map_inj_left.mp (h.trans (List.map_id l).symm)

theorem EndpointSet.keeping_lasting {s : EndpointSet} (h : s.stored = s) : s.Keeping Lasting where
  frontend e he := by
    have hfrontend : s.frontend.map Endpoint.stored = s.frontend := congrArg EndpointSet.frontend h
    rw [he] at hfrontend
    exact congrArg Endpoint.extra (Option.some.inj hfrontend)
  apis a ha :=
    congrArg Api.extra (forall_of_map_eq_self (congrArg EndpointSet.apis h) a ha)
  extra := congrArg EndpointSet.extra h

theorem Application.WellFormed.keeping_lasting {a : Application} (hwell : a.WellFormed)
    (h : a.stored = a) : a.Keeping Lasting where
  environments := hwell.environments
  endpoints p hp :=
    EndpointSet.keeping_lasting
      (congrArg Prod.snd (forall_of_map_eq_self (congrArg Application.endpoints h) p hp))
  extra := congrArg Application.extra h

namespace Registry

variable {r r' : Registry}

theorem WellFormed.keeping_lasting (hwell : r.WellFormed) (h : r.stored = r) : r.Keeping Lasting where
  environments e he :=
    congrArg Environment.extra (forall_of_map_eq_self (congrArg Registry.environments h) e he)
  applications a ha :=
    (hwell.applications a ha).keeping_lasting (forall_of_map_eq_self (congrArg Registry.applications h) a ha)
  hosts a ha := congrArg Host.extra (forall_of_map_eq_self (congrArg Registry.hosts h) a ha)
  provider := congrArg WildcardProvider.extra (congrArg Registry.provider h)
  extra := congrArg Registry.extra h

/-- A change of a registry that is stored as it is leads to another one. -/
theorem Preserves.stored_eq (h : r.Preserves r') (hwell : r.WellFormed) (hstored : r.stored = r) :
    r'.stored = r' :=
  (h.keeping Lasting (fun _ => rfl) (hwell.keeping_lasting hstored)).stored_eq

end Registry

end Lasting

/-- Surroundings in which nothing stands in the way of a change: the system refuses nothing, and the exchange with
the control plane returns. -/
structure Surroundings.Unhindered (settings : Settings) (s : Surroundings) : Prop where
  refuses : ∀ step, s.refuses step = none
  returns : settings.Returns s.line

namespace World

variable {settings : Settings} {path : Path} {w w' : World} {r : Registry}

/-- A registry stands: it rests in the file, or it is the first one and there is no file. -/
structure Stands (path : Path) (r : Registry) (w : World) : Prop where
  ready : ∀ settings : Settings, settings.registryPath = path → w.Ready settings r
  document : ∃ before, Store.document w.files path = .ok before ∧
    before.getD Registry.initial.encodeFields = r.encodeFields
  stored : r.stored = r
  valid : r.Valid
  current : r.PatternsCurrent

theorem Rests.stands (h : w.Rests path r) : w.Stands path r where
  ready _ := h.ready
  document := ⟨_, h.document, rfl⟩
  stored := h.stored
  valid := h.valid
  current := h.current

theorem stands_initial (h : w.files.content? path = none) : w.Stands path .initial where
  ready _ hpath := ready_initial (hpath ▸ h)
  document := by
    refine ⟨none, ?_, rfl⟩
    rw [Store.document, h]
  stored := rfl
  valid := Registry.valid_initial
  current := Registry.patternsCurrent_initial

theorem Stands.of_content_eq (h : w.Stands path r)
    (heq : w'.files.content? path = w.files.content? path) : w'.Stands path r where
  ready settings hpath := (h.ready settings hpath).of_content_eq (hpath ▸ heq)
  document := by
    rw [Store.document, heq]
    exact h.document
  stored := h.stored
  valid := h.valid
  current := h.current

theorem Stands.load (h : w.Stands path r) (supply : Supply) :
    Store.load supply w.files path = (.ok r, supply) :=
  (h.ready { Settings.standard with registryPath := path } rfl).load supply

theorem Stands.wellFormed (h : w.Stands path r) : r.WellFormed :=
  Store.wellFormed_of_load (h.load w.supply)

/-- Only one registry stands. -/
theorem Stands.unique (h : w.Stands path r) {r' : Registry}
    (hload : ∀ supply, Store.load supply w.files path = (.ok r', supply)) : r' = r :=
  (h.ready { Settings.standard with registryPath := path } rfl).unique hload

/-- Wherever operations lead, a registry stands. -/
theorem Reachable.stands (h : Reachable path w) : ∃ r, w.Stands path r := by
  obtain ⟨r, hload, -, hvalid, hcurrent⟩ :=
    h.ready Registry.stable_patternsCurrent Registry.patternsCurrent_initial
  rcases h.absent_or_holds with hnone | ⟨written, hholds, hstored⟩
  · exact ⟨.initial, stands_initial hnone⟩
  · have hread := Store.load_of_written w.supply hholds.wellFormed hholds.writable hholds.bytes
    rw [hstored, hload] at hread
    cases hread
    have hrests : w.Rests path r := ⟨hholds, hstored, hvalid, hcurrent⟩
    exact ⟨r, hrests.stands⟩

/-- What is saved of what stands is made by an edit of the operation, and rests in the file. -/
theorem Stands.saved {op : Operation} {before saved : Registry} {subject : Subject} {written : World}
    (h : w.Stands settings.registryPath r)
    (hsaves : op.Saves settings w before subject saved written) :
    written.Rests settings.registryPath saved ∧ ∃ read edit edited drawn,
      op.Edits settings w.supply read edit ∧ edit read r = (.ok (edited, subject), drawn) ∧
        saved = Store.advance edited.refreshPatterns := by
  obtain ⟨hwell, hstores, -⟩ := hsaves.stores
  obtain ⟨hedits, hload, hchanged, hsave⟩ := hsaves
  cases (h.load _).symm.trans hload
  obtain ⟨edited, hedit, rfl, hviolations⟩ := changed_eq_ok.mp hchanged
  obtain ⟨-, rfl, -, -⟩ := Store.save_ok hsave
  have hvalid := (Registry.violations_eq_nil_iff _).mp hviolations
  have hpreserves := (hedits.preserving hedit).trans (Registry.preserves_refreshPatterns edited)
  have hstored := hpreserves.stored_eq h.wellFormed h.stored
  have hcurrent := (Registry.stable_patternsCurrent settings).changes (hedits.changes hedit) h.current
  refine ⟨⟨⟨hwell, hstores.writable, hstores.bytes⟩, congrArg Store.advance hstored,
    hvalid.of_outline_eq rfl, ⟨hcurrent.domains, hcurrent.base⟩⟩, ?_⟩
  exact ⟨_, _, edited, _, hedits, hedit, rfl⟩

/-- A valid change of what stands succeeds if nothing else is in its way, and what it leads to rests in the
file. -/
theorem Stands.change {op : Operation} {read drawn : Supply} {edit : Edit} {edited : Registry}
    {subject : Subject} (h : w.Stands settings.registryPath r)
    (hadmits : w.Admits settings r.version) (hedits : op.Edits settings w.supply read edit)
    (hedit : edit read r = (.ok (edited, subject), drawn)) (hvalid : edited.Valid) :
    ∃ message applied w', op.run settings w = (.ok (.saved message subject applied), w') ∧
      w'.Rests settings.registryPath (Store.advance edited.refreshPatterns) := by
  obtain ⟨written, hsaves⟩ := hedits.saves (h.ready settings rfl) hadmits hedit hvalid
  rcases hsaves.run_spec with ⟨fault, line, hfault, -⟩ | ⟨-, message, applied, line, hrun, -⟩
  · cases (hadmits.returns _).symm.trans hfault
  · exact ⟨message, applied, _, hrun, (h.saved hsaves).1.of_content_eq rfl⟩

/-- A change can be saved under any version that can be counted on, in surroundings where nothing stands in the way. -/
def Replaceable (settings : Settings) (w : World) : Prop :=
  ∀ (s : Surroundings) (version : Int), s.Unhindered settings →
    (Json.int (version + 1)).isWritable = true → (w.within s).Admits settings version

theorem replaceable_of_replacedOnce {bytes : List UInt8}
    (hreplaced : w.files.ReplacedOnce settings.registryPath bytes w'.files) :
    w'.Replaceable settings := by
  intro s version hunhindered hroom
  obtain ⟨made, hmade, hreplace⟩ := hreplaced
  exact ⟨hunhindered.returns, hroom, _, Files.replaceable_again hmade hreplace hunhindered.refuses⟩

theorem unhindered_offline (harrives : settings.client.arrives = true) : offline.Unhindered settings :=
  ⟨fun _ => rfl, returns_offline harrives⟩

/-- A change of what stands that has succeeded was made by an edit of the operation; what it led to rests in
the file, and can be changed again. -/
theorem Stands.changed {op : Operation} {answer : Answer} (h : w.Stands settings.registryPath r)
    (hchange : op.isChange = true) (hrun : op.run settings w = (.ok answer, w'))
    (hsuccess : answer.isSuccess = true) :
    ∃ read edit edited drawn message subject applied, op.Edits settings w.supply read edit ∧
      edit read r = (.ok (edited, subject), drawn) ∧ answer = .saved message subject applied ∧
      w'.Rests settings.registryPath (Store.advance edited.refreshPatterns) ∧
      w'.Replaceable settings := by
  rcases Operation.change_cases hchange settings w with
    ⟨result, failed, hfailure, -, hfails⟩ | ⟨before, subject, saved, written, hsaves⟩
  · have hsame : op.run settings w = (result, failed) := hfails settings.adminUrl
    rw [hrun] at hsame
    cases hsame
    cases hsuccess.symm.trans (hfailure answer rfl)
  · obtain ⟨hrests, read, edit, edited, drawn, hedits, hedit, rfl⟩ := h.saved hsaves
    rcases hsaves.run_spec with ⟨fault, line, -, hfault, -⟩ | ⟨-, message, applied, line, hsaved, hsent⟩
    · cases hrun.symm.trans hfault
    · cases hrun.symm.trans hsaved
      have honce := hsaves.changedOnce (hsaves.line_eq ▸ hsent)
      exact ⟨read, edit, edited, drawn, message, subject, applied, hedits, hedit, rfl,
        hrests.of_content_eq rfl, replaceable_of_replacedOnce honce.replaced⟩

/-- The same is stored as before, but for the version; where there was no file, the document of the first
registry counts as the one before. -/
structure SameButVersion (path : Path) (r : Registry) (version : Int) (w w' : World) : Prop where
  load : ∀ supply, Store.load supply w'.files path = (.ok { r with version := version }, supply)
  document : ∃ before, Store.document w.files path = .ok before ∧
    Store.document w'.files path =
      .ok (some ((before.getD Registry.initial.encodeFields).set "version" (.int version)))

theorem SameButVersion.of_content_eq {version : Int} {v : World}
    (h : SameButVersion path r version v w')
    (heq : v.files.content? path = w.files.content? path) : SameButVersion path r version w w' where
  load := h.load
  document := by
    obtain ⟨before, hbefore, hafter⟩ := h.document
    rw [Store.document, heq] at hbefore
    exact ⟨before, hbefore, hafter⟩

theorem Stands.sameButVersion {version : Int} (h : w.Stands path r)
    (hafter : w'.Rests path { r with version := version }) : SameButVersion path r version w w' where
  load := hafter.load
  document := by
    obtain ⟨before, hbefore, hfields⟩ := h.document
    refine ⟨before, hbefore, ?_⟩
    rw [hfields]
    exact hafter.document

/-- An edit that leads from what stands to itself succeeds if nothing else is in its way, and leaves
everything but the version as it was. -/
theorem Stands.unchanged {op : Operation} {read drawn : Supply} {edit : Edit} {subject : Subject}
    (h : w.Stands settings.registryPath r) (hadmits : w.Admits settings r.version)
    (hedits : op.Edits settings w.supply read edit)
    (hedit : edit read r = (.ok (r, subject), drawn)) :
    ∃ message applied w', op.run settings w = (.ok (.saved message subject applied), w') ∧
      SameButVersion settings.registryPath r (r.version + 1) w w' := by
  obtain ⟨message, applied, w', hrun, hrests⟩ := h.change hadmits hedits hedit h.valid
  rw [h.current.refreshPatterns_eq_self] at hrests
  exact ⟨message, applied, w', hrun, h.sameButVersion hrests⟩

end World

end EdgeProxy
