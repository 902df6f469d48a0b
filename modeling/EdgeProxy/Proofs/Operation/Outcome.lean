import EdgeProxy.Operation.Run
import EdgeProxy.Proofs.Change.Edit
import EdgeProxy.Proofs.Store.Save
/-!
What an operation can do to the stored registry.  Each step leaves the content of every file as it was or
writes a registry, and the supply of identifiers is only ever used up further; an operation changes the
registry by one of its edits.
-/

namespace EdgeProxy

/-- A supply that was drawn from, perhaps at another time. -/
structure Supply.Extends (later earlier : Supply) : Prop where
  name : later.name = earlier.name
  used : earlier.used ≤ later.used

namespace Supply

theorem Extends.refl (s : Supply) : s.Extends s := ⟨rfl, Nat.le_refl _⟩

theorem Extends.trans {a b c : Supply} (h : c.Extends b) (h' : b.Extends a) : c.Extends a :=
  ⟨h.name.trans h'.name, Nat.le_trans h'.used h.used⟩

theorem extends_draw (s : Supply) : s.draw.2.Extends s := ⟨rfl, Nat.le_succ _⟩

end Supply

namespace Registry

theorem extends_markEntity (supply : Supply) (fields : Fields) :
    (markEntity supply fields).2.Extends supply := by
  rw [markEntity]
  cases Field.id.spelling? fields with
  | some v =>
      dsimp only
      split <;> exact .refl _
  | none =>
      dsimp only
      split <;> exact supply.extends_draw

theorem extends_markEntities (supply : Supply) (items : List Json) :
    (markEntities supply items).2.Extends supply := by
  induction items generalizing supply with
  | nil => exact .refl _
  | cons v rest ih =>
      rw [markEntities.eq_def]
      cases v with
      | obj fields => exact (ih _).trans (extends_markEntity supply fields)
      | _ => exact ih supply

theorem extends_markUnder (key : String) (supply : Supply) (fields : Fields) :
    (markUnder key supply fields).2.Extends supply := by
  rw [markUnder]
  split
  · exact extends_markEntities _ _
  · exact .refl _

theorem extends_mark (supply : Supply) (fields : Fields) :
    (mark supply fields).2.Extends supply :=
  (extends_markUnder _ _ _).trans (extends_markUnder _ _ _)

end Registry

theorem Store.extends_load (supply : Supply) (files : Files) (path : Path) :
    (Store.load supply files path).2.Extends supply := by
  rw [Store.load]
  split
  · exact .refl _
  · exact .refl _
  · split
    · exact .refl _
    next doc _ current _ =>
      rw [Store.registryOf]
      dsimp only
      split <;> exact Registry.extends_mark _ _

/-- An edit that changes the supply only by drawing from it. -/
def Edit.Draws (edit : Edit) : Prop := ∀ supply r, (edit supply r).2.Extends supply

theorem Edit.draws_ofChange (change : Registry → Requested (Registry × Subject)) :
    (Edit.ofChange change).Draws :=
  fun supply _ => .refl supply

theorem Edit.Draws.changed {edit : Edit} (h : edit.Draws) {supply left : Supply} {r : Registry}
    {result : Requested (Registry × Subject)} (hchanged : changed edit supply r = (result, left)) :
    left.Extends supply := by
  have hdrawn := h supply r
  rw [EdgeProxy.changed] at hchanged
  split at hchanged
  next hedit =>
    cases hchanged
    rwa [hedit] at hdrawn
  next hedit =>
    rw [hedit] at hdrawn
    split at hchanged <;> (cases hchanged; exact hdrawn)

namespace World

/-- Nothing was written, though the supply may have been drawn from. -/
structure Kept (w w' : World) : Prop where
  files : ∀ p, w'.files.content? p = w.files.content? p
  supply : w'.supply.Extends w.supply

theorem Kept.refl (w : World) : w.Kept w := ⟨fun _ => rfl, .refl _⟩

theorem Kept.trans {a b c : World} (h : a.Kept b) (h' : b.Kept c) : a.Kept c :=
  ⟨fun p => (h'.files p).trans (h.files p), h'.supply.trans h.supply⟩

/-- Nothing but the proxy and the peers was dealt with. -/
structure Aside (w w' : World) : Prop where
  files : w'.files = w.files
  supply : w'.supply = w.supply

theorem Aside.refl (w : World) : w.Aside w := ⟨rfl, rfl⟩

theorem Aside.trans {a b c : World} (h : a.Aside b) (h' : b.Aside c) : a.Aside c :=
  ⟨h'.files.trans h.files, h'.supply.trans h.supply⟩

theorem Aside.kept {w w' : World} (h : w.Aside w') : w.Kept w' where
  files p := by rw [h.files]
  supply := h.supply ▸ .refl _

/-- The file holds a registry. -/
structure Stores (settings : Settings) (r : Registry) (w : World) : Prop where
  writable : r.encode.isWritable = true
  bytes : w.files.content? settings.registryPath = some (.ok (Text.encode r.fileText))

/-- The registry that was read is changed by an edit and written, one version later. -/
def Saved (settings : Settings) (edit : Edit) (w w' : World) : Prop :=
  ∃ loaded left r subject,
    Store.load w.supply w.files settings.registryPath = (.ok loaded, left) ∧
      changed edit left loaded = (.ok (r, subject), w'.supply) ∧
      w'.Stores settings (Store.advance r)

variable {settings : Settings} {w : World}

theorem aside_exchange {α : Type} {act : Line → α × Line} {a : α} {w' : World}
    (h : w.exchange act = (a, w')) : w.Aside w' := by
  cases h
  exact ⟨rfl, rfl⟩

theorem aside_confirmed (ruleIds : List String) (push : PushResult) :
    w.Aside (confirmed settings ruleIds push w).2 := by
  rw [confirmed]
  split
  · split
    next hexchange => exact aside_exchange hexchange
    next hexchange => exact aside_exchange hexchange
  · exact .refl w

theorem aside_apply (r : Registry) : w.Aside (w.apply settings r).2 := by
  unfold apply
  dsimp only
  split
  next hexchange => exact aside_exchange hexchange
  next push sent hexchange =>
    have hsent : w.Aside sent := aside_exchange hexchange
    have hconfirmed : w.Aside (confirmed settings
        (((r.compile settings).toJson.serverRules settings.serverName).map Json.ruleId) push sent).2 :=
      hsent.trans (aside_confirmed _ push)
    split
    next hresult =>
      rw [hresult] at hconfirmed
      exact hconfirmed
    next hresult =>
      rw [hresult] at hconfirmed
      exact hconfirmed

theorem aside_announce (message : Option String) (subject : Subject) (r : Registry) :
    w.Aside (w.announce settings message subject r).2 := by
  have happly : w.Aside (w.apply settings r).2 := aside_apply r
  unfold announce
  split
  next hresult =>
    rw [hresult] at happly
    exact happly
  next hresult =>
    rw [hresult] at happly
    exact happly

theorem load_spec {result : Except StoreFailure Registry} {w' : World}
    (h : w.load settings = (result, w')) :
    Store.load w.supply w.files settings.registryPath = (result, w'.supply) ∧ w.Kept w' := by
  cases h
  exact ⟨rfl, fun _ => rfl, Store.extends_load _ _ _⟩

/-- Going on with the stored registry leaves the files alone if what follows does. -/
theorem kept_withRegistry {next : Registry → World → Result × World}
    (hnext : ∀ (r : Registry) (w : World), w.Kept (next r w).2) :
    w.Kept (w.withRegistry settings next).2 := by
  rw [withRegistry]
  split
  next hload => exact (load_spec hload).2
  next hload => exact (load_spec hload).2
  next r loaded hload => exact (load_spec hload).2.trans (hnext r loaded)

theorem Stores.of_aside {r : Registry} {w' : World} (h : w.Stores settings r)
    (haside : w.Aside w') : w'.Stores settings r :=
  ⟨h.writable, haside.files ▸ h.bytes⟩

theorem kept_view (describe : Registry → Fields) : w.Kept (w.view settings describe).2 :=
  kept_withRegistry fun _ w => .refl w

theorem kept_repush (settings : Settings) (message : String) (w : World) :
    w.Kept (w.repush settings message).2 := by
  apply kept_withRegistry
  intro r w
  have happly : w.Kept (w.apply settings r).2 := (aside_apply r).kept
  split
  next hresult =>
    rw [hresult] at happly
    exact happly
  next hresult =>
    rw [hresult] at happly
    split <;> exact happly

theorem kept_showStatus (settings : Settings) (w : World) : w.Kept (w.showStatus settings).2 := by
  unfold showStatus
  dsimp only
  split
  next hexchange => exact (aside_exchange hexchange).kept
  next hexchange => exact (aside_exchange hexchange).kept

theorem kept_showCertificates (settings : Settings) (w : World) :
    w.Kept (w.showCertificates settings).2 := by
  apply kept_withRegistry
  intro r w
  have hprobed : w.Kept (w.certificates settings r).2 := ⟨fun _ => rfl, .refl _⟩
  split
  next hresult =>
    rw [hresult] at hprobed
    exact hprobed
  next hresult =>
    rw [hresult] at hprobed
    exact hprobed

end World

/-- The edit by which an operation changes the registry, and the supply that is left when the registry
is read. -/
inductive Operation.Edits (settings : Settings) (supply : Supply) :
    Operation → Supply → Edit → Prop where
  | setBaseDomain {value : Json} {domain : String} (h : Request.baseDomain value = .ok domain) :
      Edits settings supply (.setBaseDomain value) supply
        (.ofChange fun r => .ok (r.setBaseDomain domain, .baseDomain domain))
  | addHost {data : Json} {draft : Host.Draft} (h : Host.draft data = .ok draft) :
      Edits settings supply (.addHost data) supply.draw.2
        (.ofChange fun r =>
          .ok (r.addHost (.ofDraft draft supply.draw.1 supply.timestamp),
            .host (.ofDraft draft supply.draw.1 supply.timestamp)))
  | updateHost (id : String) (updates : Json) :
      Edits settings supply (.updateHost id updates) supply
        (.ofChange fun r => (r.updateHost id updates).map fun (r, h) => (r, .host h))
  | toggleHost (id : String) (enabled : Json) :
      Edits settings supply (.toggleHost id enabled) supply
        (.ofChange fun r =>
          (r.updateHost id (World.switch enabled)).map fun (r, h) => (r, .host h))
  | deleteHost (id : String) :
      Edits settings supply (.deleteHost id) supply
        (.ofChange fun r => (r.deleteHost id).map fun (r, h) => (r, .host h))
  | addEnvironment {data : Json} {e : Environment} (h : Environment.requested data = .ok e) :
      Edits settings supply (.addEnvironment data) supply
        (.ofChange fun r => (r.addEnvironment e).map fun r => (r, .environment e))
  | updateEnvironment (id : String) (updates : Json) :
      Edits settings supply (.updateEnvironment id updates) supply
        (.ofChange fun r => (r.updateEnvironment id updates).map fun (r, e) => (r, .environment e))
  | deleteEnvironment (id : String) :
      Edits settings supply (.deleteEnvironment id) supply
        (.ofChange fun r => (r.deleteEnvironment id).map fun (r, e) => (r, .environment e))
  | addApplication {data : Json} {draft : Application.Draft}
      (h : Application.draft data = .ok draft) :
      Edits settings supply (.addApplication data) supply (World.additionOf draft)
  | updateApplication (id : String) (updates : Json) :
      Edits settings supply (.updateApplication id updates) supply
        (.ofChange fun r => (r.updateApplication id updates).map fun (r, a) => (r, .application a))
  | toggleApplication (id : String) (enabled : Json) :
      Edits settings supply (.toggleApplication id enabled) supply
        (.ofChange fun r =>
          (r.updateApplication id (World.switch enabled)).map fun (r, a) => (r, .application a))
  | deleteApplication (id : String) :
      Edits settings supply (.deleteApplication id) supply
        (.ofChange fun r => (r.deleteApplication id).map fun (r, a) => (r, .application a))
  | switchProvider {data : Json} {enabled : Bool} (h : settings.providerSwitch data = .ok enabled) :
      Edits settings supply (.switchProvider data) supply
        (.ofChange fun r =>
          (r.switchProvider enabled).map fun r => (r, .provider (r.providerView settings)))

namespace Operation

variable {settings : Settings} {op : Operation}

theorem Edits.draws {supply left : Supply} {edit : Edit} (h : op.Edits settings supply left edit) :
    edit.Draws := by
  cases h with
  | addApplication =>
      intro supply r
      rw [World.additionOf]
      split
      · exact .refl supply
      · exact supply.extends_draw
  | _ => exact Edit.draws_ofChange _

/-- An edit of an operation preserves what the records keep. -/
theorem Edits.preserving {supply left : Supply} {edit : Edit}
    (h : op.Edits settings supply left edit) : edit.Preserving := by
  cases h with
  | setBaseDomain h =>
      apply Edit.preserving_ofChange
      intro r r' subject hchange
      cases hchange
      exact Registry.preserves_setBaseDomain r _
  | addHost h =>
      apply Edit.preserving_ofChange
      intro r r' subject hchange
      cases hchange
      exact Registry.preserves_addHost rfl
  | updateHost id updates =>
      exact Edit.preserving_ofMap fun r _ h => Registry.preserves_updateHost h
  | toggleHost id enabled =>
      exact Edit.preserving_ofMap fun r _ h => Registry.preserves_updateHost h
  | deleteHost id =>
      exact Edit.preserving_ofMap fun r _ h => Registry.preserves_deleteHost h
  | addEnvironment hrequest =>
      exact Edit.preserving_ofMap fun r _ h =>
        Registry.preserves_addEnvironment (Environment.extra_requested hrequest) h
  | updateEnvironment id updates =>
      exact Edit.preserving_ofMap fun r _ h => Registry.preserves_updateEnvironment h
  | deleteEnvironment id =>
      exact Edit.preserving_ofMap fun r _ h => Registry.preserves_deleteEnvironment h
  | addApplication hdraft =>
      intro supply left r r' subject hedit
      rw [World.additionOf] at hedit
      split at hedit
      · cases hedit
      next sets hsets =>
        cases hedit
        apply Registry.preserves_addApplication
        intro Q hQ
        have hkeeping := Registry.keepingSets_newEndpoints hQ hsets
        exact ⟨hkeeping.nodup, hkeeping.sets, hQ _⟩
  | updateApplication id updates =>
      exact Edit.preserving_ofMap fun r _ h => Registry.preserves_updateApplication h
  | toggleApplication id enabled =>
      exact Edit.preserving_ofMap fun r _ h => Registry.preserves_updateApplication h
  | deleteApplication id =>
      exact Edit.preserving_ofMap fun r _ h => Registry.preserves_deleteApplication h
  | switchProvider h =>
      exact Edit.preserving_ofMap fun r _ h => Registry.preserves_switchProvider h

/-- An edit of an operation keeps registries well formed. -/
theorem Edits.sound {supply left : Supply} {edit : Edit} (h : op.Edits settings supply left edit) :
    edit.Sound :=
  h.preserving.sound

/-- What an operation leaves of the world when it edits the registry or writes nothing. -/
def Runs (settings : Settings) (op : Operation) (w w' : World) : Prop :=
  w.Kept w' ∨ ∃ edit read, op.Edits settings w.supply read.supply edit ∧ w.Kept read ∧
    read.Saved settings edit w'

end Operation

end EdgeProxy
