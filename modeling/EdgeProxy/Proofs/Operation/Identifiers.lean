import EdgeProxy.Proofs.Change.Identifiers
import EdgeProxy.Proofs.Operation.Valid
/-!
Identifiers of applications and hosts over a history that begins where nothing is stored.  Each was
drawn from the supply, and as long as the supply does not give a name twice, no two are equal.
-/

namespace EdgeProxy

/-- No name was drawn twice. -/
def Supply.Distinct (s : Supply) : Prop :=
  ∀ i j, i < s.used → j < s.used → s.name i = s.name j → i = j

theorem Supply.Extends.distinct {later earlier : Supply} (h : later.Extends earlier)
    (hdistinct : later.Distinct) : earlier.Distinct := by
  intro i j hi hj hname
  apply hdistinct i j (Nat.lt_of_lt_of_le hi h.used) (Nat.lt_of_lt_of_le hj h.used)
  rw [h.name]
  exact hname

/-- An edit drops identifiers or adds one that is drawn. -/
theorem Operation.Edits.ids {settings : Settings} {op : Operation} {supply left drawn : Supply}
    {edit : Edit} {r r' : Registry} {subject : Subject} (h : op.Edits settings supply left edit)
    (hedit : edit left r = (.ok (r', subject), drawn)) :
    r'.ids.Sublist r.ids ∨
      ∃ k, supply.used ≤ k ∧ k < drawn.used ∧ r'.ids.Perm (supply.name k :: r.ids) := by
  cases h with
  | setBaseDomain h =>
      cases hedit
      exact Or.inl (List.Sublist.refl _)
  | addHost h =>
      cases hedit
      exact Or.inr ⟨supply.used, Nat.le_refl _, Nat.lt_succ_self _, r.ids_addHost _⟩
  | updateHost id updates =>
      obtain ⟨a, ha, rfl⟩ := Edit.exists_of_ofMap hedit
      exact Or.inl (Registry.ids_updateHost ha ▸ List.Sublist.refl _)
  | toggleHost id enabled =>
      obtain ⟨a, ha, rfl⟩ := Edit.exists_of_ofMap hedit
      exact Or.inl (Registry.ids_updateHost ha ▸ List.Sublist.refl _)
  | deleteHost id =>
      obtain ⟨a, ha, rfl⟩ := Edit.exists_of_ofMap hedit
      exact Or.inl (Registry.ids_deleteHost ha)
  | addEnvironment h =>
      obtain ⟨a, ha, rfl⟩ := Edit.exists_of_ofMap hedit
      exact Or.inl (Registry.ids_addEnvironment ha ▸ List.Sublist.refl _)
  | updateEnvironment id updates =>
      obtain ⟨a, ha, rfl⟩ := Edit.exists_of_ofMap hedit
      exact Or.inl (Registry.ids_updateEnvironment ha ▸ List.Sublist.refl _)
  | deleteEnvironment id =>
      obtain ⟨a, ha, rfl⟩ := Edit.exists_of_ofMap hedit
      exact Or.inl (Registry.ids_deleteEnvironment ha ▸ List.Sublist.refl _)
  | addApplication h =>
      rw [World.additionOf] at hedit
      split at hedit
      · cases hedit
      · cases hedit
        exact Or.inr ⟨supply.used, Nat.le_refl _, Nat.lt_succ_self _, r.ids_addApplication _⟩
  | updateApplication id updates =>
      obtain ⟨a, ha, rfl⟩ := Edit.exists_of_ofMap hedit
      exact Or.inl (Registry.ids_updateApplication ha ▸ List.Sublist.refl _)
  | toggleApplication id enabled =>
      obtain ⟨a, ha, rfl⟩ := Edit.exists_of_ofMap hedit
      exact Or.inl (Registry.ids_updateApplication ha ▸ List.Sublist.refl _)
  | deleteApplication id =>
      obtain ⟨a, ha, rfl⟩ := Edit.exists_of_ofMap hedit
      exact Or.inl (Registry.ids_deleteApplication ha)
  | switchProvider h =>
      obtain ⟨a, ha, rfl⟩ := Edit.exists_of_ofMap hedit
      exact Or.inl (Registry.ids_switchProvider ha ▸ List.Sublist.refl _)

namespace World

variable {settings : Settings} {w w' : World}

/-- A registry is read, without drawing from the supply, and the file has its version. -/
structure Ready (settings : Settings) (r : Registry) (w : World) : Prop where
  load : ∀ supply, Store.load supply w.files settings.registryPath = (.ok r, supply)
  version : Store.version w.files settings.registryPath = .ok (.number r.version)

/-- Only one registry is read. -/
theorem Ready.unique {r r' : Registry} (h : w.Ready settings r)
    (hload : ∀ supply, Store.load supply w.files settings.registryPath = (.ok r', supply)) :
    r' = r := by
  have hboth := (hload w.supply).symm.trans (h.load w.supply)
  cases hboth
  rfl

theorem Ready.of_content_eq {r : Registry} (h : w.Ready settings r)
    (heq : w'.files.content? settings.registryPath = w.files.content? settings.registryPath) :
    w'.Ready settings r where
  load supply := by rw [Store.load_congr heq, h.load]
  version := by rw [Store.version_congr heq, h.version]

theorem ready_initial (h : w.files.content? settings.registryPath = none) :
    w.Ready settings .initial where
  load supply := by simp only [Store.load, Store.document, h]
  version := by
    simp only [Store.version, Store.document, h]
    rfl

theorem ready_of_stores {r : Registry} (hwell : r.WellFormed) (h : w.Stores settings r) :
    w.Ready settings r.stored := by
  have hversion : r.stored.version = r.version := rfl
  constructor
  · intro supply
    exact Store.load_of_written supply hwell h.writable h.bytes
  · rw [hversion]
    exact Store.version_of_written hwell h.writable h.bytes

/-- What was computed from the registry that is stored can be saved, if the file can be replaced. -/
theorem Ready.save {r r' : Registry} {made files : Files} (h : w.Ready settings r)
    (hmade : w.files.makeDirectories settings.registryPath.parent = .ok made)
    (hwritable : (Store.advance r').encode.isWritable = true)
    (hreplace : made.replace settings.registryPath (Text.encode (Store.advance r').fileText) =
      (.ok (), files)) :
    Store.save r' w.files settings.registryPath (some r.version) =
      (.ok (Store.advance r'), files) := by
  have hcheck : Store.check w.files settings.registryPath (some r.version) = .ok () := by
    rw [Store.check_some h.version, StoredVersion.count, if_pos rfl]
  simp only [Store.save, hcheck, Store.replace, hmade, hwritable, Bool.not_true,
    Bool.false_eq_true, ↓reduceIte, hreplace]

/-- A valid change of the registry that is stored is written, if the file can be replaced. -/
theorem Ready.mutate {r r' : Registry} {edit : Edit} {subject : Subject} {drawn : Supply}
    {made files : Files} (h : w.Ready settings r) (hsound : edit.Sound) (message : Option String)
    (hchanged : changed edit w.supply r = (.ok (r', subject), drawn))
    (hmade : w.files.makeDirectories settings.registryPath.parent = .ok made)
    (hwritable : (Store.advance r').encode.isWritable = true)
    (hreplace : made.replace settings.registryPath (Text.encode (Store.advance r').fileText) =
      (.ok (), files)) :
    (w.mutate settings message edit).2.files = files ∧
      (w.mutate settings message edit).2.supply = drawn ∧
      (w.mutate settings message edit).2.Ready settings (Store.advance r').stored := by
  have hwell : r.WellFormed := Store.wellFormed_of_load (h.load w.supply)
  obtain ⟨hkeeps, -⟩ := changed_ok hsound hwell hchanged
  obtain ⟨hfiles, hsupply⟩ := mutate_saves message (h.load w.supply) hchanged
    (h.save hmade hwritable hreplace)
  refine ⟨hfiles, hsupply, ready_of_stores (Store.advance_wellFormed hkeeps.wellFormed)
    ⟨hwritable, ?_⟩⟩
  rw [hfiles]
  exact Files.content?_of_replace_ok hreplace

/-- A registry is stored whose identifiers were drawn from the supply. -/
structure Tracks (settings : Settings) (r : Registry) (w : World) : Prop extends
    Ready settings r w where
  valid : r.Valid
  drawn : ∀ id ∈ r.ids, ∃ i < w.supply.used, w.supply.name i = id
  nodup : w.supply.Distinct → r.ids.Nodup

theorem Tracks.of_kept {r : Registry} (h : w.Tracks settings r) (hkept : w.Kept w') :
    w'.Tracks settings r where
  toReady := h.toReady.of_content_eq (hkept.files _)
  valid := h.valid
  drawn id hid := by
    obtain ⟨i, hi, hname⟩ := h.drawn id hid
    exact ⟨i, Nat.lt_of_lt_of_le hi hkept.supply.used, by rw [hkept.supply.name, hname]⟩
  nodup hdistinct := h.nodup (hkept.supply.distinct hdistinct)

theorem tracks_initial (h : w.files.content? settings.registryPath = none) :
    w.Tracks settings .initial where
  toReady := ready_initial h
  valid := Registry.valid_initial
  drawn := by simp [Registry.ids, Registry.initial]
  nodup _ := by simp [Registry.ids, Registry.initial]

/-- What an edit of an operation writes is tracked if what it was made from is. -/
theorem Tracks.saved {op : Operation} {edit : Edit} {r : Registry} {read : World}
    (h : w.Tracks settings r) (hedits : op.Edits settings w.supply read.supply edit)
    (hread : w.Kept read) (hsaved : read.Saved settings edit w') :
    ∃ r', w'.Tracks settings r' := by
  obtain ⟨loaded, left, changed, subject, hload, hchanged, hstores⟩ := hsaved
  rw [(h.of_kept hread).load] at hload
  cases hload
  have hwell : r.WellFormed := Store.wellFormed_of_load (h.load w.supply)
  obtain ⟨hkeeps, hviolations⟩ := changed_ok hedits.sound hwell hchanged
  obtain ⟨edited, hedit, rfl, -⟩ := changed_eq_ok.mp hchanged
  have hids : (Store.advance edited.refreshPatterns).stored.ids = edited.ids := by
    rw [Registry.ids_stored]
    exact Registry.ids_refreshPatterns edited
  have hdrawn : w'.supply.Extends read.supply := hedits.draws.changed hchanged
  have hsupply : w'.supply.Extends w.supply := hdrawn.trans hread.supply
  have hold : ∀ id ∈ r.ids, ∃ i < w'.supply.used, w'.supply.name i = id := by
    intro id hid
    obtain ⟨i, hi, hname⟩ := h.drawn id hid
    exact ⟨i, Nat.lt_of_lt_of_le hi hsupply.used, by rw [hsupply.name, hname]⟩
  refine ⟨(Store.advance edited.refreshPatterns).stored, ?_, ?_, ?_, ?_⟩
  · exact ready_of_stores (Store.advance_wellFormed hkeeps.wellFormed) hstores
  · exact ((Registry.violations_eq_nil_iff _).mp hviolations).of_outline_eq
      (Registry.outline_stored _)
  · rw [hids]
    rcases hedits.ids hedit with hsublist | ⟨k, -, hk, hperm⟩
    · intro id hid
      exact hold id (hsublist.subset hid)
    · intro id hid
      rcases List.mem_cons.mp (hperm.mem_iff.mp hid) with rfl | hid
      · exact ⟨k, hk, by rw [hsupply.name]⟩
      · exact hold id hid
  · intro hdistinct
    have hnodup : r.ids.Nodup := h.nodup (hsupply.distinct hdistinct)
    rw [hids]
    rcases hedits.ids hedit with hsublist | ⟨k, hlower, hk, hperm⟩
    · exact hnodup.sublist hsublist
    · rw [hperm.nodup_iff, List.nodup_cons]
      refine ⟨?_, hnodup⟩
      intro hmem
      -- the drawn name would be one of those that were drawn before
      obtain ⟨i, hi, hname⟩ := h.drawn _ hmem
      have heq : i = k := by
        apply hdistinct i k (Nat.lt_of_lt_of_le (Nat.lt_of_lt_of_le hi hlower) hk.le) hk
        rw [hsupply.name, hname]
      omega

/-- Over a history that begins where nothing is stored, what is stored is tracked. -/
theorem tracks_history (hnone : w.files.content? settings.registryPath = none)
    (steps : List (Surroundings × Operation)) :
    ∃ r, (w.history settings steps).Tracks settings r := by
  refine history_invariant (P := fun w => ∃ r, w.Tracks settings r) ?_ ?_ steps
    ⟨.initial, tracks_initial hnone⟩
  · rintro s w ⟨r, h⟩
    exact ⟨r, h.of_kept ⟨fun p => content?_within s w p, rfl, Nat.le_refl _⟩⟩
  · rintro op w ⟨r, h⟩
    rcases op.runs settings w with hkept | ⟨edit, read, hedits, hread, hsaved⟩
    · exact ⟨r, h.of_kept hkept⟩
    · exact h.saved hedits hread hsaved

end World

end EdgeProxy
