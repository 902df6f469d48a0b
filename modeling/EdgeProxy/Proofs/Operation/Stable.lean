import EdgeProxy.Proofs.Operation.Changes
import EdgeProxy.Proofs.Operation.Identifiers
/-!
Properties of the stored registry that hold after any run of operations.  A property is stable if a
change by one operation and the way through the file preserve it; then it holds of what is read after every
history that begins where nothing is stored, and of every world that operations reach, even under changing
settings.
-/

namespace EdgeProxy

/-- A property of registries that operations preserve: what a change leads to has it once the patterns
are up to date, and what is read back of a registry has it. -/
structure Registry.Stable (settings : Settings) (P : Registry → Prop) : Prop where
  changes : ∀ {r r' : Registry}, r.Changes settings r' → P r → P r'.refreshPatterns
  stored : ∀ {r : Registry}, P r → P (Store.advance r).stored

theorem Registry.Stable.and {settings : Settings} {P Q : Registry → Prop} (hP : Stable settings P)
    (hQ : Stable settings Q) : Stable settings fun r => P r ∧ Q r where
  changes hchanges h := ⟨hP.changes hchanges h.1, hQ.changes hchanges h.2⟩
  stored h := ⟨hP.stored h.1, hQ.stored h.2⟩

/-- A property of registries that one operation preserves, and the way through the file. -/
structure Operation.Preserves (settings : Settings) (P : Registry → Prop) (op : Operation) :
    Prop where
  effect : ∀ {r r' : Registry}, op.Effect settings r r' → P r → P r'.refreshPatterns
  stored : ∀ {r : Registry}, P r → P (Store.advance r).stored

theorem Registry.Stable.preserves {settings : Settings} {P : Registry → Prop}
    (hP : Stable settings P) (op : Operation) : op.Preserves settings P :=
  ⟨fun heffect => hP.changes heffect.changes, hP.stored⟩

namespace World

/-- Worlds that are reached from where nothing is stored, by any operations under any settings with one
place for the registry. -/
inductive Reachable (path : Path) : World → Prop where
  | start {w : World} (h : w.files.content? path = none) : Reachable path w
  | step {w : World} {settings : Settings} (h : Reachable path w)
      (hpath : settings.registryPath = path) (s : Surroundings) (op : Operation) :
      Reachable path (op.run settings (w.within s)).2

/-- Worlds that are reached by allowed operations only. -/
inductive ReachableBy (allowed : Operation → Prop) (path : Path) : World → Prop
  | start {w : World} (h : w.files.content? path = none) : ReachableBy allowed path w
  | step {w : World} {settings : Settings} (h : ReachableBy allowed path w)
      (hpath : settings.registryPath = path) (s : Surroundings) {op : Operation} (hop : allowed op) :
      ReachableBy allowed path (op.run settings (w.within s)).2

theorem Reachable.byAny {path : Path} {w : World} (h : Reachable path w) :
    ReachableBy (fun _ => True) path w := by
  induction h with
  | start hnone => exact .start hnone
  | step _ hpath s op ih => exact ih.step hpath s trivial

/-- A registry with a property is stored. -/
def Holds (settings : Settings) (P : Registry → Prop) (w : World) : Prop :=
  ∃ r, w.Ready settings r ∧ P r

variable {settings : Settings} {P : Registry → Prop} {w w' : World}

theorem Ready.of_path {settings' : Settings} (hpath : settings'.registryPath = settings.registryPath)
    {r : Registry} (h : w.Ready settings r) : w.Ready settings' r where
  load supply := by rw [hpath, h.load]
  version := by rw [hpath, h.version]

theorem Holds.of_content_eq (h : w.Holds settings P)
    (heq : w'.files.content? settings.registryPath = w.files.content? settings.registryPath) :
    w'.Holds settings P := by
  obtain ⟨r, hready, hr⟩ := h
  exact ⟨r, hready.of_content_eq heq, hr⟩

/-- An operation that preserves a property leads from a registry that has it to another one. -/
theorem Holds.run_of {op : Operation} (hP : op.Preserves settings P) (h : w.Holds settings P) :
    (op.run settings w).2.Holds settings P := by
  rcases op.runs settings w with hkept | ⟨edit, read, hedits, hread, hsaved⟩
  · exact h.of_content_eq (hkept.files _)
  · obtain ⟨r, hready, hr⟩ := h
    obtain ⟨loaded, left, changed, subject, hload, hchanged, hstores⟩ := hsaved
    rw [(hready.of_content_eq (hread.files _)).load] at hload
    cases hload
    have hwell : r.WellFormed := Store.wellFormed_of_load (hready.load w.supply)
    obtain ⟨hkeeps, -⟩ := changed_ok hedits.sound hwell hchanged
    obtain ⟨edited, hedit, rfl, -⟩ := changed_eq_ok.mp hchanged
    refine ⟨_, ready_of_stores (Store.advance_wellFormed hkeeps.wellFormed) hstores, ?_⟩
    exact hP.stored (hP.effect (hedits.effect hedit) hr)

/-- One operation preserves what is stable. -/
theorem Holds.run (hP : Registry.Stable settings P) (op : Operation) (h : w.Holds settings P) :
    (op.run settings w).2.Holds settings P :=
  h.run_of (hP.preserves op)

/-- What allowed operations preserve and is true of the initial registry holds wherever they lead. -/
theorem ReachableBy.holds {allowed : Operation → Prop} {path : Path}
    (hP : ∀ settings op, allowed op → op.Preserves settings P) (hinitial : P .initial)
    (h : ReachableBy allowed path w) (hpath : settings.registryPath = path) :
    w.Holds settings P := by
  -- The next step may be taken under other settings than the last one, so the induction is for all.
  induction h generalizing settings with
  | start hnone =>
      subst hpath
      exact ⟨.initial, ready_initial hnone, hinitial⟩
  | @step w settings' _ hpath' s op hop ih =>
      have hrun := ((ih hpath').of_content_eq (content?_within s w _)).run_of (hP settings' op hop)
      obtain ⟨r, hready, hr⟩ := hrun
      exact ⟨r, hready.of_path (hpath.trans hpath'.symm), hr⟩

/-- What is stable and true of the initial registry holds after every history that begins where nothing
is stored. -/
theorem holds_history (hP : Registry.Stable settings P) (hinitial : P .initial)
    (hnone : w.files.content? settings.registryPath = none) (steps : List (Surroundings × Operation)) :
    (w.history settings steps).Holds settings P := by
  apply history_invariant _ _ steps ⟨.initial, ready_initial hnone, hinitial⟩
  · exact fun s w h => h.of_content_eq (content?_within s w _)
  · exact fun op w h => h.run hP op

theorem StoredValid.of_path {settings' : Settings}
    (hpath : settings'.registryPath = settings.registryPath) (h : w.StoredValid settings) :
    w.StoredValid settings' := by
  intro supply
  rw [hpath]
  exact h supply

/-- The file is read as a valid registry wherever operations lead. -/
theorem Reachable.storedValid {path : Path} (h : Reachable path w)
    (hpath : settings.registryPath = path) : w.StoredValid settings := by
  induction h with
  | start hnone => exact storedValid_of_none (hpath ▸ hnone)
  | @step w settings' _ hpath' s op ih =>
      have hsame : settings'.registryPath = settings.registryPath := hpath'.trans hpath.symm
      have hwithin := (ih.of_path hsame).of_content_eq (content?_within s w _)
      exact (hwithin.run op).of_path hsame.symm

/-- What is stable under all settings and true of the initial registry is true of a valid registry that
is stored wherever operations lead. -/
theorem Reachable.ready {path : Path} (hP : ∀ settings, Registry.Stable settings P)
    (hinitial : P .initial) (h : Reachable path w) :
    ∃ r, (∀ supply, Store.load supply w.files path = (.ok r, supply)) ∧
      (∀ settings : Settings, settings.registryPath = path → w.Ready settings r) ∧ r.Valid ∧
      P r := by
  have hholds : ∀ settings : Settings, settings.registryPath = path → w.Holds settings P :=
    fun _ => h.byAny.holds (fun settings op _ => (hP settings).preserves op) hinitial
  let there : Settings := { Settings.standard with registryPath := path }
  obtain ⟨r, hready, hr⟩ := hholds there rfl
  obtain ⟨loaded, left, hload, hvalid⟩ := @Reachable.storedValid there w path h rfl w.supply
  rw [hready.load] at hload
  cases hload
  exact ⟨r, hready.load, fun settings hpath => hready.of_path hpath, hvalid, hr⟩

/-- What is stable under all settings and true of the initial registry holds wherever operations lead. -/
theorem Reachable.holds {path : Path} (hP : ∀ settings, Registry.Stable settings P)
    (hinitial : P .initial) (h : Reachable path w) :
    ∃ r, (∀ supply, Store.load supply w.files path = (.ok r, supply)) ∧ P r := by
  obtain ⟨r, hload, -, -, hr⟩ := h.ready hP hinitial
  exact ⟨r, hload, hr⟩

end World

end EdgeProxy
