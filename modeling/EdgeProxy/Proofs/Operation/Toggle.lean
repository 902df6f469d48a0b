import EdgeProxy.Proofs.Operation.BaseDomain
import EdgeProxy.Proofs.Operation.Live
import EdgeProxy.Proofs.Operation.Patterns
import EdgeProxy.Proofs.Store.Clients
/-!
Switching hosts and applications.  A flag hides an entity from the compiled configuration, but the names that
are checked are those of all entities, so no assignment of flags makes a valid registry invalid.  Nothing
therefore stands in the way of a switch; and a switch changes the flag of one entity only, so that two of them
lead back to what was stored.
-/

namespace EdgeProxy

/-- Change the first item of a list that satisfies a condition. -/
def modifyFirst {α : Type} (p : α → Bool) (f : α → α) : List α → List α
  | [] => []
  | a :: rest => if p a then f a :: rest else a :: modifyFirst p f rest

section ModifyFirst

variable {α β : Type} {p : α → Bool} {f g : α → α}

theorem replaceFirst_eq_modifyFirst {l : List α} {a : α} (h : l.find? p = some a) :
    replaceFirst p (f a) l = modifyFirst p f l := by
  induction l with
  | nil => cases h
  | cons b rest ih =>
      by_cases hb : p b = true
      · rw [List.find?_cons_of_pos hb] at h
        cases h
        rw [replaceFirst, modifyFirst, if_pos hb, if_pos hb]
      · rw [List.find?_cons_of_neg hb] at h
        rw [replaceFirst, modifyFirst, if_neg hb, if_neg hb, ih h]

theorem find?_modifyFirst (hp : ∀ a, p (f a) = p a) (l : List α) :
    (modifyFirst p f l).find? p = (l.find? p).map f := by
  induction l with
  | nil => rfl
  | cons a rest ih =>
      by_cases ha : p a = true
      · rw [modifyFirst, if_pos ha, List.find?_cons_of_pos ha,
          List.find?_cons_of_pos ((hp a).trans ha), Option.map_some]
      · rw [modifyFirst, if_neg ha, List.find?_cons_of_neg ha, List.find?_cons_of_neg ha, ih]

/-- What does not satisfy the condition is found as before. -/
theorem find?_modifyFirst_of_disjoint {q : α → Bool} (hf : ∀ a, q (f a) = q a)
    (hq : ∀ a, p a = true → q a = false) (l : List α) : (modifyFirst p f l).find? q = l.find? q := by
  induction l with
  | nil => rfl
  | cons a rest ih =>
      by_cases ha : p a = true
      · rw [modifyFirst, if_pos ha, List.find?_cons_of_neg (by simp [hf, hq a ha]),
          List.find?_cons_of_neg (by simp [hq a ha])]
      · rw [modifyFirst, if_neg ha, List.find?_cons, List.find?_cons, ih]

theorem modifyFirst_modifyFirst (hp : ∀ a, p (f a) = p a) (l : List α) :
    modifyFirst p g (modifyFirst p f l) = modifyFirst p (g ∘ f) l := by
  induction l with
  | nil => rfl
  | cons a rest ih =>
      by_cases ha : p a = true
      · simp only [modifyFirst, ha, hp, ↓reduceIte, Function.comp_apply]
      · simp only [modifyFirst, ha, Bool.false_eq_true, ↓reduceIte, ih]

/-- A change that does nothing to the first item does nothing. -/
theorem modifyFirst_eq_self {l : List α} (h : ∀ a, l.find? p = some a → f a = a) :
    modifyFirst p f l = l := by
  induction l with
  | nil => rfl
  | cons a rest ih =>
      by_cases ha : p a = true
      · rw [modifyFirst, if_pos ha, h a (List.find?_cons_of_pos ha)]
      · rw [modifyFirst, if_neg ha, ih]
        intro b hb
        exact h b ((List.find?_cons_of_neg ha).trans hb)

/-- What the change leaves as it is of every item. -/
theorem map_modifyFirst {k : α → β} (h : ∀ a, k (f a) = k a) (l : List α) :
    (modifyFirst p f l).map k = l.map k := by
  induction l with
  | nil => rfl
  | cons a rest ih =>
      rw [modifyFirst]
      split
      · rw [List.map_cons, List.map_cons, h]
      · rw [List.map_cons, List.map_cons, ih]

/-- Items that a map leaves alone stay so if the change commutes with it. -/
theorem map_modifyFirst_eq_self {k : α → α} (hk : ∀ a, k (f a) = f (k a)) {l : List α}
    (h : l.map k = l) : (modifyFirst p f l).map k = modifyFirst p f l := by
  induction l with
  | nil => rfl
  | cons a rest ih =>
      rw [List.map_cons, List.cons.injEq] at h
      rw [modifyFirst]
      split
      · rw [List.map_cons, hk, h.1, h.2]
      · rw [List.map_cons, h.1, ih h.2]

/-- What a change of each item leaves as it is. -/
theorem map_mapIdx {f : Nat → α → α} {k : α → β} (h : ∀ i a, k (f i a) = k a)
    (l : List α) : (l.mapIdx f).map k = l.map k := by
  have hcomp : ∀ i, k ∘ f i = k := fun i => funext (h i)
  refine List.ext_getElem? fun i => ?_
  rw [List.getElem?_map, List.getElem?_map, List.getElem?_mapIdx, Option.map_map, hcomp]

end ModifyFirst

/-- The host with another flag. -/
def Host.flagged (enabled : Bool) (h : Host) : Host := { h with enabled := enabled }

/-- The application with another flag. -/
def Application.flagged (enabled : Bool) (a : Application) : Application :=
  { a with enabled := enabled }

namespace Registry

/-- The registry with other flags for its applications and hosts, by their places. -/
def flagged (applications hosts : Nat → Bool) (r : Registry) : Registry :=
  { r with
    applications := r.applications.mapIdx fun i a => a.flagged (applications i)
    hosts := r.hosts.mapIdx fun i h => h.flagged (hosts i) }

/-- The names that are claimed do not depend on flags. -/
theorem outline_flagged (applications hosts : Nat → Bool) (r : Registry) :
    (r.flagged applications hosts).outline = r.outline := by
  have happlications := map_mapIdx (f := fun i a => Application.flagged (applications i) a)
    (k := Application.outline) (fun _ _ => rfl) r.applications
  have hhosts := map_mapIdx (f := fun i h => Host.flagged (hosts i) h) (k := Host.outline)
    (fun _ _ => rfl) r.hosts
  rw [outline, outline, flagged, happlications, hhosts]

theorem stored_hosts {r : Registry} (h : r.stored = r) {hosts : List Host}
    (hhosts : hosts.map Host.stored = hosts) :
    ({ r with hosts := hosts } : Registry).stored = { r with hosts := hosts } := by
  have hstored : ({ r with hosts := hosts } : Registry).stored =
      { r.stored with hosts := hosts.map Host.stored } := rfl
  rw [hstored, h, hhosts]

theorem stored_applications {r : Registry} (h : r.stored = r) {applications : List Application}
    (happlications : applications.map Application.stored = applications) :
    ({ r with applications := applications } : Registry).stored =
      { r with applications := applications } := by
  have hstored : ({ r with applications := applications } : Registry).stored =
      { r.stored with applications := applications.map Application.stored } := rfl
  rw [hstored, h, happlications]

/-- Current patterns are left as they are. -/
theorem PatternsCurrent.refreshPatterns_eq_self {r : Registry} (h : r.PatternsCurrent) :
    r.refreshPatterns = r := by
  have hdomains : (if r.provider.enabled then r.wildcardPatterns else r.provider.domains) =
      r.provider.domains := by
    split
    next hon => rw [h.domains, if_pos hon]
    · rfl
  rw [refreshPatterns_eq, hdomains]

/-- No assignment of flags makes a valid registry invalid. -/
theorem violations_flagged {r : Registry} (h : r.violations = []) (applications hosts : Nat → Bool) :
    (r.flagged applications hosts).violations = [] := by
  rw [violations_eq_nil_iff] at h ⊢
  exact h.of_outline_eq (r.outline_flagged applications hosts)

end Registry

/-- What can be switched. -/
inductive Switchable where
  | host (id : String)
  | application (id : String)

namespace Switchable

def operation (enabled : Json) : Switchable → Operation
  | host id => .toggleHost id enabled
  | application id => .toggleApplication id enabled

/-- The flag of the first entity with the identifier. -/
def flag? (x : Switchable) (r : Registry) : Option Bool :=
  match x with
  | host id => (r.host? id).map (·.enabled)
  | application id => (r.application? id).map (·.enabled)

/-- The registry with another flag for the first entity with the identifier. -/
def switched (x : Switchable) (enabled : Bool) (r : Registry) : Registry :=
  match x with
  | host id => { r with hosts := modifyFirst (·.id == id) (Host.flagged enabled) r.hosts }
  | application id =>
    { r with applications :=
      modifyFirst (·.id == id) (Application.flagged enabled) r.applications }

variable {x : Switchable} {r : Registry} {a b : Bool}

theorem flag?_switched (h : x.flag? r = some a) (b : Bool) :
    x.flag? (x.switched b r) = some b := by
  cases x with
  | host id =>
      obtain ⟨host, hfound, -⟩ := Option.map_eq_some_iff.mp h
      have hmodified := find?_modifyFirst (p := fun h : Host => h.id == id) (f := Host.flagged b)
        (fun _ => rfl) r.hosts
      exact (congrArg (Option.map (·.enabled)) hmodified).trans
        (congrArg (fun found => (Option.map (Host.flagged b) found).map (·.enabled)) hfound)
  | application id =>
      obtain ⟨app, hfound, -⟩ := Option.map_eq_some_iff.mp h
      have hmodified := find?_modifyFirst (p := fun a : Application => a.id == id)
        (f := Application.flagged b) (fun _ => rfl) r.applications
      exact (congrArg (Option.map (·.enabled)) hmodified).trans
        (congrArg (fun found => (Option.map (Application.flagged b) found).map (·.enabled)) hfound)

/-- The flags of all others stay as they are. -/
theorem flag?_switched_of_ne {y : Switchable} (hne : y ≠ x) (b : Bool) (r : Registry) :
    y.flag? (x.switched b r) = y.flag? r := by
  have hother {id id' : String} (hid : id' ≠ id) {own : String} (h : (own == id) = true) :
      (own == id') = false := by
    rw [beq_eq_false_iff_ne, eq_of_beq h]
    exact fun heq => hid heq.symm
  cases x with
  | host id =>
      cases y with
      | host id' =>
          have hid : id' ≠ id := fun heq => hne (congrArg host heq)
          have hfound := find?_modifyFirst_of_disjoint (p := fun h : Host => h.id == id)
            (q := fun h : Host => h.id == id') (f := Host.flagged b) (fun _ => rfl) (fun h => hother hid) r.hosts
          exact congrArg (Option.map (·.enabled)) hfound
      | application id' => rfl
  | application id =>
      cases y with
      | host id' => rfl
      | application id' =>
          have hid : id' ≠ id := fun heq => hne (congrArg application heq)
          have hfound := find?_modifyFirst_of_disjoint (p := fun a : Application => a.id == id)
            (q := fun a : Application => a.id == id') (f := Application.flagged b) (fun _ => rfl)
            (fun a => hother hid) r.applications
          exact congrArg (Option.map (·.enabled)) hfound

theorem switched_switched (x : Switchable) (a b : Bool) (r : Registry) :
    x.switched b (x.switched a r) = x.switched b r := by
  cases x with
  | host id =>
      have hhosts := modifyFirst_modifyFirst (p := fun h : Host => h.id == id)
        (f := Host.flagged a) (g := Host.flagged b) (fun _ => rfl) r.hosts
      exact congrArg (fun hosts => { r with hosts := hosts }) hhosts
  | application id =>
      have happlications := modifyFirst_modifyFirst (p := fun a : Application => a.id == id)
        (f := Application.flagged a) (g := Application.flagged b) (fun _ => rfl) r.applications
      exact congrArg (fun applications => { r with applications := applications }) happlications

/-- The flag that an entity has can be set. -/
theorem switched_eq_self (h : x.flag? r = some b) : x.switched b r = r := by
  cases x with
  | host id =>
      obtain ⟨host, hfound, rfl⟩ := Option.map_eq_some_iff.mp h
      have hhosts : modifyFirst (·.id == id) (Host.flagged host.enabled) r.hosts = r.hosts := by
        apply modifyFirst_eq_self
        intro a ha
        cases hfound.symm.trans ha
        rfl
      rw [switched, hhosts]
  | application id =>
      obtain ⟨app, hfound, rfl⟩ := Option.map_eq_some_iff.mp h
      have happlications :
          modifyFirst (·.id == id) (Application.flagged app.enabled) r.applications =
            r.applications := by
        apply modifyFirst_eq_self
        intro a ha
        cases hfound.symm.trans ha
        rfl
      rw [switched, happlications]

theorem outline_switched (x : Switchable) (b : Bool) (r : Registry) :
    (x.switched b r).outline = r.outline := by
  cases x with
  | host id =>
      have hhosts := map_modifyFirst (p := fun h : Host => h.id == id) (f := Host.flagged b)
        (k := Host.outline) (fun _ => rfl) r.hosts
      rw [Registry.outline, Registry.outline, switched, hhosts]
  | application id =>
      have happlications := map_modifyFirst (p := fun a : Application => a.id == id)
        (f := Application.flagged b) (k := Application.outline) (fun _ => rfl) r.applications
      rw [Registry.outline, Registry.outline, switched, happlications]

/-- A registry that is stored as it is stays so. -/
theorem stored_switched (x : Switchable) (b : Bool) (h : r.stored = r) :
    (x.switched b r).stored = x.switched b r := by
  cases x with
  | host id =>
      exact Registry.stored_hosts h <| map_modifyFirst_eq_self (f := Host.flagged b)
        (k := Host.stored) (fun _ => rfl) (congrArg Registry.hosts h)
  | application id =>
      exact Registry.stored_applications h <| map_modifyFirst_eq_self (f := Application.flagged b)
        (k := Application.stored) (fun _ => rfl) (congrArg Registry.applications h)

theorem patternsCurrent_switched (x : Switchable) (b : Bool) (h : r.PatternsCurrent) :
    (x.switched b r).PatternsCurrent := by
  cases x with
  | host id | application id => exact ⟨h.domains, h.base⟩

/-- The edit that switches. -/
theorem edits (x : Switchable) (settings : Settings) (enabled : Json) (supply : Supply)
    (h : x.flag? r = some a) :
    ∃ edit subject, (x.operation enabled).Edits settings supply supply edit ∧
      edit supply r = (.ok (x.switched enabled.truthy r, subject), supply) := by
  cases x with
  | host id =>
      obtain ⟨host, hfound, -⟩ := Option.map_eq_some_iff.mp h
      have hreplace := replaceFirst_eq_modifyFirst (f := Host.flagged enabled.truthy) hfound
      have hchange : r.updateHost id (World.switch enabled) =
          .ok ((Switchable.host id).switched enabled.truthy r, host.flagged enabled.truthy) := by
        rw [switched, ← hreplace, Registry.updateHost, hfound]
        rfl
      refine ⟨_, .host (host.flagged enabled.truthy), .toggleHost id enabled, ?_⟩
      rw [Edit.ofChange, hchange]
      rfl
  | application id =>
      obtain ⟨app, hfound, -⟩ := Option.map_eq_some_iff.mp h
      have hreplace := replaceFirst_eq_modifyFirst (f := Application.flagged enabled.truthy) hfound
      have hchange : r.updateApplication id (World.switch enabled) =
          .ok ((Switchable.application id).switched enabled.truthy r,
            app.flagged enabled.truthy) := by
        rw [switched, ← hreplace, Registry.updateApplication, hfound]
        rfl
      refine ⟨_, .application (app.flagged enabled.truthy), .toggleApplication id enabled, ?_⟩
      rw [Edit.ofChange, hchange]
      rfl

theorem switched_advance (x : Switchable) (b : Bool) (r : Registry) :
    x.switched b (Store.advance r) = Store.advance (x.switched b r) := by
  cases x <;> rfl

theorem version_switched (x : Switchable) (b : Bool) (r : Registry) :
    (x.switched b r).version = r.version := by
  cases x <;> rfl

end Switchable

namespace World

variable {settings : Settings} {w : World} {r : Registry}

/-- A valid registry with current patterns is stored, and read back as it is. -/
structure Rests (path : Path) (r : Registry) (w : World) : Prop where
  holds : Store.Holds w.files path r
  stored : r.stored = r
  valid : r.Valid
  current : r.PatternsCurrent

theorem Rests.ready {path : Path} (h : w.Rests path r) (hpath : settings.registryPath = path) :
    w.Ready settings r := by
  have hready : w.Ready settings r.stored :=
    ready_of_stores h.holds.wellFormed ⟨h.holds.writable, hpath ▸ h.holds.bytes⟩
  rwa [h.stored] at hready

theorem Rests.of_content_eq {path : Path} {w' : World} (h : w.Rests path r)
    (heq : w'.files.content? path = w.files.content? path) : w'.Rests path r :=
  { h with holds := ⟨h.holds.wellFormed, h.holds.writable, heq.trans h.holds.bytes⟩ }

theorem Rests.load {path : Path} (h : w.Rests path r) (supply : Supply) :
    Store.load supply w.files path = (.ok r, supply) := by
  have hload := Store.load_of_written supply h.holds.wellFormed h.holds.writable h.holds.bytes
  rwa [h.stored] at hload

theorem Rests.document {path : Path} (h : w.Rests path r) :
    Store.document w.files path = .ok (some r.encodeFields) :=
  Store.document_of_written h.holds.wellFormed h.holds.writable h.holds.bytes

/-- A switch succeeds, and the registry with the other flag is stored. -/
theorem Rests.switch (h : w.Rests settings.registryPath r) (hadmits : w.Admits settings r.version)
    {x : Switchable} {b : Bool} (hflag : x.flag? r = some b) (enabled : Json) :
    (x.operation enabled).Succeeds settings w ∧
      ((x.operation enabled).run settings w).2.Rests settings.registryPath
        (Store.advance (x.switched enabled.truthy r)) := by
  obtain ⟨edit, subject, hedits, hedit⟩ := x.edits settings enabled w.supply hflag
  have hvalid : (x.switched enabled.truthy r).Valid :=
    h.valid.of_outline_eq (x.outline_switched enabled.truthy r)
  have hcurrent := x.patternsCurrent_switched enabled.truthy h.current
  have hpatterns : (x.switched enabled.truthy r).refreshPatterns = x.switched enabled.truthy r :=
    hcurrent.refreshPatterns_eq_self
  obtain ⟨written, hsaves⟩ := hedits.saves (h.ready rfl) hadmits hedit hvalid
  rw [hpatterns] at hsaves
  rcases hsaves.run_spec with ⟨fault, line, hfault, -⟩ | ⟨-, message, applied, line, hrun, -⟩
  · cases (hadmits.returns _).symm.trans hfault
  · rw [hrun]
    obtain ⟨hwell, hstores, -⟩ := hsaves.stores
    refine ⟨⟨_, _, hrun, rfl⟩, ⟨hwell, hstores.writable, hstores.bytes⟩, ?_, ?_, ?_⟩
    · exact congrArg Store.advance (x.stored_switched enabled.truthy h.stored)
    · exact hvalid.of_outline_eq rfl
    · exact ⟨hcurrent.domains, hcurrent.base⟩

/-- Wherever operations lead, nothing is stored yet, or a registry that is read back as it is. -/
theorem Reachable.absent_or_holds {path : Path} (hreach : Reachable path w) :
    w.files.content? path = none ∨
      ∃ written, Store.Holds w.files path written ∧ written.stored = written := by
  induction hreach with
  | start hnone => exact .inl hnone
  | @step w settings _ hpath s op ih =>
      subst hpath
      rcases op.runs settings (w.within s) with hkept | ⟨edit, read, hedits, -, hsaved⟩
      · have hbytes := hkept.files settings.registryPath
        rw [content?_within] at hbytes
        rw [hbytes]
        refine ih.imp_right ?_
        rintro ⟨written, hholds, hstored⟩
        exact ⟨written, ⟨hholds.wellFormed, hholds.writable, hbytes.trans hholds.bytes⟩, hstored⟩
      · obtain ⟨loaded, left, changed, subject, hload, hchanged, hstores⟩ := hsaved
        obtain ⟨hkeeps, -⟩ := changed_ok hedits.sound (Store.wellFormed_of_load hload) hchanged
        have hholds : Store.Holds _ settings.registryPath (Store.advance changed) :=
          ⟨Store.advance_wellFormed hkeeps.wellFormed, hstores.writable, hstores.bytes⟩
        exact .inr ⟨_, hholds.stored, Registry.stored_stored _⟩

/-- What is loaded wherever operations lead is the first registry, or it rests in the file. -/
theorem Reachable.rests {path : Path} (hreach : Reachable path w) :
    ∃ r : Registry, (∀ supply, Store.load supply w.files path = (.ok r, supply)) ∧
      (r = .initial ∨ w.Rests path r) := by
  obtain ⟨r, hload, -, hvalid, hcurrent⟩ := hreach.ready
    (fun settings => Registry.stable_patternsCurrent settings) Registry.patternsCurrent_initial
  refine ⟨r, hload, ?_⟩
  rcases hreach.absent_or_holds with hnone | ⟨written, hholds, hstored⟩
  · left
    have hinitial : Store.load w.supply w.files path = (.ok .initial, w.supply) := by
      simp only [Store.load, Store.document, hnone]
    exact Except.ok.inj (Prod.mk.inj ((hload w.supply).symm.trans hinitial)).1
  · right
    have hread := Store.load_of_written w.supply hholds.wellFormed hholds.writable hholds.bytes
    rw [hstored, hload] at hread
    cases hread
    exact ⟨hholds, hstored, hvalid, hcurrent⟩

/-- Everything is as it was, two versions later: what is loaded, the document, and what is compiled. -/
structure Restored (path : Path) (r : Registry) (w w' : World) : Prop where
  load : ∀ supply, Store.load supply w'.files path = (.ok { r with version := r.version + 2 }, supply)
  document : ∃ before, Store.document w.files path = .ok (some before) ∧
    Store.document w'.files path = .ok (some (before.set "version" (.int (r.version + 2))))
  compiled : ∀ settings : Settings, settings.registryPath = path →
    ∃ config, (Operation.preview.run settings w).1 = .ok (.shown config) ∧
      (Operation.preview.run settings w').1 = .ok (.shown config)

/-- How switching an entity with a flag ends: whatever is asked for succeeds, the entity then has the flag that was
asked for and all others have theirs, and away from the flag and back everything is as it was. -/
structure Switches (settings : Settings) (r : Registry) (x : Switchable) (b : Bool) (w : World) :
    Prop where
  succeeds : ∀ enabled, (x.operation enabled).Succeeds settings w
  switched : ∀ enabled, ∃ r',
    (∀ supply, Store.load supply ((x.operation enabled).run settings w).2.files settings.registryPath =
      (.ok r', supply)) ∧
      x.flag? r' = some enabled.truthy ∧ ∀ y, y ≠ x → y.flag? r' = y.flag? r
  restored : ∀ away back s, away.truthy = !b → back.truthy = b →
    (((x.operation away).run settings w).2.within s).Admits settings (r.version + 1) →
      (x.operation back).Succeeds settings (((x.operation away).run settings w).2.within s) ∧
        Restored settings.registryPath r w
          ((x.operation back).run settings (((x.operation away).run settings w).2.within s)).2

/-- After a switch the entity has the flag that was asked for, also once the version is counted up. -/
theorem flag?_advance_switched {x : Switchable} {b : Bool} (hflag : x.flag? r = some b) (flag : Bool) :
    x.flag? (Store.advance (x.switched flag r)) = some flag := by
  rw [← x.switched_advance]
  exact x.flag?_switched (a := b) (by cases x <;> exact hflag) flag

theorem Rests.switches (h : w.Rests settings.registryPath r) (hadmits : w.Admits settings r.version)
    {x : Switchable} {b : Bool} (hflag : x.flag? r = some b) : w.Switches settings r x b where
  succeeds enabled := (h.switch hadmits hflag enabled).1
  switched enabled := by
    refine ⟨_, (h.switch hadmits hflag enabled).2.load, flag?_advance_switched hflag _, fun y hne => ?_⟩
    rw [← x.switched_advance, x.flag?_switched_of_ne hne]
    cases y <;> rfl
  restored := by
    intro away back s haway hback hnext
    have hfirst := ((h.switch hadmits hflag away).2).of_content_eq (content?_within s _ _)
    have hflag' := flag?_advance_switched hflag away.truthy
    have hversion : (Store.advance (x.switched away.truthy r)).version = r.version + 1 := by
      rw [Store.advance, x.version_switched]
    obtain ⟨hsuccess, hsecond⟩ := hfirst.switch (hversion.symm ▸ hnext) hflag' back
    have hsame : Store.advance (x.switched back.truthy (Store.advance (x.switched away.truthy r))) =
        { r with version := r.version + 2 } := by
      rw [x.switched_advance, x.switched_switched, hback, x.switched_eq_self hflag]
      have hversions : r.version + 1 + 1 = r.version + 2 := Int.add_assoc r.version 1 1
      exact congrArg (fun version => { r with version := version }) hversions
    rw [hsame] at hsecond
    refine ⟨hsuccess, hsecond.load, ⟨_, h.document, hsecond.document⟩, fun settings hpath => ?_⟩
    have hbefore : w.Ready settings r := h.ready hpath
    have hafter := (hsecond.ready hpath).withRegistry fun registry w =>
      (.ok (.shown (registry.previewFields settings)), w)
    exact ⟨r.previewFields settings, congrArg Prod.fst (hbefore.withRegistry _),
      congrArg Prod.fst hafter⟩

/-- No assignment of flags makes a valid registry invalid; so wherever operations lead, and as long as the file
can be replaced and the exchange with the control plane returns, every switch of an entity that is there succeeds
and sets its flag, and away from its flag and back everything is as it was. -/
theorem toggling_is_safe_and_reversible {path : Path} (hreach : Reachable path w) :
    (∀ (r : Registry) (applications hosts : Nat → Bool), r.violations = [] →
        (r.flagged applications hosts).violations = []) ∧
      ∃ r : Registry, (∀ supply, Store.load supply w.files path = (.ok r, supply)) ∧
        ∀ (x : Switchable) (b : Bool), x.flag? r = some b →
          ∀ (settings : Settings) (s : Surroundings), settings.registryPath = path →
            (w.within s).Admits settings r.version → (w.within s).Switches settings r x b := by
  refine ⟨fun r applications hosts h => Registry.violations_flagged h applications hosts, ?_⟩
  obtain ⟨r, hload, hrests⟩ := hreach.rests
  refine ⟨r, hload, fun x b hflag settings s hpath hadmits => ?_⟩
  subst hpath
  rcases hrests with rfl | hrests
  · cases x <;> cases hflag
  · exact (hrests.of_content_eq (content?_within s w _)).switches hadmits hflag

theorem toggling_is_safe_and_reversible_household :
    Reachable Clash.shelf (Clash.start.history Clash.settings Household.steps) ∧
      (∀ applications hosts : Nat → Bool, ((Household.registry 3 [Household.shop]
        [Twins.host 0, Household.camera]).flagged applications hosts).violations = []) ∧
      (Switchable.application Household.shop.id).flag?
        (Household.registry 3 [Household.shop] [Twins.host 0, Household.camera]) = some true ∧
      ((Clash.start.history Clash.settings Household.steps).within offline).Switches Clash.settings
        (Household.registry 3 [Household.shop] [Twins.host 0, Household.camera])
        (.application Household.shop.id) true := by
  have hreach := reachable_start Household.steps
  have hshelved := Household.shelved_after_steps
  obtain ⟨hflags, r, hload, hswitches⟩ := toggling_is_safe_and_reversible hreach
  obtain rfl := hshelved.ready.unique hload
  have hvalid : (Household.registry 3 [Household.shop] [Twins.host 0, Household.camera]).Valid :=
    ⟨by decide, by decide, by decide, by decide, by decide⟩
  have hviolations := (Registry.violations_eq_nil_iff _).mpr hvalid
  exact ⟨hreach, fun applications hosts => hflags _ applications hosts hviolations, rfl,
    hswitches _ true rfl Clash.settings offline rfl (hshelved.admits (by decide))⟩

end World

end EdgeProxy
