import EdgeProxy.Proofs.Text.Utf8
import EdgeProxy.Proofs.Yaml.Pairs
import Mathlib
/-!
Which settings files are loaded or turned down with a reason, and which end the loading in a fault.  A fault comes from
bytes that are no text, from a scalar with the form of a number or a date that stands for none, from a wrapper around
something that is not taken for a map, and from a name of the token's variable that no variable can have.
-/

namespace EdgeProxy

/-- What makes a document of a text, or does not read it. -/
abbrev Yaml.Reader : Type := String → Except Yaml.ReadError Yaml.Value

/-- A value that a variable can be asked for by. -/
inductive Variables.Answers (vars : Variables) : Yaml.Value → Prop where
  | text (s : String) : Answers vars (.text s)
  | key {v : Yaml.Value} (hnamed : vars.named = false) (hkey : v.isKey = true) : Answers vars v

namespace Settings

variable {read : Yaml.Reader} {files : Files} {vars : Variables} {directory path : Path} {asked : Option Path}
  {bytes : List UInt8} {doc : Yaml.Value} {pairs : List (Yaml.Value × Yaml.Value)}

/-- The document of a settings file, as a reader of YAML has it. -/
def documentBy (read : Yaml.Reader) (path : Path) (bytes : List UInt8) : Except SettingsFailure Yaml.Value :=
  match Text.decode bytes with
  | .error reason => .error (.fault (.undecodable reason))
  | .ok text =>
    match read text with
    | .ok v => .ok v
    | .error .malformed => .error (.refused (.malformed path))
    | .error .badScalar => .error (.fault .badValue)

/-- What the settings file at a path says, as a reader of YAML has it. -/
def ofFileBy (read : Yaml.Reader) (files : Files) (path : Path) :
    Except SettingsFailure (List (Yaml.Value × Yaml.Value)) :=
  match files.content? path with
  | none => .error (.refused (.notFound path))
  | some (.error why) => .error (.refused (.notRead path why))
  | some (.ok bytes) => documentBy read path bytes >>= given path

/-- What the settings file says that is in force, as a reader of YAML has it. -/
def fromFileBy (read : Yaml.Reader) (files : Files) (directory : Path) (asked : Option Path) :
    Except SettingsFailure (List (Yaml.Value × Yaml.Value)) :=
  match asked with
  | some path => ofFileBy read files path
  | none =>
    match locate files directory with
    | none => .ok []
    | some path => ofFileBy read files path

/-- The settings of the environment above those of a file, and what the pairs spell. -/
def finish (vars : Variables) (pairs : List (Yaml.Value × Yaml.Value)) : Except SettingsFailure Settings :=
  match overridden vars pairs with
  | .error fault => .error (.fault fault)
  | .ok pairs => ofPairs pairs

/-- The settings that are in force, as a reader of YAML has them. -/
def loadBy (read : Yaml.Reader) (files : Files) (vars : Variables) (directory : Path) (asked : Option Path) :
    Except SettingsFailure Settings :=
  fromFileBy read files directory asked >>= finish vars

theorem fromFile_eq_fromFileBy (files : Files) (directory : Path) (asked : Option Path) :
    fromFile files directory asked = fromFileBy Yaml.read files directory asked :=
  rfl

theorem load_eq_loadBy (files : Files) (vars : Variables) (directory : Path) (asked : Option Path) :
    load files vars directory asked = loadBy Yaml.read files vars directory asked := by
  rw [load, loadBy, fromFile_eq_fromFileBy]
  cases fromFileBy Yaml.read files directory asked with
  | error failure => rfl
  | ok pairs =>
      dsimp only
      change _ = finish vars pairs
      unfold finish
      cases overridden vars pairs with
      | error fault => rfl
      | ok result => rfl

/-- The settings file that is in force, with its content: the one that is asked for, or else the nearest one. -/
inductive InForce (files : Files) (directory : Path) : Option Path → Path → List UInt8 → Prop where
  | asked {path : Path} {bytes : List UInt8} (hbytes : files.content? path = some (.ok bytes)) :
      InForce files directory (some path) path bytes
  | located {path : Path} {bytes : List UInt8} (hlocate : locate files directory = some path)
      (hbytes : files.content? path = some (.ok bytes)) : InForce files directory none path bytes

/-- A content spells a document. -/
def Spells (read : Yaml.Reader) (bytes : List UInt8) (doc : Yaml.Value) : Prop :=
  ∃ text, Text.decode bytes = .ok text ∧ read text = .ok doc

/-- What a document says: an empty one nothing, a map itself, or what is in its wrapper. -/
inductive Says : Yaml.Value → List (Yaml.Value × Yaml.Value) → Prop where
  | nothing : Says .null []
  | flat {pairs : List (Yaml.Value × Yaml.Value)} (h : Yaml.lookup pairs wrapper = none) : Says (.map pairs) pairs
  | wrapped {pairs inner : List (Yaml.Value × Yaml.Value)} {v : Yaml.Value}
      (h : Yaml.lookup pairs wrapper = some v) (hinner : Yaml.SpellsMap v inner) : Says (.map pairs) inner

/-- A content that loading ends well on: a text outside the grammar, a document that is neither empty nor a map, or one
that says something and names the token's variable, if it does, by something that a variable can be asked for by. -/
inductive Legible (read : Yaml.Reader) (vars : Variables) (bytes : List UInt8) : Prop where
  | malformed {text : String} (htext : Text.decode bytes = .ok text) (hread : read text = .error .malformed)
  | notMap {doc : Yaml.Value} (hdoc : Spells read bytes doc) (hnull : doc ≠ .null) (hmap : ∀ pairs, doc ≠ .map pairs)
  | settings {doc : Yaml.Value} {pairs : List (Yaml.Value × Yaml.Value)} (hdoc : Spells read bytes doc)
      (hsaid : Says doc pairs) (hname : ∀ v, Yaml.lookup pairs tokenVariableName = some v → vars.Answers v)

/-- How loading settings ends well: in settings, or with a reason. -/
inductive Ends {α : Type} : Except SettingsFailure α → Prop where
  | loaded (a : α) : Ends (.ok a)
  | refused (why : SettingsError) : Ends (.error (.refused why))

theorem ends_iff {α : Type} {result : Except SettingsFailure α} :
    Ends result ↔ (∃ a, result = .ok a) ∨ ∃ why, result = .error (.refused why) := by
  constructor
  · rintro (a | why)
    · exact .inl ⟨a, rfl⟩
    · exact .inr ⟨why, rfl⟩
  · rintro (⟨a, rfl⟩ | ⟨why, rfl⟩)
    · exact .loaded a
    · exact .refused why

theorem not_ends_fault {α : Type} (fault : Fault) : ¬ Ends (α := α) (.error (.fault fault)) := nofun

/-- What comes after a step ends well exactly if the step is refused or ends well. -/
theorem ends_bind_iff {α β : Type} {x : Except SettingsFailure α} {f : α → Except SettingsFailure β} :
    Ends (x >>= f) ↔ (∃ why, x = .error (.refused why)) ∨ ∃ a, x = .ok a ∧ Ends (f a) := by
  cases x with
  | ok a => simp [bind, Except.bind]
  | error failure =>
      cases failure with
      | refused why => simp [bind, Except.bind, Ends.refused why]
      | fault fault => simp [bind, Except.bind, not_ends_fault]

/-- The nearest settings file is a file. -/
theorem isFile_of_locateFrom {left : Nat} (h : locateFrom files directory left = some path) :
    files.isFile path = true := by
  induction left generalizing directory with
  | zero => cases h
  | succ left ih =>
      rw [locateFrom] at h
      split at h
      next hfile =>
        cases h
        exact hfile
      next =>
        split at h
        next => cases h
        next => exact ih h

/-- No file is to be read, or one is that is not there or cannot be read, or one is in force. -/
inductive Reads (read : Yaml.Reader) (files : Files) (directory : Path) (asked : Option Path) : Prop where
  | nothing (hasked : asked = none) (hlocate : locate files directory = none)
  | unread {path : Path} {why : SettingsError} (hpath : (asked.or (locate files directory)) = some path)
      (hcontent : ∀ bytes, files.content? path ≠ some (.ok bytes))
      (hfile : fromFileBy read files directory asked = .error (.refused why))
  | read {path : Path} {bytes : List UInt8} (h : InForce files directory asked path bytes)

theorem reads (read : Yaml.Reader) (files : Files) (directory : Path) (asked : Option Path) :
    Reads read files directory asked := by
  cases asked with
  | some path =>
      rcases hcontent : files.content? path with _ | why | bytes
      · exact .unread rfl (by simp [hcontent]) (by rw [fromFileBy, ofFileBy, hcontent])
      · exact .unread rfl (by simp [hcontent]) (by rw [fromFileBy, ofFileBy, hcontent])
      · exact .read (.asked hcontent)
  | none =>
      cases hlocate : locate files directory with
      | none => exact .nothing rfl hlocate
      | some path =>
          obtain ⟨content, hcontent⟩ := Option.isSome_iff_exists.mp (isFile_of_locateFrom hlocate)
          cases content with
          | error why =>
              have hfile : fromFileBy read files directory none = .error (.refused (.notRead path why)) := by
                simp only [fromFileBy, hlocate, ofFileBy, hcontent]
              exact .unread (by rw [hlocate]; rfl) (by simp [hcontent]) hfile
          | ok bytes => exact .read (.located hlocate hcontent)

theorem InForce.unique {path' : Path} {bytes' : List UInt8} (h : InForce files directory asked path bytes)
    (h' : InForce files directory asked path' bytes') : path = path' ∧ bytes = bytes' := by
  cases h with
  | asked hbytes =>
      cases h' with
      | asked hbytes' =>
          cases hbytes.symm.trans hbytes'
          exact ⟨rfl, rfl⟩
  | located hlocate hbytes =>
      cases h' with
      | located hlocate' hbytes' =>
          cases hlocate.symm.trans hlocate'
          cases hbytes.symm.trans hbytes'
          exact ⟨rfl, rfl⟩

theorem loadBy_of_inForce (read : Yaml.Reader) (vars : Variables)
    (h : InForce files directory asked path bytes) :
    loadBy read files vars directory asked = documentBy read path bytes >>= given path >>= finish vars := by
  rw [loadBy]
  cases h with
  | asked hbytes => simp only [fromFileBy, ofFileBy, hbytes]
  | located hlocate hbytes => simp only [fromFileBy, hlocate, ofFileBy, hbytes]

theorem documentBy_eq_ok_iff : documentBy read path bytes = .ok doc ↔ Spells read bytes doc := by
  rw [documentBy, Spells]
  cases Text.decode bytes with
  | error reason => simp
  | ok text =>
      cases hread : read text with
      | ok v => simp [hread]
      | error e => cases e <;> simp [hread]

theorem documentBy_refused_iff {why : SettingsError} :
    documentBy read path bytes = .error (.refused why) ↔
      why = .malformed path ∧ ∃ text, Text.decode bytes = .ok text ∧ read text = .error .malformed := by
  rw [documentBy]
  cases Text.decode bytes with
  | error reason => simp
  | ok text =>
      cases hread : read text with
      | ok v => simp [hread]
      | error e => cases e <;> simp [hread, eq_comm]

theorem given_eq_ok_iff : given path doc = .ok pairs ↔ Says doc pairs := by
  constructor
  · intro h
    unfold given unwrap at h
    split at h
    next => cases h; exact .nothing
    next found =>
      cases hlookup : Yaml.lookup found wrapper with
      | none =>
          simp only [hlookup] at h
          cases h
          exact .flat hlookup
      | some v =>
          simp only [hlookup] at h
          split at h
          next inner hinner =>
            cases h
            exact .wrapped hlookup (Yaml.pairsOf_eq_ok_iff.mp hinner)
          next => cases h
    next => cases h
  · intro h
    cases h with
    | nothing => rfl
    | flat h => simp [given, unwrap, h]
    | wrapped h hinner => simp [given, unwrap, h, Yaml.pairsOf_eq_ok_iff.mpr hinner]

theorem given_refused_iff :
    (∃ why, given path doc = .error (.refused why)) ↔ doc ≠ .null ∧ ∀ pairs, doc ≠ .map pairs := by
  cases doc with
  | map found =>
      rw [given]
      cases unwrap found with
      | ok inner => simp
      | error fault => simp
  | _ => simp [given]

/-- A variable can be asked for by a value exactly if asking ends well. -/
theorem namedBy_eq_ok_iff {v : Yaml.Value} : (∃ token, vars.namedBy v = .ok token) ↔ vars.Answers v := by
  constructor
  · rintro ⟨token, h⟩
    unfold Variables.namedBy at h
    split at h
    next s => exact .text s
    next => cases h
    next => cases h
    next v _ hlist hmap =>
      split at h
      next => cases h
      next hnamed =>
        refine .key (Bool.eq_false_iff.mpr hnamed) ?_
        cases v <;> simp_all [Yaml.Value.isKey]
  · intro h
    cases h with
    | text s => exact ⟨_, rfl⟩
    | key hnamed hkey => cases v <;> simp_all [Variables.namedBy, Yaml.Value.isKey]

/-- The environment does not touch settings that no variable stands in for. -/
theorem lookup_foldl_override {name : String} {names : List (String × String)} (h : ∀ o ∈ names, o.2 ≠ name)
    (vars : Variables) (pairs : List (Yaml.Value × Yaml.Value)) :
    Yaml.lookup (names.foldl (fun m (name, setting) => override m setting (vars.get? name)) pairs) name =
      Yaml.lookup pairs name := by
  induction names generalizing pairs with
  | nil => rfl
  | cons o rest ih =>
      rw [List.foldl_cons, ih fun o' ho' => h o' (List.mem_cons_of_mem o ho')]
      dsimp only
      cases vars.get? o.1 with
      | none => rfl
      | some s => exact Yaml.lookup_setKey_of_ne (h o List.mem_cons_self) pairs (.text s)

theorem overridden_eq_ok_iff :
    (∃ result, overridden vars pairs = .ok result) ↔
      ∀ v, Yaml.lookup pairs tokenVariableName = some v → vars.Answers v := by
  have hnames : ∀ o ∈ overrides, o.2 ≠ tokenVariableName := by decide
  unfold overridden
  dsimp only
  rw [lookup_foldl_override hnames]
  simp only [map_eq_ok]
  cases Yaml.lookup pairs tokenVariableName with
  | none =>
      refine iff_of_true ⟨_, _, rfl, rfl⟩ nofun
  | some v =>
      simp only [Option.getD_some, Option.some.injEq, forall_eq', ← namedBy_eq_ok_iff]
      constructor
      · rintro ⟨_, token, h, -⟩
        exact ⟨token, h⟩
      · rintro ⟨token, h⟩
        exact ⟨_, token, h, rfl⟩

theorem ends_ofPairs (pairs : List (Yaml.Value × Yaml.Value)) : Ends (ofPairs pairs) := by
  unfold ofPairs
  cases decode standard (Yaml.fieldsOf pairs) with
  | valid settings => exact Ends.loaded settings
  | invalid issues => exact Ends.refused (.invalid issues)

theorem ends_finish_iff :
    Ends (finish vars pairs) ↔ ∀ v, Yaml.lookup pairs tokenVariableName = some v → vars.Answers v := by
  rw [← overridden_eq_ok_iff, finish]
  cases overridden vars pairs with
  | error fault => simp [not_ends_fault]
  | ok result => simp [ends_ofPairs]

/-- What follows the reading of a content ends well exactly if the content is legible. -/
theorem ends_content_iff :
    Ends (documentBy read path bytes >>= given path >>= finish vars) ↔ Legible read vars bytes := by
  simp only [bind_assoc, ends_bind_iff, documentBy_refused_iff, documentBy_eq_ok_iff, given_refused_iff,
    given_eq_ok_iff, ends_finish_iff]
  constructor
  · rintro (⟨_, rfl, text, htext, hread⟩ | ⟨doc, hdoc, ⟨hnull, hmap⟩ | ⟨pairs, hsaid, hname⟩⟩)
    · exact .malformed htext hread
    · exact .notMap hdoc hnull hmap
    · exact .settings hdoc hsaid hname
  · intro h
    cases h with
    | malformed htext hread => exact .inl ⟨_, rfl, _, htext, hread⟩
    | notMap hdoc hnull hmap => exact .inr ⟨_, hdoc, .inl ⟨hnull, hmap⟩⟩
    | settings hdoc hsaid hname => exact .inr ⟨_, hdoc, .inr ⟨_, hsaid, hname⟩⟩

/-- Loading ends well exactly if no file is in force or the one in force is legible. -/
theorem ends_loadBy_iff (read : Yaml.Reader) (files : Files) (vars : Variables) (directory : Path)
    (asked : Option Path) :
    Ends (loadBy read files vars directory asked) ↔
      ∀ path bytes, InForce files directory asked path bytes → Legible read vars bytes := by
  cases reads read files directory asked with
  | nothing hasked hlocate =>
    subst hasked
    have hload : loadBy read files vars directory none = finish vars [] := by
      rw [loadBy, fromFileBy, hlocate]
      rfl
    rw [hload]
    refine iff_of_true (ends_finish_iff.mpr nofun) fun path bytes h => ?_
    cases h with
    | located hlocate' hbytes => cases hlocate.symm.trans hlocate'
  | @unread path why hpath hcontent hfile =>
    have hload : loadBy read files vars directory asked = .error (.refused why) := by
      rw [loadBy, hfile]
      rfl
    rw [hload]
    refine iff_of_true (.refused _) fun path' bytes h => ?_
    cases h with
    | asked hbytes =>
        cases hpath
        exact absurd hbytes (hcontent bytes)
    | located hlocate hbytes =>
        rw [hlocate] at hpath
        cases hpath
        exact absurd hbytes (hcontent bytes)
  | @read path bytes hforce =>
    rw [loadBy_of_inForce read vars hforce, ends_content_iff]
    constructor
    · intro h path' bytes' hforce'
      obtain ⟨rfl, rfl⟩ := hforce.unique hforce'
      exact h
    · intro h
      exact h path bytes hforce

/-- A map without the wrapper says the same when it is wrapped. -/
theorem given_wrapped (path : Path) {m : List (Yaml.Value × Yaml.Value)} (hm : Yaml.lookup m wrapper = none) :
    given path (.map [(.text wrapper, .map m)]) = given path (.map m) := by
  have hwrapped : Says (.map [(.text wrapper, .map m)]) m :=
    .wrapped (Yaml.lookup_cons_self [] wrapper (.map m)) (.map m)
  rw [given_eq_ok_iff.mpr hwrapped, given_eq_ok_iff.mpr (.flat hm)]

/-- Whatever the reader of YAML is, loading ends in settings or with a reason exactly if no settings file is in force or
the one in force is legible, so a content that is not legible ends it in a fault; and a map without the wrapper says the
same when it is wrapped.  Loading is this with the reader of the grammar. -/
theorem loading_ends_well_iff_legible (read : Yaml.Reader) (files : Files) (vars : Variables) (directory : Path)
    (asked : Option Path) :
    (((∃ settings, loadBy read files vars directory asked = .ok settings) ∨
        ∃ why, loadBy read files vars directory asked = .error (.refused why)) ↔
      ∀ path bytes, InForce files directory asked path bytes → Legible read vars bytes) ∧
    (∀ (files' : Files) (path : Path) (bytes bytes' : List UInt8) (m : List (Yaml.Value × Yaml.Value)),
      InForce files directory asked path bytes → Spells read bytes (.map m) → Yaml.lookup m wrapper = none →
      InForce files' directory asked path bytes' → Spells read bytes' (.map [(.text wrapper, .map m)]) →
      loadBy read files' vars directory asked = loadBy read files vars directory asked) ∧
    load files vars directory asked = loadBy Yaml.read files vars directory asked := by
  refine ⟨ends_iff.symm.trans (ends_loadBy_iff read files vars directory asked), ?_, load_eq_loadBy _ _ _ _⟩
  intro files' path bytes bytes' m hforce hflat hm hforce' hwrapped
  rw [loadBy_of_inForce read vars hforce, loadBy_of_inForce read vars hforce', documentBy_eq_ok_iff.mpr hflat,
    documentBy_eq_ok_iff.mpr hwrapped]
  simp only [bind, Except.bind, given_wrapped path hm]

/-- The path of a settings file in the working directory. -/
def sheetPath : Path := ⟨"", [fileName]⟩

/-- Nothing but a settings file. -/
def sheet (content : String) : Files := ⟨[(sheetPath, .file (Text.encode content))], fun _ => none⟩

theorem inForce_sheet (directory : Path) (content : String) :
    InForce (sheet content) directory (some sheetPath) sheetPath (Text.encode content) :=
  .asked rfl

theorem loading_ends_well_iff_legible_at_sheet :
    Spells Yaml.read (Text.encode "listen: [a]\n") (.map [(.text "listen", .list [.text "a"])]) ∧
      Spells Yaml.read (Text.encode "homeroute:\n  listen: [a]\n")
        (.map [(.text wrapper, .map [(.text "listen", .list [.text "a"])])]) ∧
      load (sheet "homeroute:\n  listen: [a]\n") ⟨[], true⟩ ⟨"/", []⟩ (some sheetPath) =
        load (sheet "listen: [a]\n") ⟨[], true⟩ ⟨"/", []⟩ (some sheetPath) := by
  have hflat : Spells Yaml.read (Text.encode "listen: [a]\n") (.map [(.text "listen", .list [.text "a"])]) :=
    ⟨_, Text.decode_encode _, by cbv⟩
  have hwrapped : Spells Yaml.read (Text.encode "homeroute:\n  listen: [a]\n")
      (.map [(.text wrapper, .map [(.text "listen", .list [.text "a"])])]) :=
    ⟨_, Text.decode_encode _, by cbv⟩
  have hlookup : Yaml.lookup [(.text "listen", .list [.text "a"])] wrapper = none := by decide
  refine ⟨hflat, hwrapped, ?_⟩
  rw [load_eq_loadBy, load_eq_loadBy]
  exact (loading_ends_well_iff_legible Yaml.read _ _ _ _).2.1 _ _ _ _ _ (inForce_sheet _ _) hflat hlookup
    (inForce_sheet _ _) hwrapped

/-- A wrapper around a number ends loading in a fault, whatever reader has it for one. -/
theorem wrapped_number_is_a_fault :
    (∀ read : Yaml.Reader, read "homeroute: 5\n" = .ok (.map [(.text wrapper, .int 5)]) →
      loadBy read (sheet "homeroute: 5\n") ⟨[], true⟩ ⟨"/", []⟩ (some sheetPath) =
        .error (.fault .wrongKind)) ∧
    load (sheet "homeroute: 5\n") ⟨[], true⟩ ⟨"/", []⟩ (some sheetPath) = .error (.fault .wrongKind) := by
  have hfault : ∀ read : Yaml.Reader, read "homeroute: 5\n" = .ok (.map [(.text wrapper, .int 5)]) →
      loadBy read (sheet "homeroute: 5\n") ⟨[], true⟩ ⟨"/", []⟩ (some sheetPath) =
        .error (.fault .wrongKind) := by
    intro read hread
    have hdoc : Spells read (Text.encode "homeroute: 5\n") (.map [(.text wrapper, .int 5)]) :=
      ⟨_, Text.decode_encode _, hread⟩
    rw [loadBy_of_inForce _ _ (inForce_sheet _ _), documentBy_eq_ok_iff.mpr hdoc]
    rfl
  refine ⟨hfault, ?_⟩
  rw [load_eq_loadBy]
  exact hfault Yaml.read (by cbv)

end Settings

end EdgeProxy
