import EdgeProxy.Operation.Answer
/-!
Changing the stored registry: read it, change it, check it, write it, compile and push it.  A change
that is turned down at any step before the file is written leaves everything as it was; a push that
fails does not undo what was written.
-/

namespace EdgeProxy

/-- The result of an operation: an answer, or a value that no rule provides for. -/
abbrev Result := Except Fault Answer

/-- A change of a registry, what it was about, and the supply left after it. -/
abbrev Edit := Supply → Registry → Requested (Registry × Subject) × Supply

namespace Edit

/-- A change that draws nothing from the supply. -/
def ofChange (change : Registry → Requested (Registry × Subject)) : Edit :=
  fun supply r => (change r, supply)

end Edit

/-- A registry whose patterns are up to date, if it is valid. -/
def Registry.checked (r : Registry) : Requested Registry :=
  let r := r.refreshPatterns
  match r.violations with
  | [] => .ok r
  | v :: _ => reject (.violation v)

/-- The registry after a change, if it is valid. -/
def changed (edit : Edit) (supply : Supply) (r : Registry) :
    Requested (Registry × Subject) × Supply :=
  match edit supply r with
  | (.error e, supply) => (.error e, supply)
  | (.ok (r, subject), supply) =>
    match r.checked with
    | .error e => (.error e, supply)
    | .ok r => (.ok (r, subject), supply)

namespace World

/-- The answer to a change that was saved. -/
def announce (settings : Settings) (message : Option String) (subject : Subject)
    (registry : Registry) (w : World) : Result × World :=
  match w.apply settings registry with
  | (.error fault, w) => (.error fault, w)
  | (.ok applied, w) => (.ok (.saved message subject applied), w)

/-- The end of a change: the registry that was read is changed, checked, written and pushed. -/
def commit (settings : Settings) (message : Option String) (edit : Edit) (loaded : Registry)
    (w : World) : Result × World :=
  let (result, supply) := changed edit w.supply loaded
  let w := { w with supply := supply }
  match result with
  | .error (.fault fault) => (.error fault, w)
  | .error (.rejected why) => (.ok (.refused (.rejected why)), w)
  | .ok (registry, subject) =>
    match w.save settings registry (some loaded.version) with
    | (.error (.fault fault), w) => (.error fault, w)
    | (.error (.refused why), w) => (.ok (.refused (.store why)), w)
    | (.ok saved, w) => w.announce settings message subject saved

/-- Go on with the stored registry. -/
def withRegistry (settings : Settings) (next : Registry → World → Result × World) (w : World) :
    Result × World :=
  match w.load settings with
  | (.error (.fault fault), w) => (.error fault, w)
  | (.error (.refused why), w) => (.ok (.refused (.store why)), w)
  | (.ok registry, w) => next registry w

/-- Change the stored registry. -/
def mutate (settings : Settings) (message : Option String) (edit : Edit) (w : World) :
    Result × World :=
  w.withRegistry settings (commit settings message edit)

/-- Go on with a request that was read, unless it is turned down. -/
def withRequest {α : Type} (request : Requested α) (next : α → World → Result × World)
    (w : World) : Result × World :=
  match request with
  | .error (.fault fault) => (.error fault, w)
  | .error (.rejected why) => (.ok (.refused (.rejected why)), w)
  | .ok a => next a w

end World

end EdgeProxy
