import EdgeProxy.Change.Edit
import EdgeProxy.Request.Field
import EdgeProxy.Request.Payload
/-!
Changes of environments.
-/

namespace EdgeProxy

namespace Environment

def requested (data : Json) : Requested Environment := do
  let name ← Payload.field data "name"
  match name with
  | .str name =>
    if name.isEmpty then reject .environmentFieldsMissing
    else
      let frontendPrefix ← Payload.field data "prefix"
      let apiPrefix ← Payload.field data "apiPrefix"
      match frontendPrefix, apiPrefix with
      | .str _, .str _ =>
        let frontendLabels ← Request.labels frontendPrefix "prefix" true
        let apiLabels ← Request.labels apiPrefix "apiPrefix" false
        .ok ⟨Request.environmentId name, Text.trim name, frontendLabels, apiLabels, false, []⟩
      | _, _ => reject .environmentFieldsMissing
  | _ => reject .environmentFieldsMissing

def setName (v : Json) (e : Environment) : Requested Environment :=
  match v with
  | .str s =>
    if s.isEmpty then reject .environmentNameMissing else .ok { e with name := Text.trim s }
  | _ => reject .environmentNameMissing

def setFrontendPrefix (v : Json) (e : Environment) : Requested Environment := do
  let labels ← Request.labels v "prefix" true
  .ok { e with frontendPrefix := labels }

def setApiPrefix (v : Json) (e : Environment) : Requested Environment := do
  let labels ← Request.labels v "apiPrefix" false
  .ok { e with apiPrefix := labels }

/-- Change the fields of an environment that a payload gives, the default mark apart. -/
def update (updates : Json) (e : Environment) : Requested Environment := do
  let e ← Payload.whenGiven updates "name" setName e
  let e ← Payload.whenGiven updates "prefix" setFrontendPrefix e
  Payload.whenGiven updates "apiPrefix" setApiPrefix e

end Environment

namespace Registry

/-- Add an environment at the end. -/
def addEnvironment (e : Environment) (r : Registry) : Requested Registry :=
  if (r.environment? e.id).isSome then reject .environmentExists
  else .ok { r with environments := r.environments ++ [e] }

/-- Put an environment in the place of the first one with an identifier. -/
def putEnvironment (id : String) (e : Environment) (r : Registry) : Registry :=
  { r with environments := replaceFirst (·.id == id) e r.environments }

/-- Take the default mark from every environment. -/
def clearDefaults (r : Registry) : Registry :=
  { r with environments := r.environments.map fun e => { e with isDefault := false } }

/-- Change the first environment with an identifier.  An environment that becomes the default takes
the mark from all others. -/
def updateEnvironment (id : String) (updates : Json) (r : Registry) :
    Requested (Registry × Environment) :=
  match r.environment? id with
  | none => reject .environmentUnknown
  | some e => do
    let e ← e.update updates
    match ← Payload.given updates "isDefault" with
    | none => .ok (r.putEnvironment id e, e)
    | some v =>
      let e := { e with isDefault := v.truthy }
      .ok ((if v.truthy then r.clearDefaults else r).putEnvironment id e, e)

/-- Delete the first environment with an identifier, unless an application uses it. -/
def deleteEnvironment (id : String) (r : Registry) : Requested (Registry × Environment) :=
  match r.environment? id with
  | none => reject .environmentUnknown
  | some e =>
    match r.applicationsUsing id with
    | [] => .ok ({ r with environments := r.environments.eraseP (·.id == id) }, e)
    | users => reject (.environmentInUse users.length)

end Registry

end EdgeProxy
