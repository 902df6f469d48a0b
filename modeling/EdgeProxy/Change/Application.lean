import EdgeProxy.Change.Edit
import EdgeProxy.Request.Field
import EdgeProxy.Request.Payload
/-!
Changes of applications.
-/

namespace EdgeProxy

namespace Application

/-- An application as it is asked for, before its endpoints are checked. -/
structure Draft where
  name : Json
  slug : String
  endpoints : Fields

def draft (data : Json) : Requested Draft := do
  let name ← Payload.field data "name"
  let slug ← Payload.field data "slug"
  let endpoints ← Payload.field data "endpoints"
  if !name.truthy || !slug.truthy then reject .applicationFieldsMissing
  else
    let slug ← Request.slug slug
    match endpoints with
    | .obj (first :: rest) => .ok ⟨name, slug, first :: rest⟩
    | _ => reject .applicationEndpointsMissing

/-- The endpoints of one environment, at least one. -/
def requestedSet (v : Json) (environment : String) (present : Option EndpointSet) :
    Requested EndpointSet := do
  let set ← Request.endpointSet v environment present
  if set.inUse then .ok set else reject (.noEndpoint environment)

/-- Give an environment a set of endpoints: in its place if it has one, at the end otherwise. -/
def putSet (sets : List (String × EndpointSet)) (environment : String) (set : EndpointSet) :
    List (String × EndpointSet) :=
  match sets with
  | [] => [(environment, set)]
  | (k, s) :: rest =>
    if k == environment then (k, set) :: rest else (k, s) :: putSet rest environment set

/-- The endpoints that a payload gives for known environments, put to those in `sets`. -/
def requestedSets (environments : List Environment) (sets : List (String × EndpointSet)) :
    List (String × Json) → Requested (List (String × EndpointSet))
  | [] => .ok sets
  | (id, v) :: rest =>
    if environments.any (·.id == id) then do
      let set ← requestedSet v id none
      requestedSets environments (putSet sets id set) rest
    else requestedSets environments sets rest

/-- Change the endpoints that a payload gives for known environments; null removes them. -/
def updateSets (environments : List Environment) (sets : List (String × EndpointSet)) :
    List (String × Json) → Requested (List (String × EndpointSet))
  | [] => .ok sets
  | (id, v) :: rest =>
    if environments.any (·.id == id) then
      if v == .null then updateSets environments (sets.filter (·.1 != id)) rest
      else do
        let set ← requestedSet v id (sets.lookup id)
        updateSets environments (putSet sets id set) rest
    else updateSets environments sets rest

/-- The application of a draft with an identifier and the time of its creation. -/
def ofDraft (d : Draft) (endpoints : List (String × EndpointSet)) (id createdAt : String) :
    Application :=
  ⟨id, Text.trim d.name.plainText, d.slug, true, createdAt, endpoints, []⟩

end Application

namespace Registry

/-- The endpoints of a new application, if its slug is free and its name can be shown. -/
def newEndpoints (d : Application.Draft) (r : Registry) :
    Requested (List (String × EndpointSet)) :=
  if r.applications.any (·.slug == d.slug) then reject .applicationExists
  else do
    let sets ← Application.requestedSets r.environments [] d.endpoints
    if sets.isEmpty then reject .applicationEnvironmentsUnknown
    else do
      let _ ← Request.showable d.name
      .ok sets

/-- Add an application at the end. -/
def addApplication (app : Application) (r : Registry) : Registry :=
  { r with applications := r.applications ++ [app] }

/-- Set the name of an application; a value that does not count as set changes nothing. -/
def renamed (v : Json) (app : Application) : Application :=
  if v.truthy then { app with name := Text.trim v.plainText } else app

/-- Set the slug of an application; a value that does not count as set changes nothing. -/
def reslugged (r : Registry) (id : String) (v : Json) (app : Application) :
    Requested Application :=
  if !v.truthy then .ok app
  else do
    let slug ← Request.slug v
    if r.applications.any fun a => a.id != id && a.slug == slug then reject .applicationExists
    else .ok { app with slug := slug }

/-- Switch an application; only a flag does. -/
def switched (v : Json) (app : Application) : Application :=
  match v with
  | .bool b => { app with enabled := b }
  | _ => app

/-- Change the endpoints of an application; only an object does. -/
def rerouted (r : Registry) (v : Json) (app : Application) : Requested Application :=
  match v with
  | .obj fields => do
    let sets ← Application.updateSets r.environments app.endpoints fields
    .ok { app with endpoints := sets }
  | _ => .ok app

/-- Change the first application with an identifier. -/
def updateApplication (id : String) (updates : Json) (r : Registry) :
    Requested (Registry × Application) :=
  match r.application? id with
  | none => reject .applicationUnknown
  | some app => do
    let name ← Payload.field updates "name"
    let slug ← Payload.field updates "slug"
    let enabled ← Payload.field updates "enabled"
    let endpoints ← Payload.field updates "endpoints"
    let name ← Request.showable name
    let app ← r.reslugged id slug (renamed name app)
    let app ← r.rerouted endpoints (switched enabled app)
    .ok ({ r with applications := replaceFirst (·.id == id) app r.applications }, app)

/-- Delete the first application with an identifier. -/
def deleteApplication (id : String) (r : Registry) : Requested (Registry × Application) :=
  match r.application? id with
  | none => reject .applicationUnknown
  | some app => .ok ({ r with applications := r.applications.eraseP (·.id == id) }, app)

end Registry

end EdgeProxy
