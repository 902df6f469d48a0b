import EdgeProxy.Change.Edit
import EdgeProxy.Json.Writer
import EdgeProxy.Registry.Supply
import EdgeProxy.Request.Field
import EdgeProxy.Request.Payload
/-!
Changes of hosts.
-/

namespace EdgeProxy

/-- A payload's value, or nothing if it does not count as set. -/
def presentOnly (v : Json) : Option Json := if v.truthy then some v else none

namespace Host

/-- The name that a payload asks for: a subdomain or a custom domain, not both. -/
def requestedName (subdomain customDomain : Option Json) :
    Requested (Option String × Option String) :=
  match subdomain, customDomain with
  | some _, some _ => reject .twoHostNames
  | none, none => reject .noHostName
  | some v, none => (Request.subdomain v).map fun s => (some s, none)
  | none, some v => (Request.customDomain v).map fun s => (none, some s)

def requestedBackend (data targetHost targetPort : Json) : Requested Backend := do
  let targetHost ← Request.showable targetHost
  let port ← Request.port targetPort "port"
  let localOnly ← Payload.field data "localOnly"
  let requireAuth ← Payload.field data "requireAuth"
  .ok ⟨Text.trim targetHost.plainText, port, localOnly.truthy, requireAuth.truthy⟩

/-- A host as it is asked for, before it has an identifier. -/
structure Draft where
  backend : Backend
  subdomain : Option String
  customDomain : Option String

def draft (data : Json) : Requested Draft := do
  let targetHost ← Payload.field data "targetHost"
  if !targetHost.truthy then reject .hostTargetMissing
  else
    let targetPort ← Payload.field data "targetPort"
    if !targetPort.truthy then reject .hostTargetMissing
    else
      let subdomain ← Payload.field data "subdomain"
      let customDomain ← Payload.field data "customDomain"
      let (subdomain, customDomain) ←
        requestedName (presentOnly subdomain) (presentOnly customDomain)
      let backend ← requestedBackend data targetHost targetPort
      .ok ⟨backend, subdomain, customDomain⟩

/-- The host of a draft, with an identifier and the time of its creation. -/
def ofDraft (d : Draft) (id createdAt : String) : Host :=
  ⟨d.backend, id, d.subdomain, d.customDomain, true, createdAt, []⟩

def setTargetHost (v : Json) (h : Host) : Requested Host :=
  match v with
  | .str s =>
    if s.isEmpty then reject .hostTargetHostMissing else .ok { h with targetHost := Text.trim s }
  | _ => reject .hostTargetHostMissing

def setTargetPort (v : Json) (h : Host) : Requested Host := do
  let p ← Request.port v "port"
  .ok { h with targetPort := p }

/-- Name the host by a subdomain; a value that does not count as set changes nothing. -/
def setSubdomain (v : Json) (h : Host) : Requested Host :=
  if !v.truthy then .ok h
  else do
    let s ← Request.subdomain v
    .ok { h with subdomain := some s, customDomain := none }

/-- Name the host by its own domain; a value that does not count as set changes nothing. -/
def setCustomDomain (v : Json) (h : Host) : Requested Host :=
  if !v.truthy then .ok h
  else do
    let s ← Request.customDomain v
    .ok { h with customDomain := some s, subdomain := none }

/-- Change the fields of a host that a payload gives. -/
def update (updates : Json) (h : Host) : Requested Host := do
  let h ← Payload.whenGiven updates "targetHost" setTargetHost h
  let h ← Payload.whenGiven updates "targetPort" setTargetPort h
  let h ← Payload.whenGiven updates "enabled" (fun v h => .ok { h with enabled := v.truthy }) h
  let h ← Payload.whenGiven updates "localOnly" (fun v h => .ok { h with localOnly := v.truthy }) h
  let h ← Payload.whenGiven updates "requireAuth"
    (fun v h => .ok { h with requireAuth := v.truthy }) h
  let h ← Payload.whenGiven updates "subdomain" setSubdomain h
  Payload.whenGiven updates "customDomain" setCustomDomain h

end Host

namespace Registry

/-- Add a host at the end. -/
def addHost (h : Host) (r : Registry) : Registry := { r with hosts := r.hosts ++ [h] }

/-- Change the first host with an identifier. -/
def updateHost (id : String) (updates : Json) (r : Registry) : Requested (Registry × Host) :=
  match r.host? id with
  | none => reject .hostUnknown
  | some h => do
    let h ← h.update updates
    .ok ({ r with hosts := replaceFirst (·.id == id) h r.hosts }, h)

/-- Delete the first host with an identifier. -/
def deleteHost (id : String) (r : Registry) : Requested (Registry × Host) :=
  match r.host? id with
  | none => reject .hostUnknown
  | some h => .ok ({ r with hosts := r.hosts.eraseP (·.id == id) }, h)

end Registry

end EdgeProxy
