import EdgeProxy.Proofs.Change.Keeping
import EdgeProxy.Proofs.Request.Faults
/-!
Faults that payloads lead to.  A change ends in a fault only if its payload is no object, or holds an
infinite port or an integer that is too long to be written in the place of a text.
-/

namespace EdgeProxy

/-- The faults that a payload can lead to. -/
inductive Payload.FaultOf (data : Json) : Fault → Prop where
  | noFields (h : ∀ fields, data ≠ .obj fields) : FaultOf data .noFields
  | wrongKind (h : ∀ fields, data ≠ .obj fields) : FaultOf data .wrongKind
  /-- An object somewhere in the payload has an infinite port. -/
  | overflow {fields : Fields} {negative : Bool} (hin : data.Holds (.obj fields))
      (h : fields.valueOf "targetPort" = .float (.infinite negative)) : FaultOf data .overflow
  /-- An object somewhere in the payload has an integer that is too long in the place of a text. -/
  | badValue {fields : Fields} {key : String} (hin : data.Holds (.obj fields))
      (hkey : key ∈ shownKeys) (h : (fields.valueOf key).isWritable = false) : FaultOf data .badValue

namespace Payload

variable {data : Json}

theorem accounts (data : Json) : Accounts (FaultOf data) data :=
  fun _ hin => ⟨fun _ h => .overflow hin h, fun _ hkey h => .badValue hin hkey h⟩

theorem faults_field (data : Json) (key : String) : FaultsIn (FaultOf data) (field data key) := by
  rw [field.eq_def]
  split
  · exact .ok _
  next hnone => exact .fault (.noFields hnone)

/-- A field that is read is one of an object. -/
theorem field_eq_ok {key : String} {v : Json} (h : field data key = .ok v) :
    ∃ fields : Fields, data = .obj fields ∧ v = fields.valueOf key := by
  rw [field.eq_def] at h
  split at h
  next fields =>
    cases h
    exact ⟨fields, rfl, rfl⟩
  · cases h

theorem faults_given (data : Json) (key : String) : FaultsIn (FaultOf data) (given data key) := by
  rw [given.eq_def]
  split
  · exact .ok _
  · split
    · exact .fault (.wrongKind nofun)
    · exact .ok _
  · split
    · exact .fault (.wrongKind nofun)
    · exact .ok _
  next hnone _ _ => exact .fault (.wrongKind hnone)

/-- What is given is the value of a field of an object. -/
theorem given_eq_some {key : String} {v : Json} (h : given data key = .ok (some v)) :
    ∃ fields : Fields, data = .obj fields ∧ v = fields.valueOf key := by
  rw [given.eq_def] at h
  split at h
  next fields =>
    have hget : Fields.get? fields key = some v := Except.ok.inj h
    exact ⟨fields, rfl, by rw [Fields.valueOf, hget]; rfl⟩
  · split at h <;> cases h
  · split at h <;> cases h
  · cases h

theorem faults_whenGiven {α : Type} {key : String} {act : Json → α → Requested α} {a : α}
    (hact : ∀ v, given data key = .ok (some v) → FaultsIn (FaultOf data) (act v a)) :
    FaultsIn (FaultOf data) (whenGiven data key act a) := by
  rw [whenGiven]
  refine (faults_given data key).bind fun given hgiven => ?_
  cases given with
  | none => exact .ok _
  | some v => exact hact v hgiven

theorem faults_whenSet {α : Type} {key : String} {set : Json → α → α} {a : α} :
    FaultsIn (FaultOf data) (whenGiven data key (fun v a => .ok (set v a)) a) :=
  faults_whenGiven fun _ _ => .ok _

end Payload

section Requests

open Payload

variable {data : Json}

namespace Host

theorem faults_requestedName (P : Fault → Prop) (subdomain customDomain : Option Json) :
    FaultsIn P (requestedName subdomain customDomain) := by
  rw [requestedName.eq_def]
  split
  · exact .rejected _
  · exact .rejected _
  · exact (Request.faults_freeLabel _ _ _).map _
  · exact (Request.faults_customDomain _).map _

theorem faults_requestedBackend {targetHost targetPort : Json}
    (hhost : field data "targetHost" = .ok targetHost)
    (hport : field data "targetPort" = .ok targetPort) :
    FaultsIn (FaultOf data) (requestedBackend data targetHost targetPort) := by
  obtain ⟨fields, rfl, rfl⟩ := field_eq_ok hhost
  cases hport
  have hfields := (accounts (.obj fields)).self
  rw [requestedBackend]
  refine (Request.faults_showable (hfields.shown "targetHost" (by decide))).bind fun _ _ => ?_
  refine (Request.faults_port hfields.port _).bind fun _ _ => ?_
  exact (faults_field _ _).bind fun _ _ => (faults_field _ _).bind fun _ _ => .ok _

theorem faults_draft (data : Json) : FaultsIn (FaultOf data) (draft data) := by
  rw [draft]
  refine (faults_field _ _).bind fun targetHost hhost => ?_
  split
  · exact .rejected _
  · refine (faults_field _ _).bind fun targetPort hport => ?_
    split
    · exact .rejected _
    · refine (faults_field _ _).bind fun subdomain _ => (faults_field _ _).bind fun custom _ => ?_
      refine (faults_requestedName _ _ _).bind fun name _ => ?_
      exact (faults_requestedBackend hhost hport).bind fun _ _ => .ok _

theorem faults_setTargetHost (P : Fault → Prop) (v : Json) (h : Host) :
    FaultsIn P (setTargetHost v h) := by
  rw [setTargetHost.eq_def]
  split
  · split
    · exact .rejected _
    · exact .ok _
  · exact .rejected _

theorem faults_setTargetPort {v : Json} (hv : given data "targetPort" = .ok (some v)) (h : Host) :
    FaultsIn (FaultOf data) (setTargetPort v h) := by
  obtain ⟨fields, rfl, rfl⟩ := given_eq_some hv
  exact (Request.faults_port (accounts (.obj fields)).self.port _).bind fun _ _ => .ok _

theorem faults_setSubdomain (P : Fault → Prop) (v : Json) (h : Host) :
    FaultsIn P (setSubdomain v h) := by
  rw [setSubdomain]
  split
  · exact .ok _
  · exact (Request.faults_freeLabel _ _ _).bind fun _ _ => .ok _

theorem faults_setCustomDomain (P : Fault → Prop) (v : Json) (h : Host) :
    FaultsIn P (setCustomDomain v h) := by
  rw [setCustomDomain]
  split
  · exact .ok _
  · exact (Request.faults_customDomain _).bind fun _ _ => .ok _

theorem faults_update (updates : Json) (h : Host) :
    FaultsIn (FaultOf updates) (h.update updates) := by
  rw [update]
  refine (faults_whenGiven fun _ _ => faults_setTargetHost _ _ _).bind fun _ _ => ?_
  refine (faults_whenGiven fun _ hv => faults_setTargetPort hv _).bind fun _ _ => ?_
  refine FaultsIn.bind faults_whenSet fun _ _ => ?_
  refine FaultsIn.bind faults_whenSet fun _ _ => ?_
  refine FaultsIn.bind faults_whenSet fun _ _ => ?_
  refine (faults_whenGiven fun _ _ => faults_setSubdomain _ _ _).bind fun _ _ => ?_
  exact faults_whenGiven fun _ _ => faults_setCustomDomain _ _ _

end Host

namespace Environment

theorem faults_requested (data : Json) : FaultsIn (FaultOf data) (requested data) := by
  rw [requested]
  refine (faults_field _ _).bind fun name _ => ?_
  split
  · split
    · exact .rejected _
    · refine (faults_field _ _).bind fun frontendPrefix _ => (faults_field _ _).bind fun _ _ => ?_
      split
      · exact (Request.faults_labels _ _ _).bind fun _ _ =>
          (Request.faults_labels _ _ _).bind fun _ _ => .ok _
      · exact .rejected _
  · exact .rejected _

theorem faults_update (updates : Json) (e : Environment) :
    FaultsIn (FaultOf updates) (e.update updates) := by
  rw [update]
  refine (faults_whenGiven fun v _ => ?_).bind fun _ _ => ?_
  · rw [setName.eq_def]
    split
    · split
      · exact .rejected _
      · exact .ok _
    · exact .rejected _
  · refine (faults_whenGiven fun v _ => ?_).bind fun _ _ => faults_whenGiven fun v _ => ?_
    · exact (Request.faults_labels _ _ _).bind fun _ _ => .ok _
    · exact (Request.faults_labels _ _ _).bind fun _ _ => .ok _

end Environment

namespace Application

variable {P : Fault → Prop}

theorem faults_requestedSet {v : Json} (h : Accounts P v) (environment : String)
    (present : Option EndpointSet) : FaultsIn P (requestedSet v environment present) := by
  rw [requestedSet]
  refine (Request.faults_endpointSet h _ _).bind fun set _ => ?_
  split
  · exact .ok _
  · exact .rejected _

theorem faults_requestedSets (environments : List Environment) {sets : List (String × EndpointSet)}
    {given : List (String × Json)} (h : ∀ p ∈ given, Accounts P p.2) :
    FaultsIn P (requestedSets environments sets given) := by
  induction given generalizing sets with
  | nil => exact .ok _
  | cons p rest ih =>
      obtain ⟨id, v⟩ := p
      rw [List.forall_mem_cons] at h
      rw [requestedSets]
      split
      · exact (faults_requestedSet h.1 _ _).bind fun set _ => ih h.2
      · exact ih h.2

theorem faults_updateSets (environments : List Environment) {sets : List (String × EndpointSet)}
    {given : List (String × Json)} (h : ∀ p ∈ given, Accounts P p.2) :
    FaultsIn P (updateSets environments sets given) := by
  induction given generalizing sets with
  | nil => exact .ok _
  | cons p rest ih =>
      obtain ⟨id, v⟩ := p
      rw [List.forall_mem_cons] at h
      rw [updateSets]
      split
      · split
        · exact ih h.2
        · exact (faults_requestedSet h.1 _ _).bind fun set _ => ih h.2
      · exact ih h.2

theorem faults_draft (data : Json) : FaultsIn (FaultOf data) (draft data) := by
  rw [draft]
  refine (faults_field _ _).bind fun name _ => (faults_field _ _).bind fun slug _ => ?_
  refine (faults_field _ _).bind fun endpoints _ => ?_
  split
  · exact .rejected _
  · refine (Request.faults_freeLabel _ _ _).bind fun slug _ => ?_
    split
    · exact .ok _
    · exact .rejected _

end Application

theorem Settings.faults_providerSwitch (settings : Settings) (data : Json) :
    FaultsIn (FaultOf data) (settings.providerSwitch data) := by
  rw [Settings.providerSwitch]
  refine (faults_given _ _).bind fun given _ => ?_
  split
  · split
    · exact .rejected _
    · exact .ok _
  · exact .rejected _

namespace Registry

theorem faults_updateHost (r : Registry) (id : String) (updates : Json) :
    FaultsIn (FaultOf updates) (r.updateHost id updates) := by
  rw [updateHost]
  split
  · exact .rejected _
  · exact (Host.faults_update _ _).bind fun _ _ => .ok _

theorem faults_deleteHost (P : Fault → Prop) (r : Registry) (id : String) :
    FaultsIn P (r.deleteHost id) := by
  rw [deleteHost]
  split
  · exact .rejected _
  · exact .ok _

theorem faults_addEnvironment (P : Fault → Prop) (r : Registry) (e : Environment) :
    FaultsIn P (r.addEnvironment e) := by
  rw [addEnvironment]
  split
  · exact .rejected _
  · exact .ok _

theorem faults_updateEnvironment (r : Registry) (id : String) (updates : Json) :
    FaultsIn (FaultOf updates) (r.updateEnvironment id updates) := by
  rw [updateEnvironment]
  split
  · exact .rejected _
  · refine (Environment.faults_update _ _).bind fun e _ => (faults_given _ _).bind fun given _ => ?_
    split
    · exact .ok _
    · exact .ok _

theorem faults_deleteEnvironment (P : Fault → Prop) (r : Registry) (id : String) :
    FaultsIn P (r.deleteEnvironment id) := by
  rw [deleteEnvironment]
  split
  · exact .rejected _
  · split
    · exact .ok _
    · exact .rejected _

theorem faults_newEndpoints (r : Registry) {d : Application.Draft}
    (hdraft : Application.draft data = .ok d) : FaultsIn (FaultOf data) (r.newEndpoints d) := by
  obtain ⟨_, hgiven, -, -, hendpoints⟩ := Application.draft_eq_ok hdraft
  obtain ⟨fields, rfl, hname⟩ := field_eq_ok hgiven
  have haccounts := accounts (.obj fields)
  have hsets : ∀ p ∈ d.endpoints, Accounts (FaultOf (.obj fields)) p.2 := by
    intro p hp
    exact (Except.ok.inj hendpoints ▸ haccounts.valueOf "endpoints").field hp
  rw [newEndpoints]
  split
  · exact .rejected _
  · refine (Application.faults_requestedSets _ hsets).bind fun sets _ => ?_
    split
    · exact .rejected _
    · rw [hname]
      have hshown := haccounts.self.shown "name" (by decide)
      exact (Request.faults_showable hshown).bind fun _ _ => .ok _

theorem faults_reslugged (P : Fault → Prop) (r : Registry) (id : String) (v : Json)
    (a : Application) : FaultsIn P (r.reslugged id v a) := by
  rw [reslugged]
  split
  · exact .ok _
  · refine (Request.faults_freeLabel _ _ _).bind fun slug _ => ?_
    split
    · exact .rejected _
    · exact .ok _

theorem faults_rerouted {P : Fault → Prop} (r : Registry) {v : Json} (h : Accounts P v)
    (a : Application) : FaultsIn P (r.rerouted v a) := by
  rw [rerouted.eq_def]
  split
  · exact (Application.faults_updateSets _ fun p hp => h.field hp).bind fun _ _ => .ok _
  · exact .ok _

theorem faults_updateApplication (r : Registry) (id : String) (updates : Json) :
    FaultsIn (FaultOf updates) (r.updateApplication id updates) := by
  rw [updateApplication]
  split
  · exact .rejected _
  · refine (faults_field _ _).bind fun name hname => (faults_field _ _).bind fun slug _ => ?_
    refine (faults_field _ _).bind fun enabled _ => (faults_field _ _).bind fun v hv => ?_
    obtain ⟨fields, rfl, rfl⟩ := field_eq_ok hname
    cases hv
    have haccounts := accounts (.obj fields)
    have hshown := haccounts.self.shown "name" (by decide)
    refine (Request.faults_showable hshown).bind fun _ _ => ?_
    refine (faults_reslugged _ _ _ _ _).bind fun _ _ => ?_
    exact (faults_rerouted _ (haccounts.valueOf "endpoints") _).bind fun _ _ => .ok _

theorem faults_deleteApplication (P : Fault → Prop) (r : Registry) (id : String) :
    FaultsIn P (r.deleteApplication id) := by
  rw [deleteApplication]
  split
  · exact .rejected _
  · exact .ok _

theorem faults_switchProvider (P : Fault → Prop) (r : Registry) (enabled : Bool) :
    FaultsIn P (r.switchProvider enabled) := by
  rw [switchProvider]
  split
  · exact .rejected _
  · exact .ok _

end Registry

end Requests

end EdgeProxy
