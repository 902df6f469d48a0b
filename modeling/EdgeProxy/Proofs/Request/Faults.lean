import EdgeProxy.Proofs.Json.Fields
import EdgeProxy.Request.Field
/-!
Faults in the fields of requests.  A field can hold what no rule provides for: a port that is infinite,
or an integer that is too long to be written in the place of a text.  Every step of reading a field has an
account of the faults that it can end in, and the account of the whole is put together from those of the
steps.
-/

namespace EdgeProxy

/-- A result that is no fault but one that is accounted for. -/
def FaultsIn {α : Type} (P : Fault → Prop) (x : Requested α) : Prop :=
  ∀ fault, x = .error (.fault fault) → P fault

namespace FaultsIn

variable {α β : Type} {P : Fault → Prop}

theorem ok (a : α) : FaultsIn P (.ok a) := nofun

theorem rejected (why : Rejection) : FaultsIn P (reject why : Requested α) := nofun

theorem fault {f : Fault} (h : P f) : FaultsIn P (.error (.fault f) : Requested α) := by
  intro g hg
  cases hg
  exact h

/-- The account of two steps in a row. -/
theorem bind {x : Requested α} {f : α → Requested β} (hx : FaultsIn P x)
    (hf : ∀ a, x = .ok a → FaultsIn P (f a)) : FaultsIn P (x >>= f) := by
  intro fault h
  cases x with
  | error failure =>
      cases h
      exact hx fault rfl
  | ok a => exact hf a rfl fault h

theorem map {x : Requested α} (hx : FaultsIn P x) (f : α → β) : FaultsIn P (x.map f) := by
  intro fault h
  cases x with
  | error failure =>
      cases h
      exact hx fault rfl
  | ok a => cases h

end FaultsIn

/-- A value that stands somewhere in a value. -/
inductive Json.Holds : Json → Json → Prop where
  | self (v : Json) : Holds v v
  | field {fields : Fields} {key : String} {v w : Json} (hmem : (key, v) ∈ fields) (h : Holds v w) :
      Holds (.obj fields) w
  | item {items : List Json} {v w : Json} (hmem : v ∈ items) (h : Holds v w) : Holds (.arr items) w

/-- Every object in a value has fields with a property. -/
def Json.Everywhere (Q : Fields → Prop) (v : Json) : Prop := ∀ fields, v.Holds (.obj fields) → Q fields

namespace Json.Everywhere

variable {Q : Fields → Prop}

theorem self {fields : Fields} (h : Everywhere Q (.obj fields)) : Q fields := h fields (.self _)

theorem field {fields : Fields} (h : Everywhere Q (.obj fields)) {p : String × Json} (hp : p ∈ fields) :
    Everywhere Q p.2 :=
  fun fields' h' => h fields' (.field hp h')

theorem item {items : List Json} (h : Everywhere Q (.arr items)) {v : Json} (hv : v ∈ items) :
    Everywhere Q v :=
  fun fields h' => h fields (.item hv h')

theorem null : Everywhere Q .null := by
  intro fields h
  cases h

theorem get? {fields : Fields} (h : Everywhere Q (.obj fields)) {key : String} {v : Json}
    (hv : fields.get? key = some v) : Everywhere Q v :=
  h.field (Fields.mem_of_get? hv)

theorem valueOf {fields : Fields} (h : Everywhere Q (.obj fields)) (key : String) :
    Everywhere Q (fields.valueOf key) := by
  rw [Fields.valueOf]
  cases hv : fields.get? key with
  | none => exact .null
  | some v => exact h.get? hv

end Json.Everywhere

/-- The fields whose values are shown as texts, whatever they are. -/
def Payload.shownKeys : List String := ["targetHost", "name", "slug"]

/-- An account of the faults that the fields of an object can lead to. -/
structure FieldFaults (P : Fault → Prop) (fields : Fields) : Prop where
  port : ∀ negative, fields.valueOf "targetPort" = .float (.infinite negative) → P .overflow
  shown : ∀ key ∈ Payload.shownKeys, (fields.valueOf key).isWritable = false → P .badValue

/-- An account of the faults that the objects in a value can lead to. -/
def Accounts (P : Fault → Prop) (v : Json) : Prop :=
  ∀ fields, v.Holds (.obj fields) → FieldFaults P fields

namespace Accounts

variable {P : Fault → Prop}

theorem everywhere {v : Json} (h : Accounts P v) : v.Everywhere (FieldFaults P) := h

theorem self {fields : Fields} (h : Accounts P (.obj fields)) : FieldFaults P fields :=
  h.everywhere.self

theorem field {fields : Fields} (h : Accounts P (.obj fields)) {p : String × Json} (hp : p ∈ fields) :
    Accounts P p.2 :=
  h.everywhere.field hp

theorem item {items : List Json} (h : Accounts P (.arr items)) {v : Json} (hv : v ∈ items) :
    Accounts P v :=
  h.everywhere.item hv

theorem get? {fields : Fields} (h : Accounts P (.obj fields)) {key : String} {v : Json}
    (hv : fields.get? key = some v) : Accounts P v :=
  h.everywhere.get? hv

theorem valueOf {fields : Fields} (h : Accounts P (.obj fields)) (key : String) :
    Accounts P (fields.valueOf key) :=
  h.everywhere.valueOf key

end Accounts

namespace Request

variable {P : Fault → Prop}

theorem faults_baseDomain (v : Json) : FaultsIn P (baseDomain v) := by
  rw [baseDomain.eq_def]
  split
  · split
    · exact .rejected _
    · dsimp only
      split
      · exact .ok _
      · exact .rejected _
  · exact .rejected _

theorem faults_freeLabel (format : Rejection) (reserved : String → Rejection) (v : Json) :
    FaultsIn P (freeLabel format reserved v) := by
  rw [freeLabel.eq_def]
  split
  · dsimp only
    split
    · exact .rejected _
    · split
      · exact .rejected _
      · exact .ok _
  · exact .rejected _

theorem faults_customDomain (v : Json) : FaultsIn P (customDomain v) := by
  rw [customDomain.eq_def]
  split
  · dsimp only
    split
    · exact .ok _
    · exact .rejected _
  · exact .rejected _

theorem faults_labels (v : Json) (field : String) (allowEmpty : Bool) :
    FaultsIn P (labels v field allowEmpty) := by
  rw [labels.eq_def]
  split
  · dsimp only
    split
    · split
      · exact .ok _
      · exact .rejected _
    · split
      · exact .ok _
      · exact .rejected _
  · exact .rejected _

theorem faults_showable {v : Json} (h : v.isWritable = false → P .badValue) :
    FaultsIn P (showable v) := by
  rw [showable]
  split
  · exact .ok _
  next hwritable => exact .fault (h (by simpa using hwritable))

theorem faults_portOfInteger (n : Int) (subject : String) : FaultsIn P (portOfInteger n subject) := by
  rw [portOfInteger]
  split
  · exact .ok _
  · exact .rejected _

/-- A port is a fault only if it is infinite. -/
theorem faults_port {v : Json} (h : ∀ negative, v = .float (.infinite negative) → P .overflow)
    (subject : String) : FaultsIn P (port v subject) := by
  rw [port.eq_def]
  split
  · exact faults_portOfInteger _ _
  · split
    · exact .fault (h _ rfl)
    · exact faults_portOfInteger _ _
    · exact .rejected _
  · split
    · exact faults_portOfInteger _ _
    · exact .rejected _
  · exact .rejected _

theorem portOfInteger_cases (n : Int) (subject : String) :
    (∃ p, portOfInteger n subject = .ok p) ∨
      portOfInteger n subject = .error (.rejected (.port subject)) := by
  rw [portOfInteger]
  split
  next p _ => exact .inl ⟨p, rfl⟩
  · exact .inr rfl

/-- A port is read or turned down, or it is infinite. -/
theorem port_cases (v : Json) (subject : String) :
    ((∃ p, port v subject = .ok p) ∨ port v subject = .error (.rejected (.port subject))) ∨
      ∃ negative, v = .float (.infinite negative) ∧ port v subject = .error (.fault .overflow) := by
  rw [port.eq_def]
  split
  · exact .inl (portOfInteger_cases _ subject)
  next x =>
    split
    next negative => exact .inr ⟨negative, rfl, rfl⟩
    · exact .inl (portOfInteger_cases _ subject)
    · exact .inl (.inr rfl)
  · split
    · exact .inl (portOfInteger_cases _ subject)
    · exact .inl (.inr rfl)
  · exact .inl (.inr rfl)

/-- A port is a number from 1 to 65535, unless it is turned down; only an infinite number is neither. -/
structure ReadsPort (v : Json) (subject : String) : Prop where
  fault : port v subject = .error (.fault .overflow) ↔ ∃ negative, v = .float (.infinite negative)
  read : (∀ negative, v ≠ .float (.infinite negative)) →
    (∃ p, port v subject = .ok p ∧ 1 ≤ p.number ∧ p.number ≤ 65535) ∨
      port v subject = .error (.rejected (.port subject))

theorem readsPort (v : Json) (subject : String) : ReadsPort v subject := by
  rcases port_cases v subject with (⟨p, hp⟩ | hrejected) | ⟨negative, rfl, hfault⟩
  · refine ⟨⟨fun h => ?_, ?_⟩, fun _ => .inl ⟨p, hp, p.positive, p.bounded⟩⟩
    · cases hp.symm.trans h
    · rintro ⟨negative, rfl⟩
      cases hp
  · refine ⟨⟨fun h => ?_, ?_⟩, fun _ => .inr hrejected⟩
    · cases hrejected.symm.trans h
    · rintro ⟨negative, rfl⟩
      cases hrejected
  · exact ⟨⟨fun _ => ⟨negative, rfl⟩, fun _ => hfault⟩, fun h => absurd rfl (h negative)⟩

theorem faults_targetHost (fields : Fields) (subject : String) :
    FaultsIn P (targetHost fields subject) := by
  rw [targetHost]
  split
  · split
    · exact .rejected _
    · exact .ok _
  · exact .rejected _

theorem faults_backend {fields : Fields} (h : FieldFaults P fields) (subject portSubject : String) :
    FaultsIn P (backend fields subject portSubject) := by
  rw [backend]
  refine (faults_targetHost _ _).bind fun host _ => ?_
  refine (faults_port (h.port) _).bind fun p _ => ?_
  exact .ok _

theorem faults_endpoint {v : Json} (h : Accounts P v) (subject : String) :
    FaultsIn P (endpoint v subject) := by
  rw [endpoint.eq_def]
  split
  · exact (faults_backend h.self _ _).bind fun b _ => .ok _
  · exact .rejected _

theorem faults_api {v : Json} (h : ∀ fields, v = .obj fields → FieldFaults P fields)
    (subject : String) : FaultsIn P (api v subject) := by
  rw [api.eq_def]
  split
  next fields =>
    have hfields := h fields rfl
    have hslug : FaultsIn P (showable (Fields.valueOf fields "slug")) :=
      faults_showable (hfields.shown "slug" (by decide))
    exact hslug.bind fun slug _ => (faults_backend hfields _ _).bind fun b _ => .ok _
  · exact .rejected _

theorem faults_frontend {fields : Fields} (h : Accounts P (.obj fields)) (subject : String)
    (present : Option Endpoint) : FaultsIn P (frontend fields subject present) := by
  rw [frontend]
  split
  · exact .ok _
  next v hv =>
    split
    · exact (faults_endpoint (h.get? hv) _).map _
    · exact .ok _

theorem faults_apiList {items : List Json}
    (h : ∀ v ∈ items, ∀ fields, v = .obj fields → FieldFaults P fields) (subject : String) :
    FaultsIn P (apiList subject items) := by
  induction items with
  | nil => exact .ok _
  | cons v rest ih =>
      rw [List.forall_mem_cons] at h
      exact (faults_api h.1 subject).bind fun a _ => (ih h.2).bind fun more _ => .ok _

/-- The single API is read with an empty slug in the place of its own. -/
theorem faults_singleApi {v : Json} (h : Accounts P v) (subject : String) :
    FaultsIn P (singleApi v subject) := by
  rw [singleApi.eq_def]
  split
  next fields =>
    refine faults_apiList (List.forall_mem_singleton.mpr ?_) subject
    rintro _ ⟨⟩
    refine ⟨fun negative hport => ?_, fun key hkey hshown => ?_⟩
    · rw [Fields.valueOf, Fields.get?_set_of_ne (by decide)] at hport
      exact h.self.port negative hport
    · -- The slug of its own is not read, and the empty one can be shown.
      by_cases hslug : key = "slug"
      · rw [Fields.valueOf, hslug, Fields.get?_set_self] at hshown
        cases hshown
      · rw [Fields.valueOf, Fields.get?_set_of_ne hslug] at hshown
        exact h.self.shown key hkey hshown
  · split
    · refine faults_apiList (List.forall_mem_singleton.mpr ?_) subject
      rintro fields rfl
      exact h.self
    · exact .ok _

theorem faults_apis {fields : Fields} (h : Accounts P (.obj fields)) (subject : String)
    (present : List Api) : FaultsIn P (apis fields subject present) := by
  rw [apis.eq_def]
  split
  next items _ hitems =>
    refine faults_apiList (fun v hv => ?_) subject
    rintro fields' rfl
    exact ((h.get? hitems).item hv).self
  · exact .ok _
  next hv => exact faults_singleApi (h.get? hv) subject
  · exact .ok _

theorem faults_endpointSet {v : Json} (h : Accounts P v) (environment : String)
    (present : Option EndpointSet) : FaultsIn P (endpointSet v environment present) := by
  rw [endpointSet.eq_def]
  split
  · refine (faults_frontend h _ _).bind fun frontend _ => ?_
    refine (faults_apis h _ _).bind fun apis _ => ?_
    split
    · exact .ok _
    · exact .rejected _
  · exact .rejected _

end Request

end EdgeProxy
