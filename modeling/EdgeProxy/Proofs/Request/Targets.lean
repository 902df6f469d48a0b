import EdgeProxy.Proofs.Change.Faults
import EdgeProxy.Proofs.Operation.Entities
import EdgeProxy.Proofs.Request.Reread
/-!
The target hosts that requests lead to.  Wherever an object names a target host, what is stored is what it
gives there, trimmed; a value that is no text is shown as one, which is never blank.  So a target host that is
stored is empty only if a text is given that is blank, but not empty.
-/

namespace EdgeProxy

/-- A text that is not empty, but has blank characters only. -/
def Text.IsBlankText (s : String) : Prop := s ≠ "" ∧ ∀ c ∈ s.toList, isBlank c = true

namespace Text

theorem isBlank_digitChar {d : Nat} (h : d < 10) : isBlank (digitChar d) = false := by
  have hall : ∀ d < 10, isBlank (digitChar d) = false := by decide
  exact hall d h

theorem exists_clear_decimal (n : Nat) : ∃ c ∈ (decimal n).toList, isBlank c = false := by
  obtain ⟨d, rest, heq⟩ := List.exists_cons_of_ne_nil (digits_ne_nil n)
  have hd : d < 10 := digits_lt_ten n d (by simp [heq])
  exact ⟨digitChar d, by simp [decimal, heq], isBlank_digitChar hd⟩

end Text

namespace Binary64

/-- A number is written out with a point, or with an exponent. -/
theorem exists_clear_place (layout : Layout) (d : Decimal) :
    ∃ c ∈ (layout.place d).toList, Text.isBlank c = false := by
  have hmark : '.' ∈ (layout.place d).toList ∨ 'e' ∈ (layout.place d).toList := by
    rw [Layout.place]
    dsimp only
    split
    · left
      split
      · simp
      · split <;> simp
    · right
      simp
  rcases hmark with hpoint | hletter
  · exact ⟨'.', hpoint, by decide⟩
  · exact ⟨'e', hletter, by decide⟩

theorem exists_clear_text (x : Binary64) : ∃ c ∈ x.text.toList, Text.isBlank c = false := by
  rw [text, Layout.text.eq_def]
  cases x with
  | nan => exact ⟨'n', by decide, by decide⟩
  | infinite negative => exact ⟨'i', by cases negative <;> decide, by decide⟩
  | finite negative m e h =>
      have hmagnitude : ∃ c ∈ (if m == 0 then "0.0" else
          plainLayout.place (shortest (.finite negative m e h))).toList, Text.isBlank c = false := by
        split
        · exact ⟨'.', by decide, by decide⟩
        · exact exists_clear_place _ _
      obtain ⟨c, hc, hclear⟩ := hmagnitude
      refine ⟨c, ?_, hclear⟩
      rw [String.toList_append]
      exact List.mem_append_right _ hc

end Binary64

namespace Json

/-- A value that is shown inside a message is not blank. -/
theorem exists_clear_literal (v : Json) : ∃ c ∈ v.literal.toList, Text.isBlank c = false := by
  cases v with
  | null => exact ⟨'N', by decide, by decide⟩
  | bool b => cases b <;> exact ⟨'e', by decide, by decide⟩
  | int n =>
      obtain ⟨c, hc, hclear⟩ := Text.exists_clear_decimal n.natAbs
      refine ⟨c, ?_, hclear⟩
      rw [literal, Text.decimalInt]
      split
      · simp [hc]
      · exact hc
  | float x => exact x.exists_clear_text
  | str s =>
      refine ⟨Text.quoteMark s.toList, by simp [literal, Text.quoted], ?_⟩
      rw [Text.quoteMark]
      split <;> decide
  | arr items => exact ⟨'[', by simp [literal], by decide⟩
  | obj fields => exact ⟨'\x7b', by simp [literal], by decide⟩

/-- Of the values that count as set, only a blank text is shown as one. -/
theorem trim_plainText_ne_empty {v : Json} (hset : v.truthy = true)
    (hclear : ∀ s, v = .str s → ¬ Text.IsBlankText s) : Text.trim v.plainText ≠ "" := by
  rw [Ne, Text.trim_eq_empty_iff]
  intro hall
  have hliteral : v.plainText ≠ v.literal := by
    intro heq
    obtain ⟨c, hc, hshown⟩ := v.exists_clear_literal
    rw [hall c (heq ▸ hc)] at hshown
    cases hshown
  cases v with
  | str s => exact hclear s rfl ⟨by simpa [truthy] using hset, hall⟩
  | _ => exact hliteral rfl

end Json

/-- What an object gives as its target host has a property once it is trimmed. -/
def Fields.Aims (P : String → Prop) (fields : Fields) : Prop :=
  (fields.valueOf "targetHost").truthy = true → P (Text.trim (fields.valueOf "targetHost").plainText)

/-- The target hosts of a set have a property. -/
structure EndpointSet.Targets (P : String → Prop) (s : EndpointSet) : Prop where
  frontend : ∀ e ∈ s.frontend, P e.targetHost
  apis : ∀ a ∈ s.apis, P a.targetHost

section Targets

variable {P : String → Prop}

theorem Fields.Aims.set {fields : Fields} (h : fields.Aims P) (v : Json) :
    Fields.Aims P (Fields.set fields "slug" v) := by
  rw [Aims, valueOf, get?_set_of_ne (by decide)]
  exact h

namespace Request

/-- What is read as a target host is what the object gives. -/
theorem aims_targetHost {fields : Fields} (hfields : fields.Aims P) {subject host : String}
    (h : targetHost fields subject = .ok host) : P host := by
  obtain ⟨s, hget, hne, rfl⟩ := targetHost_eq_ok.mp h
  rw [Fields.Aims, Fields.valueOf, hget] at hfields
  exact hfields (by simpa [Json.truthy] using hne)

theorem aims_backend {fields : Fields} (hfields : fields.Aims P) {subject portSubject : String}
    {b : Backend} (h : backend fields subject portSubject = .ok b) : P b.targetHost :=
  aims_targetHost hfields (backend_eq_ok.mp h).1

theorem aims_endpoint {v : Json} (hv : v.Everywhere (Fields.Aims P)) {subject : String} {e : Endpoint}
    (h : endpoint v subject = .ok e) : P e.targetHost := by
  obtain ⟨fields, rfl, hb, -⟩ := endpoint_eq_ok.mp h
  exact aims_backend hv.self hb

theorem aims_api {v : Json} (hv : ∀ fields, v = .obj fields → Fields.Aims P fields) {subject : String}
    {a : Api} (h : api v subject = .ok a) : P a.targetHost := by
  obtain ⟨fields, rfl, -, hb, -⟩ := api_eq_ok.mp h
  exact aims_backend (hv _ rfl) hb

/-- The target hosts of a set are those that it had, or that the payload gives. -/
theorem targets_endpointSet {v : Json} (hv : v.Everywhere (Fields.Aims P)) {environment : String}
    {present : Option EndpointSet} {set : EndpointSet} (hpresent : ∀ s ∈ present, s.Targets P)
    (h : endpointSet v environment present = .ok set) : set.Targets P where
  frontend := forall_frontend_endpointSet (fun _ _ _ hin => aims_endpoint hin) hv
    (fun s hs => (hpresent s hs).frontend) h
  apis := forall_endpointSet (fun _ _ _ hfields => aims_api hfields) (fun _ v hfields => hfields.set v) hv
    (fun s hs => (hpresent s hs).apis) h

end Request

theorem Application.targets_requestedSet {v : Json} {id : String} {present : Option EndpointSet}
    {set : EndpointSet} (hv : v.Everywhere (Fields.Aims P)) (hpresent : ∀ s ∈ present, s.Targets P)
    (h : requestedSet v id present = .ok set) : set.Targets P :=
  Request.targets_endpointSet hv hpresent (requestedSet_eq_ok.mp h).1

namespace Host

theorem aims_draft {data : Json} (hdata : data.Everywhere (Fields.Aims P)) {d : Draft}
    (h : draft data = .ok d) : P d.backend.targetHost := by
  obtain ⟨_, _, _, _, hgiven, hset, -, -, -, -, -, hb⟩ := draft_eq_ok h
  obtain ⟨fields, rfl, rfl⟩ := Payload.field_eq_ok hgiven
  rw [targetHost_requestedBackend hb]
  exact hdata.self hset

theorem aims_setTargetHost {updates v : Json} (hupdates : updates.Everywhere (Fields.Aims P))
    (hgiven : Payload.given updates "targetHost" = .ok (some v)) {h h' : Host}
    (hset : h.setTargetHost v = .ok h') : P h'.targetHost := by
  obtain ⟨fields, rfl, rfl⟩ := Payload.given_eq_some hgiven
  have haims := hupdates.self
  rw [Fields.Aims] at haims
  rw [setTargetHost.eq_def] at hset
  split at hset
  next s hs =>
    split at hset
    · exact absurd hset not_reject
    next hne =>
      obtain rfl := Except.ok.inj hset
      rw [hs] at haims
      exact haims (by simpa [Json.truthy] using hne)
  · exact absurd hset not_reject

/-- The target host of a changed host is the one that it had, or that the payload gives. -/
theorem aims_update {updates : Json} (hupdates : updates.Everywhere (Fields.Aims P)) {h h' : Host}
    (hbefore : P h.targetHost) (hupdate : h.update updates = .ok h') : P h'.targetHost := by
  refine update_keeps (P := fun a => P a.targetHost) (Payload.within_true updates) ?_ ?_ ?_ ?_ ?_
    hbefore hupdate
  · exact fun v a b hgiven _ hset => aims_setTargetHost hupdates hgiven hset
  · intro v a b ha hset
    obtain ⟨p, rfl⟩ := setTargetPort_eq_ok hset
    exact ha
  · exact fun a _ _ _ ha => ha
  · intro v a b _ ha hset
    rcases setSubdomain_eq_ok hset with rfl | ⟨s, -, rfl⟩
    · exact ha
    · exact ha
  · intro v a b _ ha hset
    rcases setCustomDomain_eq_ok hset with rfl | ⟨s, -, rfl⟩
    · exact ha
    · exact ha

end Host

end Targets

end EdgeProxy
