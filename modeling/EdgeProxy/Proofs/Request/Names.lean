import EdgeProxy.Proofs.Change.Keeping
import EdgeProxy.Proofs.Hostname.Label
import EdgeProxy.Proofs.Request.Faults
import EdgeProxy.Registry.Target
/-!
Names that are accepted in requests follow their grammar.
-/

namespace EdgeProxy

/-- A label that no system route has. -/
structure Hostname.IsFreeLabel (s : String) : Prop where
  label : isLabelText s = true
  free : s ∉ reservedLabels

namespace Request

/-- A base domain that is asked for is one. -/
theorem isDomainText_of_baseDomain {v : Json} {domain : String}
    (h : Request.baseDomain v = .ok domain) : Hostname.isDomainText domain = true := by
  rw [baseDomain.eq_def] at h
  split at h
  · split at h
    · exact absurd h not_reject
    · dsimp only at h
      split at h
      next hformat => exact Except.ok.inj h ▸ hformat
      · exact absurd h not_reject
  · exact absurd h not_reject

theorem isDomainText_of_customDomain {v : Json} {domain : String}
    (h : Request.customDomain v = .ok domain) : Hostname.isDomainText domain = true := by
  rw [customDomain.eq_def] at h
  split at h
  · dsimp only at h
    split at h
    next hformat => exact Except.ok.inj h ▸ hformat
    · exact absurd h not_reject
  · exact absurd h not_reject

theorem isFreeLabel_of_freeLabel {format : Rejection} {reserved : String → Rejection} {v : Json}
    {label : String} (h : freeLabel format reserved v = .ok label) : Hostname.IsFreeLabel label := by
  rw [freeLabel.eq_def] at h
  split at h
  · dsimp only at h
    split at h
    · exact absurd h not_reject
    next hlabel =>
      split at h
      · exact absurd h not_reject
      next hfree =>
        rw [← Except.ok.inj h]
        exact ⟨by simpa using hlabel, by simpa using hfree⟩
  · exact absurd h not_reject

/-- The labels of an environment are labels, or none where that is allowed. -/
theorem isLabelsText_of_labels {v : Json} {field labels : String} {allowEmpty : Bool}
    (h : Request.labels v field allowEmpty = .ok labels) :
    allowEmpty = true ∧ labels = "" ∨ Hostname.isLabelsText labels = true := by
  rw [Request.labels.eq_def] at h
  split at h
  · dsimp only at h
    split at h
    · split at h
      next hallow => exact .inl ⟨hallow, (Except.ok.inj h).symm⟩
      · exact absurd h not_reject
    · split at h
      next hformat => exact .inr (Except.ok.inj h ▸ hformat)
      · exact absurd h not_reject
  · exact absurd h not_reject

/-- A slug of an API has no other characters than a label. -/
theorem isLabelChar_of_apiSlug {v : Json} {c : Char} (h : c ∈ (apiSlug v).toList) :
    Hostname.isLabelChar c = true := by
  rw [apiSlug, String.toList_ofList, List.mem_filter] at h
  exact h.2

section Sets

variable {Q : Fields → Prop}

section Apis

variable {P : Api → Prop} {subject : String}
  (hP : ∀ v a, (∀ fields, v = .obj fields → Q fields) → api v subject = .ok a → P a)

include hP

/-- What holds of every API that is asked for holds of all that a payload leads to. -/
theorem forall_apiList {items : List Json} (hitems : ∀ v ∈ items, ∀ fields, v = .obj fields → Q fields)
    {apis : List Api} (h : apiList subject items = .ok apis) : ∀ a ∈ apis, P a := by
  induction items generalizing apis with
  | nil =>
      cases h
      simp
  | cons v rest ih =>
      rw [List.forall_mem_cons] at hitems
      simp only [apiList, bind_eq_ok] at h
      obtain ⟨a, ha, more, hmore, heq⟩ := h
      cases heq
      exact List.forall_mem_cons.mpr ⟨hP v a hitems.1 ha, ih hitems.2 hmore⟩

variable (hslug : ∀ fields v, Q fields → Q (Fields.set fields "slug" v))

include hslug

theorem forall_singleApi {v : Json} (hv : v.Everywhere Q) {apis : List Api}
    (h : singleApi v subject = .ok apis) : ∀ a ∈ apis, P a := by
  rw [singleApi.eq_def] at h
  split at h
  · refine forall_apiList hP (List.forall_mem_singleton.mpr ?_) h
    rintro _ ⟨⟩
    exact hslug _ _ hv.self
  · split at h
    · refine forall_apiList hP (List.forall_mem_singleton.mpr ?_) h
      rintro fields rfl
      exact hv.self
    · cases h
      simp

/-- The APIs of a set are those that it had or are asked for. -/
theorem forall_apis {fields : Fields} (hfields : Json.Everywhere Q (.obj fields)) {present apis : List Api}
    (hpresent : ∀ a ∈ present, P a) (h : Request.apis fields subject present = .ok apis) :
    ∀ a ∈ apis, P a := by
  rw [Request.apis.eq_def] at h
  split at h
  next items _ hitems =>
    refine forall_apiList hP (fun v hv => ?_) h
    rintro fields' rfl
    exact ((hfields.get? hitems).item hv).self
  · cases h
    simp
  next hv => exact forall_singleApi hP hslug (hfields.get? hv) h
  · cases h
    exact hpresent

end Apis

/-- The frontend of a set is the one that it had or is asked for. -/
theorem forall_frontend {P : Endpoint → Prop} {subject : String}
    (hP : ∀ v e, v.Everywhere Q → endpoint v subject = .ok e → P e) {fields : Fields}
    (hfields : Json.Everywhere Q (.obj fields)) {present read : Option Endpoint}
    (hpresent : ∀ e ∈ present, P e) (h : Request.frontend fields subject present = .ok read) :
    ∀ e ∈ read, P e := by
  rw [Request.frontend] at h
  split at h
  · cases h
    exact hpresent
  next v hv =>
    split at h
    · obtain ⟨e, he, rfl⟩ := map_eq_ok.mp h
      intro e' he'
      cases he'
      exact hP v e (hfields.get? hv) he
    · cases h
      simp

variable {v : Json} {environment : String} {present : Option EndpointSet} {set : EndpointSet}

theorem forall_endpointSet {P : Api → Prop}
    (hP : ∀ subject v a, (∀ fields, v = .obj fields → Q fields) → api v subject = .ok a → P a)
    (hslug : ∀ fields v, Q fields → Q (Fields.set fields "slug" v)) (hv : v.Everywhere Q)
    (hpresent : ∀ s ∈ present, ∀ a ∈ s.apis, P a)
    (h : endpointSet v environment present = .ok set) : ∀ a ∈ set.apis, P a := by
  obtain ⟨fields, rfl, -, hapis, -⟩ := endpointSet_eq_ok.mp h
  refine forall_apis (hP _) hslug hv ?_ hapis
  cases present with
  | none => simp
  | some s => exact hpresent s rfl

theorem forall_frontend_endpointSet {P : Endpoint → Prop}
    (hP : ∀ subject v e, v.Everywhere Q → endpoint v subject = .ok e → P e) (hv : v.Everywhere Q)
    (hpresent : ∀ s ∈ present, ∀ e ∈ s.frontend, P e)
    (h : endpointSet v environment present = .ok set) : ∀ e ∈ set.frontend, P e := by
  obtain ⟨fields, rfl, hfrontend, -⟩ := endpointSet_eq_ok.mp h
  refine forall_frontend (hP _) hv ?_ hfrontend
  cases present with
  | none => simp
  | some s => exact hpresent s rfl

end Sets

end Request

end EdgeProxy
