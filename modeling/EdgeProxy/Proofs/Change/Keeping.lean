import EdgeProxy.Proofs.Change.Frame
/-!
What changes do to what the records keep beside their known fields: new entities keep nothing, changed
ones keep what they kept.
-/

namespace EdgeProxy

theorem mem_replaceFirst {α : Type} {p : α → Bool} {a b : α} {l : List α}
    (h : a ∈ replaceFirst p b l) : a = b ∨ a ∈ l := by
  induction l with
  | nil => simp [replaceFirst] at h
  | cons c rest ih =>
      rw [replaceFirst] at h
      split at h
      · rcases List.mem_cons.mp h with rfl | hrest
        · exact Or.inl rfl
        · exact Or.inr (List.mem_cons_of_mem c hrest)
      · rcases List.mem_cons.mp h with rfl | hrest
        · exact Or.inr List.mem_cons_self
        · exact (ih hrest).imp_right (List.mem_cons_of_mem c)

/-- What a payload gives under any key has a property. -/
structure Payload.Within (V : Json → Prop) (data : Json) : Prop where
  field : ∀ {key : String} {v : Json}, Payload.field data key = .ok v → V v
  given : ∀ {key : String} {v : Json}, Payload.given data key = .ok (some v) → V v

theorem Payload.within_true (data : Json) : Within (fun _ => True) data :=
  ⟨fun _ => trivial, fun _ => trivial⟩

/-- An optional step keeps what the step keeps with the value that is given. -/
theorem Payload.whenGiven_keeps {α : Type} {P : α → Prop} {data : Json} {key : String}
    {act : Json → α → Requested α}
    (hact : ∀ w a b, given data key = .ok (some w) → P a → act w a = .ok b → P b) {a b : α} (ha : P a)
    (h : whenGiven data key act a = .ok b) : P b := by
  simp only [whenGiven, bind_eq_ok] at h
  obtain ⟨value, hgiven, h⟩ := h
  cases value with
  | none =>
      cases h
      exact ha
  | some w => exact hact w a b hgiven ha h

/-- An optional step keeps what the step keeps with the values of the payload. -/
theorem Payload.Within.whenGiven {V : Json → Prop} {data : Json} (hdata : Within V data) {α : Type}
    {P : α → Prop} {key : String} {act : Json → α → Requested α}
    (hact : ∀ w a b, V w → P a → act w a = .ok b → P b) {a b : α} (ha : P a)
    (h : Payload.whenGiven data key act a = .ok b) : P b :=
  whenGiven_keeps (fun w a b hgiven => hact w a b (hdata.given hgiven)) ha h

/-- An optional step keeps what the step keeps. -/
theorem whenGiven_keeps {α : Type} {P : α → Prop} {v : Json} {key : String}
    {act : Json → α → Requested α} (hact : ∀ w a b, P a → act w a = .ok b → P b) {a b : α}
    (ha : P a) (h : Payload.whenGiven v key act a = .ok b) : P b :=
  (Payload.within_true v).whenGiven (fun w a b _ => hact w a b) ha h

/-- What a change of a host leaves as it is. -/
structure Host.Remains (h h' : Host) : Prop where
  id : h'.id = h.id
  extra : h'.extra = h.extra

namespace Host

theorem Remains.keeping {Q : Requirement} {h h' : Host} (hremains : h.Remains h')
    (hkeeping : h.Keeping Q) : h'.Keeping Q := by
  rw [Keeping, hremains.extra]
  exact hkeeping

/-- A change of a host leaves its identifier and what it keeps as they are. -/
theorem remains_update {updates : Json} {h h' : Host} (hupdate : h.update updates = .ok h') :
    h.Remains h' :=
  have hframed := framed_update hupdate
  ⟨hframed.id, hframed.extra⟩

end Host

/-- What a change of an environment leaves as it is. -/
structure Environment.Remains (e e' : Environment) : Prop where
  id : e'.id = e.id
  extra : e'.extra = e.extra

namespace Environment

/-- A change of an environment leaves its identifier and what it keeps as they are. -/
theorem remains_update {updates : Json} {e e' : Environment} (hupdate : e.update updates = .ok e') :
    e.Remains e' :=
  have hframed := framed_update hupdate
  ⟨hframed.id, hframed.extra⟩

theorem extra_requested {data : Json} {e : Environment} (h : requested data = .ok e) :
    e.extra = [] := by
  obtain ⟨_, _, _, _, _, -, -, -, -, -, -, rfl⟩ := requested_eq_ok h
  rfl

end Environment

section Keeping

variable {Q : Requirement} (hQ : ∀ names, Q names [])

namespace Request

include hQ

theorem frontend_keeping {fields : Fields} {subject : String} {present : Option Endpoint}
    (hpresent : ∀ e ∈ present, e.Keeping Q) {read : Option Endpoint}
    (h : frontend fields subject present = .ok read) : ∀ e ∈ read, e.Keeping Q := by
  rw [frontend] at h
  split at h
  · cases h
    exact hpresent
  · split at h
    · obtain ⟨e, he, rfl⟩ := map_eq_ok.mp h
      obtain ⟨-, -, -, hextra⟩ := endpoint_eq_ok.mp he
      rintro _ ⟨⟩
      rw [Endpoint.Keeping, hextra]
      exact hQ _
    · cases h
      simp

theorem api_keeping {v : Json} {subject : String} {a : Api} (h : api v subject = .ok a) :
    a.Keeping Q := by
  obtain ⟨-, -, -, -, -, hextra⟩ := api_eq_ok.mp h
  rw [Api.Keeping, hextra]
  exact hQ _

theorem apiList_keeping {subject : String} {items : List Json} {read : List Api}
    (h : apiList subject items = .ok read) : ∀ a ∈ read, a.Keeping Q := by
  induction items generalizing read with
  | nil =>
      cases h
      simp
  | cons v rest ih =>
      simp only [apiList, bind_eq_ok] at h
      obtain ⟨a, ha, more, hmore, h⟩ := h
      cases h
      exact List.forall_mem_cons.mpr ⟨api_keeping hQ ha, ih hmore⟩

theorem apis_keeping {fields : Fields} {subject : String} {present : List Api}
    (hpresent : ∀ a ∈ present, a.Keeping Q) {read : List Api}
    (h : apis fields subject present = .ok read) : ∀ a ∈ read, a.Keeping Q := by
  rw [apis] at h
  split at h
  · exact apiList_keeping hQ h
  · cases h
    simp
  · rw [singleApi.eq_def] at h
    split at h
    · exact apiList_keeping hQ h
    · split at h
      · exact apiList_keeping hQ h
      · cases h
        simp
  · cases h
    exact hpresent

theorem endpointSet_keeping {v : Json} {environment : String} {present : Option EndpointSet}
    (hpresent : ∀ s ∈ present, s.Keeping Q) {set : EndpointSet}
    (h : endpointSet v environment present = .ok set) : set.Keeping Q := by
  obtain ⟨fields, -, hfrontend, hapis, -, hextra⟩ := endpointSet_eq_ok.mp h
  refine ⟨frontend_keeping hQ ?_ hfrontend, apis_keeping hQ ?_ hapis, hextra ▸ hQ _⟩
  · intro e he
    obtain ⟨s, hs, hse⟩ := Option.bind_eq_some_iff.mp he
    exact (hpresent s hs).frontend e hse
  · cases present with
    | none => simp
    | some s => exact (hpresent s rfl).apis

end Request

namespace Application

/-- Endpoints per environment, each environment once, of which what is kept meets a requirement. -/
structure KeepingSets (Q : Requirement) (sets : List (String × EndpointSet)) : Prop where
  nodup : (sets.map Prod.fst).Nodup
  sets : ∀ p ∈ sets, p.2.Keeping Q

theorem keys_putSet {sets : List (String × EndpointSet)} {environment : String}
    {set : EndpointSet} (h : (sets.map Prod.fst).Nodup) :
    ((putSet sets environment set).map Prod.fst).Nodup ∧
      ∀ key ∈ (putSet sets environment set).map Prod.fst,
        key = environment ∨ key ∈ sets.map Prod.fst := by
  induction sets with
  | nil => simp [putSet]
  | cons p rest ih =>
      obtain ⟨k, s⟩ := p
      rw [List.map_cons, List.nodup_cons] at h
      by_cases hk : k = environment
      · simp only [putSet, hk, beq_self_eq_true, ↓reduceIte, List.map_cons, List.nodup_cons]
        exact ⟨⟨hk ▸ h.1, h.2⟩, fun key hkey => Or.inr hkey⟩
      · obtain ⟨hnodup, hmem⟩ := ih h.2
        simp only [putSet, beq_iff_eq, hk, ↓reduceIte, List.map_cons, List.nodup_cons,
          List.mem_cons]
        refine ⟨⟨?_, hnodup⟩, ?_⟩
        · intro hin
          rcases hmem k hin with heq | hrest
          · exact hk heq
          · exact h.1 hrest
        · intro key hkey
          rcases hkey with rfl | hin
          · exact Or.inr (Or.inl rfl)
          · exact (hmem key hin).imp_right Or.inr

theorem mem_putSet {sets : List (String × EndpointSet)} {environment : String}
    {set : EndpointSet} {p : String × EndpointSet} (h : p ∈ putSet sets environment set) :
    p.2 = set ∨ p ∈ sets := by
  induction sets with
  | nil =>
      rw [putSet, List.mem_singleton] at h
      exact Or.inl (h ▸ rfl)
  | cons q rest ih =>
      rw [putSet] at h
      split at h
      · rcases List.mem_cons.mp h with rfl | hrest
        · exact Or.inl rfl
        · exact Or.inr (List.mem_cons_of_mem q hrest)
      · rcases List.mem_cons.mp h with rfl | hrest
        · exact Or.inr List.mem_cons_self
        · exact (ih hrest).imp_right (List.mem_cons_of_mem q)

theorem KeepingSets.put {sets : List (String × EndpointSet)} (h : KeepingSets Q sets)
    (environment : String) {set : EndpointSet} (hset : set.Keeping Q) :
    KeepingSets Q (putSet sets environment set) := by
  refine ⟨(keys_putSet h.nodup).1, ?_⟩
  intro p hp
  rcases mem_putSet hp with heq | hmem
  · exact heq ▸ hset
  · exact h.sets p hmem

include hQ

theorem requestedSet_keeping {v : Json} {environment : String} {present : Option EndpointSet}
    (hpresent : ∀ s ∈ present, s.Keeping Q) {set : EndpointSet}
    (h : requestedSet v environment present = .ok set) : set.Keeping Q :=
  Request.endpointSet_keeping hQ hpresent (requestedSet_eq_ok.mp h).1

theorem requestedSets_keeping {environments : List Environment}
    {sets read : List (String × EndpointSet)} {given : List (String × Json)}
    (hsets : KeepingSets Q sets) (h : requestedSets environments sets given = .ok read) :
    KeepingSets Q read := by
  induction given generalizing sets with
  | nil =>
      cases h
      exact hsets
  | cons p rest ih =>
      obtain ⟨id, v⟩ := p
      rw [requestedSets] at h
      split at h
      · simp only [bind_eq_ok] at h
        obtain ⟨set, hset, h⟩ := h
        exact ih (hsets.put id (requestedSet_keeping hQ (by simp) hset)) h
      · exact ih hsets h

theorem updateSets_keeping {environments : List Environment}
    {sets read : List (String × EndpointSet)} {given : List (String × Json)}
    (hsets : KeepingSets Q sets) (h : updateSets environments sets given = .ok read) :
    KeepingSets Q read := by
  induction given generalizing sets with
  | nil =>
      cases h
      exact hsets
  | cons p rest ih =>
      obtain ⟨id, v⟩ := p
      rw [updateSets] at h
      split at h
      · split at h
        · refine ih ⟨?_, ?_⟩ h
          · exact (List.Sublist.map Prod.fst List.filter_sublist).nodup hsets.nodup
          · exact fun p hp => hsets.sets p (List.mem_of_mem_filter hp)
        · simp only [bind_eq_ok] at h
          obtain ⟨set, hset, h⟩ := h
          refine ih (hsets.put id (requestedSet_keeping hQ ?_ hset)) h
          intro s hs
          obtain ⟨before, after, heq, -⟩ := List.lookup_eq_some_iff.mp hs
          exact hsets.sets (id, s) (by simp [heq])
      · exact ih hsets h

end Application

end Keeping

end EdgeProxy
