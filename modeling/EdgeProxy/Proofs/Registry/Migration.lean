import EdgeProxy.Proofs.Json.Distinct
import EdgeProxy.Proofs.Result
import EdgeProxy.Registry.Migration
/-!
What bringing a document to the current layout keeps: every property of values that passes to their
parts, and the absence of deprecated keys.
-/

namespace EdgeProxy.Migration

section Hereditary

variable {P : Json → Prop}

theorem hereditary_orDefault {v : Option Json} {default : Json} (hv : ∀ w ∈ v, P w)
    (hdefault : P default) : P (orDefault v default) := by
  cases v with
  | none => exact hdefault
  | some w =>
      simp only [orDefault]
      split
      · exact hv w rfl
      · exact hdefault

variable (hP : Json.Hereditary P)

include hP

theorem hereditary_endpointFields {fields : Fields} (h : P (.obj fields)) {port : Int}
    (hsmall : port.natAbs < 10000) : P (.obj (endpointFields fields port)) := by
  have hhost : P (orDefault (fields.get? "targetHost") (.str "localhost")) :=
    hereditary_orDefault (fun w hw => hP.get? h hw) (hP.of_str _)
  have hport : P (orDefault (fields.get? "targetPort") (.int port)) :=
    hereditary_orDefault (fun w hw => hP.get? h hw) (hP.of_int _ hsmall)
  rw [hP.obj_iff]
  refine ⟨by simp [endpointFields], ?_⟩
  simp only [endpointFields, List.forall_mem_cons]
  exact ⟨hhost, hport, hP.of_bool _, hP.of_bool _, by simp⟩

theorem hereditary_flatEndpoint {v w : Json} (hv : P v) {port : Int} (hsmall : port.natAbs < 10000)
    (h : flatEndpoint v port = .ok w) : P w := by
  rw [flatEndpoint.eq_def] at h
  split at h
  · cases h
    exact hP.of_null
  · split at h
    · cases h
      exact hereditary_endpointFields hP hv hsmall
    · cases h

theorem hereditary_elements {v : Json} (hv : P v) {items : List Json}
    (h : elements v = .ok items) : ∀ w ∈ items, P w := by
  rw [elements.eq_def] at h
  split at h
  · cases h
    exact hP.arr_iff.mp hv
  · cases h
    intro w hw
    obtain ⟨c, -, rfl⟩ := List.mem_map.mp hw
    exact hP.of_str _
  · cases h
    intro w hw
    obtain ⟨p, -, rfl⟩ := List.mem_map.mp hw
    exact hP.of_str _
  · cases h

theorem hereditary_spread {frontend api : Json} (hfrontend : P frontend) (hapi : P api)
    {names : List Json} {endpoints : Fields} (h : spread frontend api names = .ok endpoints) :
    P (.obj endpoints) := by
  induction names generalizing endpoints with
  | nil =>
      cases h
      simp [hP.obj_iff]
  | cons name rest ih =>
      simp only [spread, bind_eq_ok] at h
      obtain ⟨f, hf, a, ha, key, -, more, hmore, heq⟩ := h
      cases heq
      have hrest := hP.obj_iff.mp (hP.drop (ih hmore) [key])
      have hset : P (.obj [("frontend", f), ("api", a)]) := by
        rw [hP.obj_iff]
        refine ⟨by simp, ?_⟩
        simp only [List.forall_mem_cons]
        exact ⟨hereditary_flatEndpoint hP hfrontend (by decide) hf,
          hereditary_flatEndpoint hP hapi (by decide) ha, by simp⟩
      rw [hP.obj_iff]
      simp only [Fields.set, List.cons_append, List.nil_append, Fields.keys_cons, List.nodup_cons,
        List.forall_mem_cons]
      refine ⟨⟨?_, hrest.1⟩, hset, hrest.2⟩
      rw [Fields.keys_drop]
      simp

theorem hereditary_nestApplication {v w : Json} (hv : P v) (h : nestApplication v = .ok w) :
    P w := by
  rw [nestApplication.eq_def] at h
  split at h
  next fields =>
    split at h
    · cases h
      exact hv
    · simp only [bind_eq_ok] at h
      obtain ⟨names, -, endpoints, hspread, heq⟩ := h
      cases heq
      have hendpoints := hereditary_spread hP (hP.valueOf hv "frontend") (hP.valueOf hv "api")
        hspread
      exact hP.set (hP.set (hP.drop hv flatKeys) "endpoints" hendpoints) "enabled" (hP.of_bool _)
  · cases h

omit hP in
theorem each_spec {step : Json → Except Fault Json} (hstep : ∀ v w, P v → step v = .ok w → P w)
    {items changed : List Json} (hitems : ∀ v ∈ items, P v) (h : each step items = .ok changed) :
    ∀ w ∈ changed, P w := by
  induction items generalizing changed with
  | nil =>
      cases h
      simp
  | cons v rest ih =>
      simp only [each, bind_eq_ok] at h
      obtain ⟨w, hw, more, hmore, heq⟩ := h
      cases heq
      rw [List.forall_mem_cons] at hitems ⊢
      exact ⟨hstep v w hitems.1 hw, ih hitems.2 hmore⟩

omit hP in
theorem eachValue_spec {step : Json → Except Fault Json}
    (hstep : ∀ v w, P v → step v = .ok w → P w) {fields changed : Fields}
    (hfields : ∀ p ∈ fields, P p.2) (h : eachValue step fields = .ok changed) :
    changed.keys = fields.keys ∧ ∀ p ∈ changed, P p.2 := by
  induction fields generalizing changed with
  | nil =>
      cases h
      simp
  | cons p rest ih =>
      obtain ⟨k, v⟩ := p
      simp only [eachValue, bind_eq_ok] at h
      obtain ⟨w, hw, more, hmore, heq⟩ := h
      cases heq
      rw [List.forall_mem_cons] at hfields ⊢
      obtain ⟨hkeys, hmore⟩ := ih hfields.2 hmore
      exact ⟨by simp [hkeys], hstep v w hfields.1 hw, hmore⟩

theorem hereditary_listApis {v w : Json} (hv : P v) (h : listApis v = .ok w) : P w := by
  rw [listApis.eq_def] at h
  split at h
  next fields =>
    have hrest := hP.drop hv ["api"]
    dsimp only at h
    split at h
    · cases h
      exact hrest
    · split at h
      · cases h
        exact hP.set hrest "apis" (hP.arr_iff.mpr (by simp))
      · split at h
        next api hapi =>
          cases h
          have hvalue : P (.obj api) := hapi ▸ hP.valueOf hv "api"
          have hfields := hP.obj_iff.mp
            (hereditary_endpointFields hP hvalue (show apiPort.natAbs < 10000 by decide))
          have hentry : P (.obj (("slug", .str "") :: endpointFields api apiPort)) := by
            rw [hP.obj_iff, List.forall_mem_cons]
            exact ⟨by simp [endpointFields], hP.of_str _, hfields.2⟩
          exact hP.set hrest "apis" (hP.arr_iff.mpr (by simpa using hentry))
        · cases h
  · cases h
    exact hv

theorem hereditary_listApplication {v w : Json} (hv : P v) (h : listApplication v = .ok w) :
    P w := by
  rw [listApplication.eq_def] at h
  split at h
  next fields =>
    split at h
    next endpoints hget =>
      simp only [bind_eq_ok] at h
      obtain ⟨changed, hchanged, heq⟩ := h
      cases heq
      have hendpoints := hP.obj_iff.mp (hP.get? hv hget)
      have hspec := eachValue_spec (fun v w => hereditary_listApis hP) hendpoints.2 hchanged
      exact hP.set hv "endpoints" (hP.obj_iff.mpr ⟨hspec.1 ▸ hendpoints.1, hspec.2⟩)
    · split at h
      · cases h
      · cases h
        exact hv
    · cases h
      exact hv
  · cases h

end Hereditary

/-- A document whose values have a property, and with no key of an earlier release. -/
structure Clean (P : Json → Prop) (doc : Fields) : Prop where
  values : P (.obj doc)
  deprecated : ∀ key ∈ deprecatedKeys, key ∉ doc.keys

section Clean

variable {P : Json → Prop} (hP : Json.Hereditary P)

include hP

theorem clean_set {doc : Fields} (h : Clean P doc) {key : String} (hkey : key ∉ deprecatedKeys)
    {v : Json} (hv : P v) : Clean P (doc.set key v) := by
  refine ⟨hP.set h.values key hv, ?_⟩
  intro other hother hmem
  rcases Fields.mem_keys_set.mp hmem with rfl | hmem
  · exact hkey hother
  · exact h.deprecated other hother hmem

theorem clean_stripDeprecated {doc : Fields} (h : P (.obj doc)) :
    Clean P (stripDeprecated doc) := by
  refine ⟨hP.drop h deprecatedKeys, ?_⟩
  intro key hkey hmem
  rw [stripDeprecated, Fields.keys_drop, List.mem_filter] at hmem
  simp [hkey] at hmem

theorem hereditary_applications {doc : Fields} (h : Clean P doc) {apps : List Json}
    (happs : applications doc = .ok apps) : ∀ v ∈ apps, P v := by
  have hempty : P (.arr []) := hP.arr_iff.mpr (by simp)
  exact hereditary_elements hP
    (hereditary_orDefault (fun _ hw => hP.get? h.values hw) hempty) happs

theorem clean_nest {doc changed : Fields} (h : Clean P doc) (hnest : nest doc = .ok changed) :
    Clean P changed := by
  simp only [nest, bind_eq_ok] at hnest
  obtain ⟨apps, happs, nested, hnested, heq⟩ := hnest
  cases heq
  have hitems := each_spec (fun v w => hereditary_nestApplication hP)
    (hereditary_applications hP h happs) hnested
  exact clean_set hP h (by decide) (hP.arr_iff.mpr hitems)

theorem clean_list {doc changed : Fields} (h : Clean P doc) (hlist : list doc = .ok changed) :
    Clean P changed := by
  simp only [list, bind_eq_ok] at hlist
  obtain ⟨apps, happs, listed, hlisted, heq⟩ := hlist
  have hitems := each_spec (fun v w => hereditary_listApplication hP)
    (hereditary_applications hP h happs) hlisted
  split at heq
  · cases heq
    exact clean_set hP h (by decide) (hP.arr_iff.mpr hitems)
  · cases heq
    exact h

end Clean

/-- A document marked with the current layout. -/
def Marked (doc : Fields) : Prop := doc.get? "schemaVersion" = some (.int currentSchema)

theorem stepTo_spec {P : Json → Prop} (hP : Json.Hereditary P) {version : Int}
    (hsmall : version.natAbs < 10000) {step : Fields → Except Fault Fields} {doc changed : Fields}
    (hstep : ∀ after, step doc = .ok after → Clean P after)
    (h : stepTo version step doc = .ok changed) :
    Clean P changed ∧ changed.get? "schemaVersion" = some (.int version) := by
  rw [stepTo] at h
  split at h
  next after hafter =>
    cases h
    exact ⟨clean_set hP (hstep after hafter) (by decide) (hP.of_int _ hsmall),
      Fields.get?_set_self _ _ _⟩
  · cases h

theorem schemaOf_le {doc : Fields} {n : Int} (h : schemaOf doc = .ok n) :
    n = 1 ∨ n = 2 ∨ Marked doc := by
  rw [schemaOf] at h
  split at h
  · cases h
    exact Or.inl rfl
  next m hget =>
    split at h
    · cases h
    · split at h
      · cases h
      next hlow hhigh =>
        cases h
        have hsmall : ¬ (3 : Int) < n := hhigh
        by_cases hone : n = 1
        · exact Or.inl hone
        · by_cases htwo : n = 2
          · exact Or.inr (Or.inl htwo)
          · have hthree : n = 3 := by omega
            exact Or.inr (Or.inr (by rw [Marked, hget, hthree]; rfl))
  · cases h
    exact Or.inl rfl
  · cases h

/-- A clean document in the current layout is clean and marked. -/
theorem upgrade_spec {P : Json → Prop} (hP : Json.Hereditary P) {doc changed : Fields}
    (h : Clean P doc) (hup : upgrade doc = .ok changed) : Clean P changed ∧ Marked changed := by
  rw [upgrade] at hup
  split at hup
  · cases hup
  · simp only [bind_eq_ok] at hup
    obtain ⟨nested, hnested, hlisted⟩ := hup
    have hclean := (stepTo_spec hP (by decide) (fun after hafter => clean_nest hP h hafter) hnested).1
    exact stepTo_spec hP (by decide) (fun after hafter => clean_list hP hclean hafter) hlisted
  · exact stepTo_spec hP (by decide) (fun after hafter => clean_list hP h hafter) hup
  next n hone htwo hschema =>
    cases hup
    rcases schemaOf_le hschema with rfl | rfl | hmarked
    · exact absurd rfl hone
    · exact absurd rfl htwo
    · exact ⟨h, hmarked⟩

theorem schemaOf_of_marked {doc : Fields} (h : Marked doc) : schemaOf doc = .ok currentSchema := by
  rw [Marked] at h
  rw [schemaOf, h]
  rfl

theorem upgrade_of_marked {doc : Fields} (h : Marked doc) : upgrade doc = .ok doc := by
  rw [upgrade, schemaOf_of_marked h]
  rfl

theorem nameIssues_of_marked {doc : Fields} (h : Marked doc) : nameIssues doc = [] := by
  rw [nameIssues, schemaOf_of_marked h]
  rfl

end EdgeProxy.Migration
