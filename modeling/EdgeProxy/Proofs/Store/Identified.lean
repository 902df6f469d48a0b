import EdgeProxy.Proofs.Store.Load
/-!
Documents in which every application and every host has an identifier and a time of creation.  Bringing them
to the current layout keeps both, so nothing is drawn from the supply when they are read, and they are read
alike whatever supply there is.
-/

namespace EdgeProxy

namespace Migration

open Registry

theorem identified_of_get? {fields fields' : Fields} (h : Identified (.obj fields))
    (hid : fields'.get? "id" = fields.get? "id")
    (hcreated : fields'.get? "createdAt" = fields.get? "createdAt")
    (hcreated' : fields'.get? "created_at" = fields.get? "created_at") : Identified (.obj fields') := by
  have hidKey : Field.id.spelling? fields' = Field.id.spelling? fields := spelling?_congr hid hid
  have hcreatedKey : Field.createdAt.spelling? fields' = Field.createdAt.spelling? fields :=
    spelling?_congr hcreated hcreated'
  rintro _ ⟨⟩
  rw [hidKey, hcreatedKey]
  exact h fields rfl

theorem identified_nestApplication {v w : Json} (hv : Identified v) (h : nestApplication v = .ok w) :
    Identified w := by
  rw [nestApplication.eq_def] at h
  split at h
  next fields =>
    split at h
    · cases h
      exact hv
    · simp only [bind_eq_ok] at h
      obtain ⟨names, -, endpoints, -, heq⟩ := h
      cases heq
      have hget : ∀ key ∈ ["id", "createdAt", "created_at"],
          (((fields.drop flatKeys).set "endpoints" (.obj endpoints)).set "enabled"
            (.bool (fields.get? "enabled" != some (.bool false)))).get? key = fields.get? key := by
        intro key hkey
        have hother : key ≠ "enabled" ∧ key ≠ "endpoints" ∧ key ∉ flatKeys := by
          revert key
          decide
        rw [Fields.get?_set_of_ne hother.1, Fields.get?_set_of_ne hother.2.1,
          Fields.get?_drop hother.2.2]
      exact identified_of_get? hv (hget _ (by simp)) (hget _ (by simp)) (hget _ (by simp))
  · cases h

theorem identified_listApplication {v w : Json} (hv : Identified v) (h : listApplication v = .ok w) :
    Identified w := by
  rw [listApplication.eq_def] at h
  split at h
  next fields =>
    split at h
    · simp only [bind_eq_ok] at h
      obtain ⟨changed, -, heq⟩ := h
      cases heq
      exact identified_of_get? hv (Fields.get?_set_of_ne (by decide) _ _)
        (Fields.get?_set_of_ne (by decide) _ _) (Fields.get?_set_of_ne (by decide) _ _)
    · split at h
      · cases h
      · cases h
        exact hv
    · cases h
      exact hv
  · cases h

/-- What is gone through as the applications of a document is identified: what is not in a list is a text. -/
theorem identified_applications {doc : Fields} (h : EntitiesIdentified doc) {apps : List Json}
    (happs : applications doc = .ok apps) : ∀ v ∈ apps, Identified v := by
  have hlisted : ∀ items, orDefault (doc.get? "applications") (.arr []) = .arr items →
      ∀ v ∈ items, Identified v := by
    refine hereditary_orDefault (P := fun w => ∀ items, w = .arr items → ∀ v ∈ items, Identified v) ?_ ?_
    · rintro w hw items rfl
      exact h Field.applications.name (by simp) items hw
    · rintro items ⟨⟩
      simp
  rw [applications, elements.eq_def] at happs
  split at happs
  next items hitems =>
    cases happs
    exact hlisted _ hitems
  · cases happs
    intro v hv fields heq
    obtain ⟨c, -, rfl⟩ := List.mem_map.mp hv
    cases heq
  · cases happs
    intro v hv fields heq
    obtain ⟨p, -, rfl⟩ := List.mem_map.mp hv
    cases heq
  · cases happs

theorem entitiesIdentified_setApplications {doc : Fields} (h : EntitiesIdentified doc) {apps : List Json}
    (happs : ∀ v ∈ apps, Identified v) : EntitiesIdentified (doc.set "applications" (.arr apps)) := by
  intro key hkey items hget
  simp only [List.mem_cons, List.not_mem_nil, or_false] at hkey
  rcases hkey with rfl | rfl
  · have hself : (doc.set "applications" (.arr apps)).get? "applications" = some (.arr apps) :=
      Fields.get?_set_self _ _ _
    cases hself.symm.trans hget
    exact happs
  · have hother : (doc.set "applications" (.arr apps)).get? "hosts" = doc.get? "hosts" :=
      Fields.get?_set_of_ne (by decide) _ _
    exact h Field.hosts.name (by simp) items (hother.symm.trans hget)

theorem entitiesIdentified_nest {doc changed : Fields} (h : EntitiesIdentified doc)
    (hnest : nest doc = .ok changed) : EntitiesIdentified changed := by
  simp only [nest, bind_eq_ok] at hnest
  obtain ⟨apps, happs, nested, hnested, heq⟩ := hnest
  cases heq
  exact entitiesIdentified_setApplications h
    (each_spec (fun v w => identified_nestApplication) (identified_applications h happs) hnested)

theorem entitiesIdentified_list {doc changed : Fields} (h : EntitiesIdentified doc)
    (hlist : list doc = .ok changed) : EntitiesIdentified changed := by
  simp only [list, bind_eq_ok] at hlist
  obtain ⟨apps, happs, listed, hlisted, heq⟩ := hlist
  split at heq
  · cases heq
    exact entitiesIdentified_setApplications h
      (each_spec (fun v w => identified_listApplication) (identified_applications h happs) hlisted)
  · cases heq
    exact h

theorem entitiesIdentified_stepTo {version : Int} {step : Fields → Except Fault Fields}
    {doc changed : Fields} (hstep : ∀ after, step doc = .ok after → EntitiesIdentified after)
    (h : stepTo version step doc = .ok changed) : EntitiesIdentified changed := by
  rw [stepTo] at h
  split at h
  next after hafter =>
    cases h
    intro key hkey items hget
    have hother : ∀ key ∈ [Field.applications.name, Field.hosts.name], key ≠ "schemaVersion" := by
      decide
    rw [Fields.get?_set_of_ne (hother key hkey)] at hget
    exact hstep after hafter key hkey items hget
  · cases h

/-- Bringing a document to the current layout keeps the identifiers and the times of creation. -/
theorem entitiesIdentified_upgrade {doc changed : Fields} (h : EntitiesIdentified doc)
    (hup : upgrade doc = .ok changed) : EntitiesIdentified changed := by
  rw [upgrade] at hup
  split at hup
  · cases hup
  · simp only [bind_eq_ok] at hup
    obtain ⟨nested, hnested, hlisted⟩ := hup
    have hfirst := entitiesIdentified_stepTo (fun after => entitiesIdentified_nest h) hnested
    exact entitiesIdentified_stepTo (fun after => entitiesIdentified_list hfirst) hlisted
  · exact entitiesIdentified_stepTo (fun after => entitiesIdentified_list h) hup
  · cases hup
    exact h

theorem entitiesIdentified_stripDeprecated {doc : Fields} (h : EntitiesIdentified doc) :
    EntitiesIdentified (stripDeprecated doc) := by
  intro key hkey items hget
  have hkept : ∀ key ∈ [Field.applications.name, Field.hosts.name], key ∉ deprecatedKeys := by
    decide
  rw [stripDeprecated, Fields.get?_drop (hkept key hkey)] at hget
  exact h key hkey items hget

end Migration

namespace Store

open Registry

/-- A document with all identifiers and times of creation is read alike whatever supply there is, and nothing
is drawn from it. -/
theorem load_of_entitiesIdentified {supply left : Supply} {files : Files} {path : Path} {r : Registry}
    (hidentified : ∀ doc, document files path = .ok (some doc) → EntitiesIdentified doc)
    (h : load supply files path = (.ok r, left)) (supply' : Supply) :
    load supply' files path = (.ok r, supply') := by
  rcases load_eq_ok.mp h with ⟨hdoc, rfl, -⟩ | ⟨doc, current, hdoc, hup, hissues, hdecode, -⟩
  · exact load_eq_ok.mpr (.inl ⟨hdoc, rfl, rfl⟩)
  · have hcurrent : EntitiesIdentified current := Migration.entitiesIdentified_upgrade
      (Migration.entitiesIdentified_stripDeprecated (hidentified doc hdoc)) hup
    rw [mark_of_entitiesIdentified supply hcurrent] at hdecode
    have hmark := mark_of_entitiesIdentified supply' hcurrent
    exact load_eq_ok.mpr (.inr ⟨doc, current, hdoc, hup, hissues, by rw [hmark, hdecode],
      by rw [hmark]⟩)

end Store

end EdgeProxy
