import EdgeProxy.Proofs.Registry.Migration
import Mathlib.Data.List.Forall2
/-!
What the steps between layouts do, inverted: what each of them needs to succeed on a value, a list or a
document, and what it then gives.
-/

namespace EdgeProxy.Migration

theorem orDefault_get? (fields : Fields) (key : String) (default : Json) :
    orDefault (fields.get? key) default =
      if (fields.valueOf key).truthy = true then fields.valueOf key else default := by
  cases hget : fields.get? key with
  | none => simp [orDefault, Fields.valueOf, hget, Json.truthy]
  | some v => simp [orDefault, Fields.valueOf, hget]

theorem get?_of_truthy {fields : Fields} {key : String} (h : (fields.valueOf key).truthy = true) :
    fields.get? key = some (fields.valueOf key) := by
  cases hget : fields.get? key with
  | none => simp [Fields.valueOf, hget, Json.truthy] at h
  | some v => simp [Fields.valueOf, hget]

theorem eq_nil_of_unset {fields sets : Fields} {key : String}
    (hget : fields.get? key = some (.obj sets)) (h : (fields.valueOf key).truthy = false) :
    sets = [] := by
  simpa [Fields.valueOf, hget, Json.truthy] using h

/-- The applications of a document that got new ones and a new mark. -/
theorem get?_relisted (doc : Fields) (apps : List Json) (mark : Json) :
    ((doc.set "applications" (.arr apps)).set "schemaVersion" mark).get? "applications" =
      some (.arr apps) := by
  rw [Fields.get?_set_of_ne (by decide), Fields.get?_set_self]

theorem flatEndpoint_of_unset {v : Json} (h : v.truthy = false) (port : Int) :
    flatEndpoint v port = .ok .null := by
  simp [flatEndpoint, h]

theorem flatEndpoint_of_set {fields : Fields} (h : (Json.obj fields).truthy = true) (port : Int) :
    flatEndpoint (.obj fields) port = .ok (.obj (endpointFields fields port)) := by
  simp [flatEndpoint, h]

theorem nestApplication_of_nested {app sets : Fields} (hget : app.get? "endpoints" = some (.obj sets)) :
    nestApplication (.obj app) = .ok (.obj app) := by
  rw [nestApplication, hget]

/-- What layout 2 has for a flat application: a map of endpoints in the place of the flat keys. -/
def nested (app sets : Fields) : Fields :=
  ((app.drop flatKeys).set "endpoints" (.obj sets)).set "enabled"
    (.bool (app.get? "enabled" != some (.bool false)))

/-- The names that a flat application gets endpoints for. -/
def listedNames (app : Fields) : Except Fault (List Json) :=
  elements (if (app.valueOf "environments").truthy = true then app.valueOf "environments"
    else .arr [.str "prod"])

theorem nestApplication_eq_ok {app : Fields}
    (hflat : ∀ sets, app.get? "endpoints" ≠ some (.obj sets)) {v : Json} :
    nestApplication (.obj app) = .ok v ↔
      ∃ listed, listedNames app = .ok listed ∧
        ∃ sets, spread (app.valueOf "frontend") (app.valueOf "api") listed = .ok sets ∧
          v = .obj (nested app sets) := by
  rw [nestApplication, orDefault_get?]
  split
  next sets hget => exact absurd hget (hflat sets)
  · simp only [bind_eq_ok, listedNames, nested, Except.ok.injEq, eq_comm (a := v)]

theorem get?_nested (app sets : Fields) : (nested app sets).get? "endpoints" = some (.obj sets) := by
  rw [nested, Fields.get?_set_of_ne (by decide), Fields.get?_set_self]

section Sets

variable {fields : Fields}

theorem has_drop_api : (fields.drop ["api"]).has "apis" = fields.has "apis" := by
  rw [Fields.has, Fields.get?_drop (by simp), Fields.has]

theorem listApis_of_listed (hapis : fields.has "apis" = true) :
    listApis (.obj fields) = .ok (.obj (fields.drop ["api"])) := by
  simp [listApis, has_drop_api, hapis]

theorem listApis_of_unset (hapis : fields.has "apis" = false)
    (hset : (fields.valueOf "api").truthy = false) :
    listApis (.obj fields) = .ok (.obj ((fields.drop ["api"]).set "apis" (.arr []))) := by
  simp [listApis, has_drop_api, hapis, hset]

theorem listApis_of_set (hapis : fields.has "apis" = false) {api : Fields}
    (hapi : fields.valueOf "api" = .obj api) (hset : (Json.obj api).truthy = true) :
    listApis (.obj fields) = .ok (.obj ((fields.drop ["api"]).set "apis"
      (.arr [.obj (("slug", .str "") :: endpointFields api apiPort)]))) := by
  simp [listApis, has_drop_api, hapis, hapi, hset]

end Sets

/-- Going through a list goes through each of its items. -/
theorem each_eq_ok_iff {step : Json → Except Fault Json} {items changed : List Json} :
    each step items = .ok changed ↔ List.Forall₂ (fun v w => step v = .ok w) items changed := by
  induction items generalizing changed with
  | nil => simp [each, eq_comm]
  | cons v rest ih =>
      simp only [each, bind_eq_ok, Except.ok.injEq, List.forall₂_cons_left_iff, ih]
      constructor
      · rintro ⟨w, hw, more, hmore, rfl⟩
        exact ⟨w, more, hw, hmore, rfl⟩
      · rintro ⟨w, more, hw, hmore, rfl⟩
        exact ⟨w, hw, more, hmore, rfl⟩

theorem eachValue_eq_ok_iff {step : Json → Except Fault Json} {fields changed : Fields} :
    eachValue step fields = .ok changed ↔
      List.Forall₂ (fun p q => q.1 = p.1 ∧ step p.2 = .ok q.2) fields changed := by
  induction fields generalizing changed with
  | nil => simp [eachValue, eq_comm]
  | cons p rest ih =>
      obtain ⟨k, v⟩ := p
      simp only [eachValue, bind_eq_ok, Except.ok.injEq, List.forall₂_cons_left_iff, ih]
      constructor
      · rintro ⟨w, hw, more, hmore, rfl⟩
        exact ⟨(k, w), more, ⟨rfl, hw⟩, hmore, rfl⟩
      · rintro ⟨⟨_, w⟩, more, ⟨rfl, hw⟩, hmore, rfl⟩
        exact ⟨w, hw, more, hmore, rfl⟩

theorem listApplication_of_nested {app sets : Fields} (hget : app.get? "endpoints" = some (.obj sets))
    {v : Json} :
    listApplication (.obj app) = .ok v ↔
      ∃ changed, eachValue listApis sets = .ok changed ∧
        v = .obj (app.set "endpoints" (.obj changed)) := by
  simp only [listApplication, hget, bind_eq_ok, Except.ok.injEq, eq_comm (a := v)]

theorem listApplication_of_bare {app : Fields} (h : (app.valueOf "endpoints").truthy = false)
    (hget : ∀ sets, app.get? "endpoints" ≠ some (.obj sets)) :
    listApplication (.obj app) = .ok (.obj app) := by
  rw [listApplication]
  split
  next sets hsets => exact absurd hsets (hget sets)
  next e _ he =>
    have hunset : e.truthy = false := by
      rwa [Fields.valueOf, he] at h
    simp [hunset]
  · rfl

theorem applications_of_unset {doc : Fields} (h : (doc.valueOf "applications").truthy = false) :
    applications doc = .ok [] := by
  simp [applications, orDefault_get?, h, elements]

theorem applications_of_list {doc : Fields} {apps : List Json}
    (hget : doc.get? "applications" = some (.arr apps)) : applications doc = .ok apps := by
  cases hset : (Json.arr apps).truthy with
  | true => simp [applications, hget, orDefault, hset, elements]
  | false =>
      have hempty : apps = [] := by
        simpa [Json.truthy] using hset
      simp [applications, hget, orDefault, elements, hempty]

theorem list_of_list {doc : Fields} {apps : List Json}
    (hget : doc.get? "applications" = some (.arr apps)) {changed : Fields} :
    list doc = .ok changed ↔
      ∃ apps', each listApplication apps = .ok apps' ∧
        changed = doc.set "applications" (.arr apps') := by
  simp only [list, bind_eq_ok, applications_of_list hget, hget, Except.ok.injEq, exists_eq_left',
    eq_comm (a := changed)]

theorem list_of_unset {doc : Fields} (h : (doc.valueOf "applications").truthy = false)
    (hget : ∀ apps, doc.get? "applications" ≠ some (.arr apps)) : list doc = .ok doc := by
  -- with no list of applications, the last step gives the document back
  simp only [list, bind_eq_ok, and_true]
  exact ⟨[], applications_of_unset h, [], rfl⟩

theorem nest_eq_ok_iff {doc changed : Fields} :
    nest doc = .ok changed ↔
      ∃ apps, applications doc = .ok apps ∧ ∃ apps', each nestApplication apps = .ok apps' ∧
        changed = doc.set "applications" (.arr apps') := by
  simp only [nest, bind_eq_ok, Except.ok.injEq, eq_comm (a := changed)]

theorem stepTo_ok_iff {version : Int} {step : Fields → Except Fault Fields} {doc changed : Fields} :
    stepTo version step doc = .ok changed ↔
      ∃ after, step doc = .ok after ∧ changed = after.set "schemaVersion" (.int version) := by
  rw [stepTo]
  split <;> simp_all [eq_comm]

theorem upgrade_of_first {doc : Fields} (hschema : schemaOf doc = .ok 1) {changed : Fields} :
    upgrade doc = .ok changed ↔
      ∃ nested, nest doc = .ok nested ∧
        ∃ after, list (nested.set "schemaVersion" (.int 2)) = .ok after ∧
          changed = after.set "schemaVersion" (.int 3) := by
  have hupgrade : upgrade doc = (stepTo 2 nest doc >>= stepTo 3 list) := by
    rw [upgrade, hschema]
    rfl
  rw [hupgrade, bind_eq_ok]
  simp only [stepTo_ok_iff]
  constructor
  · rintro ⟨_, ⟨nested, hnested, rfl⟩, after, hafter, rfl⟩
    exact ⟨nested, hnested, after, hafter, rfl⟩
  · rintro ⟨nested, hnested, after, hafter, rfl⟩
    exact ⟨_, ⟨nested, hnested, rfl⟩, after, hafter, rfl⟩

theorem upgrade_of_second {doc : Fields} (hschema : schemaOf doc = .ok 2) {changed : Fields} :
    upgrade doc = .ok changed ↔
      ∃ after, list doc = .ok after ∧ changed = after.set "schemaVersion" (.int 3) := by
  have hupgrade : upgrade doc = stepTo 3 list doc := by
    rw [upgrade, hschema]
    rfl
  rw [hupgrade, stepTo_ok_iff]

theorem stepTo_not_refused {version : Int} {step : Fields → Except Fault Fields} {doc : Fields}
    {why : Refusal} : stepTo version step doc ≠ .error (.refused why) := by
  rw [stepTo]
  split <;> simp

/-- The only documents that are refused are those of no known layout. -/
theorem refused_iff {doc : Fields} {why : Refusal} :
    upgrade doc = .error (.refused why) ↔ schemaOf doc = .error why := by
  rw [upgrade.eq_def]
  split
  next why' h => simp [h]
  next h =>
    rw [h]
    refine iff_of_false (fun hrefused => ?_) (by simp)
    cases hnested : stepTo 2 nest doc with
    | ok nested =>
        rw [hnested] at hrefused
        exact stepTo_not_refused hrefused
    | error failure =>
        rw [hnested] at hrefused
        cases hrefused
        exact stepTo_not_refused hnested
  next h =>
    rw [h]
    exact iff_of_false stepTo_not_refused (by simp)
  next h => simp [h]

end EdgeProxy.Migration
