import EdgeProxy.Proofs.Registry.Steps
/-!
The documents that the steps between layouts can go through.  The steps look into values before any of
them is checked; what they need of a document is said here by its shape alone, and a document is upgraded
or refused exactly if it has that shape.  All other documents end the upgrade in a fault.
-/

namespace EdgeProxy.Migration

/-- A value that does not count as set, or an object. -/
def ObjectIfSet (v : Json) : Prop := v.truthy = true → ∃ fields, v = .obj fields

/-- Whether a value can be made a key. -/
def isKey : Json → Bool
  | .arr _ | .obj _ => false
  | _ => true

/-- What names of environments can be taken from: a list of keys, the characters of a text, the keys of
an object, or nothing. -/
inductive HasNames : Json → Prop where
  | unset {v : Json} (h : v.truthy = false) : HasNames v
  | list {items : List Json} (h : ∀ v ∈ items, isKey v = true) : HasNames (.arr items)
  | text (s : String) : HasNames (.str s)
  | object (fields : Fields) : HasNames (.obj fields)

/-- The endpoints of one environment: an object without a list of APIs has at most one API, which is an
object; other values are passed over. -/
def IsSet (v : Json) : Prop :=
  ∀ fields : Fields, v = .obj fields →
    fields.has "apis" = true ∨ ObjectIfSet (fields.valueOf "api")

/-- An application without a map of endpoints. -/
structure IsFlat (names : Json → Prop) (app : Fields) : Prop where
  endpoints : ∀ sets, app.get? "endpoints" ≠ some (.obj sets)
  frontend : ObjectIfSet (app.valueOf "frontend")
  api : ObjectIfSet (app.valueOf "api")
  environments : names (app.valueOf "environments")

/-- An application with a map of endpoints. -/
def IsNested (app : Fields) : Prop :=
  ∃ sets : Fields, app.get? "endpoints" = some (.obj sets) ∧ ∀ p ∈ sets, IsSet p.2

/-- An application of layout 1: flat, or with a map of endpoints already. -/
inductive IsFirst (names : Json → Prop) : Json → Prop where
  | flat {app : Fields} (h : IsFlat names app) : IsFirst names (.obj app)
  | nested {app : Fields} (h : IsNested app) : IsFirst names (.obj app)

/-- An application of layout 2: with a map of endpoints, or without any. -/
inductive IsSecond : Json → Prop where
  | bare {app : Fields} (h : (app.valueOf "endpoints").truthy = false) : IsSecond (.obj app)
  | nested {app : Fields} (h : IsNested app) : IsSecond (.obj app)

/-- A document whose applications, if they are set, are a list of a kind. -/
inductive HasApplications (kind : Json → Prop) (doc : Fields) : Prop where
  | unset (h : (doc.valueOf "applications").truthy = false)
  | list {apps : List Json} (hget : doc.get? "applications" = some (.arr apps))
      (h : ∀ v ∈ apps, kind v)

/-- A document whose applications are those of the layout that it says it has. -/
structure IsShaped (names : Json → Prop) (doc : Fields) : Prop where
  first : schemaOf doc = .ok 1 → HasApplications (IsFirst names) doc
  second : schemaOf doc = .ok 2 → HasApplications IsSecond doc

theorem flatEndpoint_ok_iff {v : Json} {port : Int} :
    (∃ w, flatEndpoint v port = .ok w) ↔ ObjectIfSet v := by
  constructor
  · rintro ⟨w, h⟩ hset
    rw [flatEndpoint.eq_def] at h
    simp only [hset, Bool.not_true, Bool.false_eq_true, ↓reduceIte] at h
    split at h
    · exact ⟨_, rfl⟩
    · cases h
  · intro h
    cases hset : v.truthy with
    | false => exact ⟨_, flatEndpoint_of_unset hset port⟩
    | true =>
        obtain ⟨fields, rfl⟩ := h hset
        exact ⟨_, flatEndpoint_of_set hset port⟩

theorem keyText_ok_iff {v : Json} : (∃ key, keyText v = .ok key) ↔ isKey v = true := by
  cases v <;> simp [keyText, isKey]

/-- Going through names for a flat application needs every one to be a key, and both endpoints to be
objects as soon as there is a name. -/
theorem spread_ok_iff {frontend api : Json} {names : List Json} :
    (∃ sets, spread frontend api names = .ok sets) ↔
      (∀ v ∈ names, isKey v = true) ∧
        (names ≠ [] → ObjectIfSet frontend ∧ ObjectIfSet api) := by
  induction names with
  | nil => simp [spread]
  | cons name rest ih =>
      simp only [spread, bind_eq_ok, List.forall_mem_cons, ne_eq, reduceCtorEq, not_false_eq_true,
        forall_const]
      constructor
      · rintro ⟨sets, f, hf, a, ha, key, hkey, more, hmore, -⟩
        exact ⟨⟨keyText_ok_iff.mp ⟨key, hkey⟩, (ih.mp ⟨more, hmore⟩).1⟩,
          flatEndpoint_ok_iff.mp ⟨f, hf⟩, flatEndpoint_ok_iff.mp ⟨a, ha⟩⟩
      · rintro ⟨⟨hname, hrest⟩, hfrontend, hapi⟩
        obtain ⟨f, hf⟩ := flatEndpoint_ok_iff.mpr hfrontend
        obtain ⟨a, ha⟩ := flatEndpoint_ok_iff.mpr hapi
        obtain ⟨key, hkey⟩ := keyText_ok_iff.mpr hname
        obtain ⟨more, hmore⟩ := ih.mpr ⟨hrest, fun _ => ⟨hfrontend, hapi⟩⟩
        exact ⟨_, f, hf, a, ha, key, hkey, more, hmore, rfl⟩

/-- What names are taken from, if it is set; one name otherwise. -/
theorem elements_ne_nil {v : Json} {names : List Json}
    (h : elements (if v.truthy = true then v else .arr [.str "prod"]) = .ok names) :
    names ≠ [] := by
  rintro rfl
  split at h
  next hset => cases v <;> simp_all [elements, Json.truthy]
  · cases h

theorem elements_keys_iff {v : Json} :
    (∃ names, elements (if v.truthy = true then v else .arr [.str "prod"]) = .ok names ∧
      ∀ name ∈ names, isKey name = true) ↔ HasNames v := by
  cases hset : v.truthy with
  | false =>
      simp only [Bool.false_eq_true, ↓reduceIte]
      exact ⟨fun _ => .unset hset, fun _ => ⟨_, rfl, by simp [isKey]⟩⟩
  | true =>
      rw [if_pos rfl]
      constructor
      · rintro ⟨names, hnames, hkeys⟩
        cases v with
        | arr items =>
            cases hnames
            exact .list hkeys
        | str s => exact .text s
        | obj fields => exact .object fields
        | _ => cases hnames
      · intro h
        cases h with
        | unset h => simp [hset] at h
        | list h => exact ⟨_, rfl, h⟩
        | text s =>
            refine ⟨_, rfl, fun name hname => ?_⟩
            obtain ⟨c, -, rfl⟩ := List.mem_map.mp hname
            rfl
        | object fields =>
            refine ⟨_, rfl, fun name hname => ?_⟩
            obtain ⟨p, -, rfl⟩ := List.mem_map.mp hname
            rfl

/-- What the second step makes of the endpoints that the first one made. -/
theorem isSet_of_spread {frontend api : Json} {listed : List Json} {sets : Fields}
    (h : spread frontend api listed = .ok sets) : ∀ p ∈ sets, IsSet p.2 := by
  induction listed generalizing sets with
  | nil =>
      cases h
      simp
  | cons name rest ih =>
      simp only [spread, bind_eq_ok] at h
      obtain ⟨f, -, a, ha, key, -, more, hmore, heq⟩ := h
      cases heq
      simp only [Fields.set, List.cons_append, List.nil_append, List.forall_mem_cons]
      refine ⟨?_, fun p hp => ih hmore p (Fields.mem_drop.mp hp).1⟩
      rintro fields ⟨⟩
      refine Or.inr fun hset => ?_
      rw [flatEndpoint.eq_def] at ha
      split at ha
      · cases ha
        cases hset
      · split at ha
        · cases ha
          exact ⟨_, rfl⟩
        · cases ha

theorem listApis_obj_ok_iff {fields : Fields} :
    (∃ w, listApis (.obj fields) = .ok w) ↔ IsSet (.obj fields) := by
  constructor
  · rintro ⟨w, h⟩ _ ⟨⟩
    rw [listApis] at h
    cases hapis : fields.has "apis" with
    | true => exact .inl rfl
    | false =>
        simp only [has_drop_api, hapis, Bool.false_eq_true, ↓reduceIte] at h
        refine .inr fun hset => ?_
        simp only [hset, Bool.not_true, Bool.false_eq_true, ↓reduceIte] at h
        split at h
        next api hapi => exact ⟨api, hapi⟩
        · cases h
  · intro h
    cases hapis : fields.has "apis" with
    | true => exact ⟨_, listApis_of_listed hapis⟩
    | false =>
        cases hset : (fields.valueOf "api").truthy with
        | false => exact ⟨_, listApis_of_unset hapis hset⟩
        | true =>
            have hobject := (h fields rfl).resolve_left (by simp [hapis])
            obtain ⟨api, hapi⟩ := hobject hset
            exact ⟨_, listApis_of_set hapis hapi (hapi ▸ hset)⟩

theorem listApis_ok_iff {v : Json} : (∃ w, listApis v = .ok w) ↔ IsSet v := by
  cases v with
  | obj fields => exact listApis_obj_ok_iff
  | _ => simp [IsSet, listApis]

section Forall₂

variable {α β : Type} {R : α → β → Prop} {l : List α}

theorem exists_forall₂_and_iff {P : β → Prop} :
    (∃ l', List.Forall₂ R l l' ∧ ∀ b ∈ l', P b) ↔ ∀ a ∈ l, ∃ b, R a b ∧ P b := by
  induction l with
  | nil => simp
  | cons a rest ih =>
      rw [List.forall_mem_cons, ← ih]
      constructor
      · rintro ⟨_, h, hP⟩
        cases h with
        | cons hab hrest =>
            rw [List.forall_mem_cons] at hP
            exact ⟨⟨_, hab, hP.1⟩, _, hrest, hP.2⟩
      · rintro ⟨⟨b, hab, hb⟩, rest', hrest, hP⟩
        exact ⟨b :: rest', .cons hab hrest, List.forall_mem_cons.mpr ⟨hb, hP⟩⟩

theorem exists_forall₂_iff : (∃ l', List.Forall₂ R l l') ↔ ∀ a ∈ l, ∃ b, R a b := by
  simpa using exists_forall₂_and_iff (R := R) (P := fun _ => True)

end Forall₂

theorem eachValue_ok_iff {fields : Fields} :
    (∃ changed, eachValue listApis fields = .ok changed) ↔ ∀ p ∈ fields, IsSet p.2 := by
  simp only [eachValue_eq_ok_iff, exists_forall₂_iff]
  refine forall₂_congr fun p _ => ?_
  rw [← listApis_ok_iff]
  exact ⟨fun ⟨q, _, hq⟩ => ⟨q.2, hq⟩, fun ⟨w, hw⟩ => ⟨(p.1, w), rfl, hw⟩⟩

theorem listApplication_obj_ok_iff {app : Fields} :
    (∃ w, listApplication (.obj app) = .ok w) ↔ IsSecond (.obj app) := by
  constructor
  · rintro ⟨w, h⟩
    by_cases hget : ∃ sets, app.get? "endpoints" = some (.obj sets)
    · obtain ⟨sets, hget⟩ := hget
      obtain ⟨changed, hchanged, -⟩ := (listApplication_of_nested hget).mp h
      exact .nested ⟨sets, hget, eachValue_ok_iff.mp ⟨changed, hchanged⟩⟩
    · refine .bare ?_
      rw [listApplication] at h
      split at h
      next sets hsets => exact absurd ⟨sets, hsets⟩ hget
      next e _ he =>
        split at h
        · cases h
        next hset => simpa [Fields.valueOf, he] using hset
      next hnone => simp [Fields.valueOf, hnone, Json.truthy]
  · intro h
    by_cases hget : ∃ sets, app.get? "endpoints" = some (.obj sets)
    · obtain ⟨sets, hget⟩ := hget
      have hsets : ∀ p ∈ (sets : Fields), IsSet p.2 := by
        cases h with
        | bare hunset =>
            simp [eq_nil_of_unset hget hunset]
        | nested hnested =>
            obtain ⟨_, hsome, hsets⟩ := hnested
            rw [hget] at hsome
            cases hsome
            exact hsets
      obtain ⟨changed, hchanged⟩ := eachValue_ok_iff.mpr hsets
      exact ⟨_, (listApplication_of_nested hget).mpr ⟨changed, hchanged, rfl⟩⟩
    · cases h with
      | bare hunset =>
          exact ⟨_, listApplication_of_bare hunset fun sets hsets => hget ⟨sets, hsets⟩⟩
      | nested hnested =>
          obtain ⟨sets, hsome, -⟩ := hnested
          exact absurd ⟨sets, hsome⟩ hget

theorem listApplication_ok_iff {v : Json} : (∃ w, listApplication v = .ok w) ↔ IsSecond v := by
  cases v with
  | obj app => exact listApplication_obj_ok_iff
  | _ =>
      refine iff_of_false (fun ⟨w, h⟩ => ?_) fun h => ?_
      · cases h
      · cases h

theorem nestApplication_flat_ok_iff {app : Fields}
    (hflat : ∀ sets, app.get? "endpoints" ≠ some (.obj sets)) :
    (∃ w, nestApplication (.obj app) = .ok w) ↔ IsFlat HasNames app := by
  simp only [nestApplication_eq_ok hflat]
  constructor
  · rintro ⟨w, names, hnames, sets, hsets, -⟩
    obtain ⟨hkeys, hobjects⟩ := spread_ok_iff.mp ⟨sets, hsets⟩
    obtain ⟨hfrontend, hapi⟩ := hobjects (elements_ne_nil hnames)
    exact ⟨hflat, hfrontend, hapi, elements_keys_iff.mp ⟨names, hnames, hkeys⟩⟩
  · rintro ⟨-, hfrontend, hapi, hnames⟩
    obtain ⟨names, hnames, hkeys⟩ := elements_keys_iff.mpr hnames
    obtain ⟨sets, hsets⟩ := spread_ok_iff.mpr ⟨hkeys, fun _ => ⟨hfrontend, hapi⟩⟩
    exact ⟨_, names, hnames, sets, hsets, rfl⟩

/-- The second step has no trouble with what the first one made of a flat application. -/
theorem isNested_of_flat {app : Fields} (hflat : ∀ sets, app.get? "endpoints" ≠ some (.obj sets))
    {w : Json} (h : nestApplication (.obj app) = .ok w) : ∃ app', w = .obj app' ∧ IsNested app' := by
  obtain ⟨names, -, sets, hsets, rfl⟩ := (nestApplication_eq_ok hflat).mp h
  exact ⟨_, rfl, sets, get?_nested app sets, isSet_of_spread hsets⟩

theorem isFirst_obj_iff {app : Fields} :
    (∃ w, nestApplication (.obj app) = .ok w ∧ ∃ u, listApplication w = .ok u) ↔
      IsFirst HasNames (.obj app) := by
  by_cases hget : ∃ sets, app.get? "endpoints" = some (.obj sets)
  · obtain ⟨sets, hget⟩ := hget
    simp only [nestApplication_of_nested hget, Except.ok.injEq, exists_eq_left',
      listApplication_ok_iff]
    constructor
    · intro h
      cases h with
      | bare hunset =>
          have hempty := eq_nil_of_unset hget hunset
          exact .nested ⟨sets, hget, by simp [hempty]⟩
      | nested hnested => exact .nested hnested
    · intro h
      cases h with
      | flat hflat => exact absurd hget (hflat.endpoints sets)
      | nested hnested => exact .nested hnested
  · have hflat : ∀ sets, app.get? "endpoints" ≠ some (.obj sets) := fun sets h => hget ⟨sets, h⟩
    constructor
    · rintro ⟨w, hw, -⟩
      exact .flat ((nestApplication_flat_ok_iff hflat).mp ⟨w, hw⟩)
    · intro h
      cases h with
      | flat hshape =>
          obtain ⟨w, hw⟩ := (nestApplication_flat_ok_iff hflat).mpr hshape
          obtain ⟨app', rfl, hnested⟩ := isNested_of_flat hflat hw
          exact ⟨_, hw, listApplication_ok_iff.mpr (.nested hnested)⟩
      | nested hnested =>
          obtain ⟨sets, hsome, -⟩ := hnested
          exact absurd hsome (hflat sets)

theorem isFirst_iff {v : Json} :
    (∃ w, nestApplication v = .ok w ∧ ∃ u, listApplication w = .ok u) ↔ IsFirst HasNames v := by
  cases v with
  | obj app => exact isFirst_obj_iff
  | _ =>
      refine iff_of_false (fun ⟨w, h, _⟩ => ?_) fun h => ?_
      · cases h
      · cases h

/-- Nothing but a list is gone through in which no item is a text. -/
theorem applications_ok_iff {kind : Json → Prop} (htext : ∀ s, ¬ kind (.str s)) {doc : Fields} :
    (∃ apps, applications doc = .ok apps ∧ ∀ v ∈ apps, kind v) ↔ HasApplications kind doc := by
  constructor
  · rintro ⟨apps, happs, hkind⟩
    cases hset : (doc.valueOf "applications").truthy with
    | false => exact .unset hset
    | true =>
        have hget := get?_of_truthy hset
        rw [applications, orDefault_get?, if_pos hset] at happs
        cases hvalue : doc.valueOf "applications" with
        | arr items =>
            rw [hvalue] at happs hget
            cases happs
            exact .list hget hkind
        | str s =>
            rw [hvalue] at happs hset
            cases happs
            cases hchars : s.toList with
            | nil => simp [Json.truthy, String.toList_eq_nil_iff.mp hchars] at hset
            | cons c rest => exact absurd (hkind _ (by simp [hchars]; exact .inl rfl)) (htext _)
        | obj fields =>
            rw [hvalue] at happs hset
            cases happs
            cases fields with
            | nil => cases hset
            | cons p rest => exact absurd (hkind _ List.mem_cons_self) (htext _)
        | _ =>
            rw [hvalue] at happs
            cases happs
  · intro h
    cases h with
    | unset h => exact ⟨[], applications_of_unset h, by simp⟩
    | list hget h => exact ⟨_, applications_of_list hget, h⟩

theorem list_ok_iff {doc : Fields} :
    (∃ changed, list doc = .ok changed) ↔ HasApplications IsSecond doc := by
  rw [← applications_ok_iff fun s h => by cases h]
  have hsteps : (∃ changed, list doc = .ok changed) ↔
      ∃ apps, applications doc = .ok apps ∧ ∃ apps', each listApplication apps = .ok apps' := by
    simp only [list, bind_eq_ok]
    constructor
    · rintro ⟨changed, apps, happs, apps', happs', -⟩
      exact ⟨apps, happs, apps', happs'⟩
    · rintro ⟨apps, happs, apps', happs'⟩
      by_cases hget : ∃ items, doc.get? "applications" = some (.arr items)
      · obtain ⟨items, hget⟩ := hget
        exact ⟨_, apps, happs, apps', happs', by rw [hget]⟩
      · refine ⟨doc, apps, happs, apps', happs', ?_⟩
        split
        next items hitems => exact absurd ⟨items, hitems⟩ hget
        · rfl
  simp only [hsteps, each_eq_ok_iff, exists_forall₂_iff, listApplication_ok_iff]

/-- The first step and the second one after it. -/
theorem nest_list_ok_iff {doc : Fields} :
    (∃ nested, nest doc = .ok nested ∧
        ∃ changed, list (nested.set "schemaVersion" (.int 2)) = .ok changed) ↔
      HasApplications (IsFirst HasNames) doc := by
  have hlist (apps : List Json) :
      (∃ changed, list ((doc.set "applications" (.arr apps)).set "schemaVersion" (.int 2)) =
        .ok changed) ↔ ∀ w ∈ apps, ∃ u, listApplication w = .ok u := by
    rw [← exists_forall₂_iff]
    simp only [list_of_list (get?_relisted doc apps _), each_eq_ok_iff]
    exact ⟨fun ⟨_, apps', h, _⟩ => ⟨apps', h⟩, fun ⟨apps', h⟩ => ⟨_, apps', h, rfl⟩⟩
  have hsteps (apps : List Json) :
      (∃ apps', each nestApplication apps = .ok apps' ∧
        ∀ w ∈ apps', ∃ u, listApplication w = .ok u) ↔ ∀ v ∈ apps, IsFirst HasNames v := by
    simp only [each_eq_ok_iff, exists_forall₂_and_iff, isFirst_iff]
  rw [← applications_ok_iff fun s h => by cases h]
  simp only [nest_eq_ok_iff, ← hsteps]
  constructor
  · rintro ⟨_, ⟨apps, happs, apps', happs', rfl⟩, hchanged⟩
    exact ⟨apps, happs, apps', happs', (hlist apps').mp hchanged⟩
  · rintro ⟨apps, happs, apps', happs', hchanged⟩
    exact ⟨_, ⟨apps, happs, apps', happs', rfl⟩, (hlist apps').mpr hchanged⟩

theorem upgrade_ok_iff {doc : Fields} {n : Int} (hschema : schemaOf doc = .ok n) :
    (∃ changed, upgrade doc = .ok changed) ↔ IsShaped HasNames doc := by
  rcases schemaOf_le hschema with rfl | rfl | hmarked
  · have hshape : IsShaped HasNames doc ↔ HasApplications (IsFirst HasNames) doc :=
      ⟨fun h => h.first hschema,
        fun h => ⟨fun _ => h, fun h' => absurd (hschema.symm.trans h') (by simp)⟩⟩
    rw [hshape, ← nest_list_ok_iff]
    simp only [upgrade_of_first hschema]
    exact ⟨fun ⟨_, nested, hnested, after, hafter, _⟩ => ⟨nested, hnested, after, hafter⟩,
      fun ⟨nested, hnested, after, hafter⟩ => ⟨_, nested, hnested, after, hafter, rfl⟩⟩
  · have hshape : IsShaped HasNames doc ↔ HasApplications IsSecond doc :=
      ⟨fun h => h.second hschema,
        fun h => ⟨fun h' => absurd (hschema.symm.trans h') (by simp), fun _ => h⟩⟩
    rw [hshape, ← list_ok_iff]
    simp only [upgrade_of_second hschema]
    exact ⟨fun ⟨_, after, hafter, _⟩ => ⟨after, hafter⟩,
      fun ⟨after, hafter⟩ => ⟨_, after, hafter, rfl⟩⟩
  · have hcurrent := schemaOf_of_marked hmarked
    refine iff_of_true ⟨doc, upgrade_of_marked hmarked⟩ ⟨fun h => ?_, fun h => ?_⟩
    · rw [hcurrent] at h
      cases h
    · rw [hcurrent] at h
      cases h

/-- A document is brought to the current layout or refused exactly if the steps can go through it. -/
theorem upgrade_faults_iff {doc : Fields} :
    (∃ fault, upgrade doc = .error (.fault fault)) ↔ ¬ IsShaped HasNames doc := by
  cases hschema : schemaOf doc with
  | error why =>
      have hshape : IsShaped HasNames doc :=
        ⟨fun h => absurd (hschema.symm.trans h) (by simp),
          fun h => absurd (hschema.symm.trans h) (by simp)⟩
      simp [refused_iff.mpr hschema, hshape]
  | ok n =>
      have hnever (why : Refusal) : upgrade doc ≠ .error (.refused why) := by
        rw [ne_eq, refused_iff, hschema]
        simp
      rw [← upgrade_ok_iff hschema]
      cases hupgrade : upgrade doc with
      | ok changed => simp
      | error failure =>
          cases failure with
          | refused why => exact absurd hupgrade (hnever why)
          | fault what => simp

end EdgeProxy.Migration
