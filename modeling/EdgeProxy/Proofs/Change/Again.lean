import EdgeProxy.Proofs.Change.Identifiers
import EdgeProxy.Proofs.Json.Distinct
import EdgeProxy.Proofs.Keys
/-!
Updates that are made again.  What an update does to the fields of a record is determined by its payload alone,
so that a second one finds nothing to change.  The endpoints of an application are merged with those that are
there; after the update each entry of the payload is settled, and settled entries change nothing.
-/

namespace EdgeProxy

section Lists

variable {α : Type} {p q : α → Bool} {a b : α} {l : List α}

theorem find?_replaceFirst (h : l.find? p = some a) (hb : p b = true) :
    (replaceFirst p b l).find? p = some b := by
  induction l with
  | nil => cases h
  | cons c rest ih =>
      by_cases hc : p c = true
      · rw [replaceFirst, if_pos hc, List.find?_cons_of_pos hb]
      · rw [List.find?_cons_of_neg hc] at h
        rw [replaceFirst, if_neg hc, List.find?_cons_of_neg hc, ih h]

/-- To put an item in its own place changes nothing. -/
theorem replaceFirst_eq_self (h : l.find? p = some a) : replaceFirst p a l = l := by
  induction l with
  | nil => rfl
  | cons c rest ih =>
      by_cases hc : p c = true
      · rw [List.find?_cons_of_pos hc] at h
        cases h
        rw [replaceFirst, if_pos hc]
      · rw [List.find?_cons_of_neg hc] at h
        rw [replaceFirst, if_neg hc, ih h]

/-- Of two items that are put in the same place, the second one stays. -/
theorem replaceFirst_replaceFirst (hb : p b = true) (c : α) (l : List α) :
    replaceFirst p c (replaceFirst p b l) = replaceFirst p c l := by
  induction l with
  | nil => rfl
  | cons d rest ih =>
      by_cases hd : p d = true
      · rw [replaceFirst, if_pos hd, replaceFirst, if_pos hb, replaceFirst, if_pos hd]
      · rw [replaceFirst, if_neg hd, replaceFirst, if_neg hd, ih, replaceFirst, if_neg hd]

theorem map_replaceFirst_of_comm {f : α → α} (hf : ∀ a, p (f a) = p a) (b : α) (l : List α) :
    (replaceFirst p b l).map f = replaceFirst p (f b) (l.map f) := by
  induction l with
  | nil => rfl
  | cons c rest ih =>
      by_cases hc : p c = true
      · rw [replaceFirst, if_pos hc, List.map_cons, List.map_cons, replaceFirst, if_pos ((hf c).trans hc)]
      · have hfc : ¬ p (f c) = true := fun h => hc ((hf c).symm.trans h)
        rw [replaceFirst, if_neg hc, List.map_cons, List.map_cons, replaceFirst, if_neg hfc, ih]

theorem replaceFirst_map_again {f : α → α} (hf : ∀ a, p (f a) = p a) (hff : ∀ a, f (f a) = f a)
    (hb : p b = true) (l : List α) :
    replaceFirst p b ((replaceFirst p b (l.map f)).map f) = replaceFirst p b (l.map f) := by
  have htwice : (l.map f).map f = l.map f := by
    rw [List.map_map]
    exact List.map_congr_left fun a _ => hff a
  rw [map_replaceFirst_of_comm hf, replaceFirst_replaceFirst ((hf b).trans hb), htwice]

/-- What neither the item that is replaced nor the new one is counted for is counted as before. -/
theorem any_replaceFirst (hq : ∀ a, p a = true → q a = false) (hb : p b = true) (l : List α) :
    (replaceFirst p b l).any q = l.any q := by
  induction l with
  | nil => rfl
  | cons c rest ih =>
      by_cases hc : p c = true
      · rw [replaceFirst, if_pos hc, List.any_cons, List.any_cons, hq b hb, hq c hc]
      · rw [replaceFirst, if_neg hc, List.any_cons, List.any_cons, ih]

end Lists

/-- What a payload holds has each key once if the payload has. -/
theorem Json.Distinct.field {v w : Json} {key : String} (h : v.Distinct)
    (hfield : Payload.field v key = .ok w) : w.Distinct := by
  cases v with
  | obj fields =>
      obtain rfl := Except.ok.inj hfield
      exact Json.hereditary_distinct.valueOf h key
  | _ => cases hfield

/-- A step that overwrites with what its value alone determines, or with nothing. -/
structure Overwrites {α β : Type} (act : Json → α → Requested α) (put : Option β → α → α) : Prop where
  nothing : ∀ a, put none a = a
  outcome : ∀ {v : Json} {a b : α}, act v a = .ok b → ∃ x, ∀ c, act v c = .ok (put x c)

/-- An optional step overwrites with what the payload alone determines. -/
theorem Overwrites.whenGiven {α β : Type} {act : Json → α → Requested α} {put : Option β → α → α}
    (hact : Overwrites act put) {updates : Json} {key : String} {a b : α}
    (h : Payload.whenGiven updates key act a = .ok b) :
    ∃ x, ∀ c, Payload.whenGiven updates key act c = .ok (put x c) := by
  simp only [Payload.whenGiven, bind_eq_ok] at h
  obtain ⟨given, hgiven, h⟩ := h
  cases given with
  | none =>
      refine ⟨none, fun c => ?_⟩
      rw [Payload.whenGiven, hgiven, hact.nothing]
      rfl
  | some v =>
      obtain ⟨x, hx⟩ := hact.outcome h
      refine ⟨x, fun c => ?_⟩
      rw [Payload.whenGiven, hgiven]
      exact hx c

theorem overwrites_flag {α : Type} (put : Option Bool → α → α) (hnothing : ∀ a, put none a = a) :
    Overwrites (fun v a => .ok (put (some v.truthy) a)) put :=
  ⟨hnothing, fun {v _ _} _ => ⟨some v.truthy, fun _ => rfl⟩⟩

theorem getD_getD {α : Type} (x : Option α) (a : α) : x.getD (x.getD a) = x.getD a := by
  cases x <;> rfl

namespace Host

/-- What an update puts into a host; where it puts nothing, the host keeps what it has. -/
structure Patch where
  targetHost : Option String
  targetPort : Option Port
  enabled : Option Bool
  localOnly : Option Bool
  requireAuth : Option Bool
  /-- The subdomain and the custom domain. -/
  name : Option (Option String × Option String)

/-- The host with another name, if there is one. -/
def named (name : Option (Option String × Option String)) (h : Host) : Host :=
  { h with
    subdomain := (name.getD (h.subdomain, h.customDomain)).1
    customDomain := (name.getD (h.subdomain, h.customDomain)).2 }

def patched (p : Patch) (h : Host) : Host :=
  named p.name { h with
    targetHost := p.targetHost.getD h.targetHost
    targetPort := p.targetPort.getD h.targetPort
    enabled := p.enabled.getD h.enabled
    localOnly := p.localOnly.getD h.localOnly
    requireAuth := p.requireAuth.getD h.requireAuth }

theorem named_named (name other : Option (Option String × Option String)) (h : Host) :
    named other (named name h) = named (other.or name) h := by
  cases other <;> rfl

theorem patched_patched (p : Patch) (h : Host) : (h.patched p).patched p = h.patched p := by
  simp only [patched, named, getD_getD]
  cases p.name <;> rfl

theorem overwrites_setTargetHost : Overwrites (fun v h => h.setTargetHost v)
    fun x (h : Host) => { h with targetHost := x.getD h.targetHost } where
  nothing _ := rfl
  outcome := by
    intro v a b h
    rw [setTargetHost.eq_def] at h
    split at h
    next s =>
      split at h
      · exact absurd h not_reject
      next hs => exact ⟨some (Text.trim s), fun c => if_neg hs⟩
    · exact absurd h not_reject

theorem overwrites_setTargetPort : Overwrites (fun v h => h.setTargetPort v)
    fun x (h : Host) => { h with targetPort := x.getD h.targetPort } where
  nothing _ := rfl
  outcome := by
    intro v a b h
    simp only [setTargetPort, bind_eq_ok] at h
    obtain ⟨port, hport, -⟩ := h
    refine ⟨some port, fun c => ?_⟩
    rw [setTargetPort, hport]
    rfl

theorem overwrites_setSubdomain : Overwrites (fun v h => h.setSubdomain v) named where
  nothing _ := rfl
  outcome := by
    intro v a b h
    rw [setSubdomain] at h
    split at h
    next hv => exact ⟨none, fun c => if_pos hv⟩
    next hv =>
      simp only [bind_eq_ok] at h
      obtain ⟨s, hs, -⟩ := h
      refine ⟨some (some s, none), fun c => ?_⟩
      rw [setSubdomain, if_neg hv, hs]
      rfl

theorem overwrites_setCustomDomain : Overwrites (fun v h => h.setCustomDomain v) named where
  nothing _ := rfl
  outcome := by
    intro v a b h
    rw [setCustomDomain] at h
    split at h
    next hv => exact ⟨none, fun c => if_pos hv⟩
    next hv =>
      simp only [bind_eq_ok] at h
      obtain ⟨s, hs, -⟩ := h
      refine ⟨some (none, some s), fun c => ?_⟩
      rw [setCustomDomain, if_neg hv, hs]
      rfl

/-- What an update makes of any host is determined by the payload. -/
theorem exists_patch {updates : Json} {h h' : Host} (hupdate : h.update updates = .ok h') :
    ∃ p : Patch, ∀ c : Host, c.update updates = .ok (c.patched p) := by
  simp only [update, bind_eq_ok] at hupdate
  obtain ⟨a, ha, b, hb, c, hc, d, hd, e, he, f, hf, hcustom⟩ := hupdate
  obtain ⟨targetHost, htargetHost⟩ := overwrites_setTargetHost.whenGiven ha
  obtain ⟨targetPort, htargetPort⟩ := overwrites_setTargetPort.whenGiven hb
  obtain ⟨enabled, henabled⟩ := (overwrites_flag (fun x (h : Host) =>
    { h with enabled := x.getD h.enabled }) fun _ => rfl).whenGiven hc
  obtain ⟨localOnly, hlocalOnly⟩ := (overwrites_flag (fun x (h : Host) =>
    { h with localOnly := x.getD h.localOnly }) fun _ => rfl).whenGiven hd
  obtain ⟨requireAuth, hrequireAuth⟩ := (overwrites_flag (fun x (h : Host) =>
    { h with requireAuth := x.getD h.requireAuth }) fun _ => rfl).whenGiven he
  obtain ⟨subdomain, hsubdomain⟩ := overwrites_setSubdomain.whenGiven hf
  obtain ⟨customDomain, hcustomDomain⟩ := overwrites_setCustomDomain.whenGiven hcustom
  refine ⟨⟨targetHost, targetPort, enabled, localOnly, requireAuth, customDomain.or subdomain⟩,
    fun c => ?_⟩
  simp only [update, bind_eq_ok]
  refine ⟨_, htargetHost c, _, htargetPort _, _, henabled _, _, hlocalOnly _, _, hrequireAuth _, _,
    hsubdomain _, ?_⟩
  rw [hcustomDomain, named_named]
  rfl

/-- An update that is made again changes nothing. -/
theorem update_again {updates : Json} {h h' : Host} (hupdate : h.update updates = .ok h') :
    h'.update updates = .ok h' := by
  obtain ⟨p, hp⟩ := exists_patch hupdate
  obtain rfl : h.patched p = h' := Except.ok.inj ((hp h).symm.trans hupdate)
  rw [hp, patched_patched]

end Host

namespace Environment

/-- What an update puts into an environment. -/
structure Patch where
  name : Option String
  frontendPrefix : Option String
  apiPrefix : Option String

def patched (p : Patch) (e : Environment) : Environment :=
  { e with
    name := p.name.getD e.name
    frontendPrefix := p.frontendPrefix.getD e.frontendPrefix
    apiPrefix := p.apiPrefix.getD e.apiPrefix }

theorem patched_patched (p : Patch) (e : Environment) : (e.patched p).patched p = e.patched p := by
  simp only [patched, getD_getD]

theorem overwrites_setName : Overwrites (fun v e => e.setName v)
    fun x (e : Environment) => { e with name := x.getD e.name } where
  nothing _ := rfl
  outcome := by
    intro v a b h
    rw [setName.eq_def] at h
    split at h
    next s =>
      split at h
      · exact absurd h not_reject
      next hs => exact ⟨some (Text.trim s), fun c => if_neg hs⟩
    · exact absurd h not_reject

theorem overwrites_setFrontendPrefix : Overwrites (fun v e => e.setFrontendPrefix v)
    fun x (e : Environment) => { e with frontendPrefix := x.getD e.frontendPrefix } where
  nothing _ := rfl
  outcome := by
    intro v a b h
    obtain ⟨labels, hlabels, -⟩ := setFrontendPrefix_eq_ok h
    refine ⟨some labels, fun c => ?_⟩
    rw [setFrontendPrefix, hlabels]
    rfl

theorem overwrites_setApiPrefix : Overwrites (fun v e => e.setApiPrefix v)
    fun x (e : Environment) => { e with apiPrefix := x.getD e.apiPrefix } where
  nothing _ := rfl
  outcome := by
    intro v a b h
    obtain ⟨labels, hlabels, -⟩ := setApiPrefix_eq_ok h
    refine ⟨some labels, fun c => ?_⟩
    rw [setApiPrefix, hlabels]
    rfl

/-- What an update makes of any environment is determined by the payload. -/
theorem exists_patch {updates : Json} {e e' : Environment} (hupdate : e.update updates = .ok e') :
    ∃ p : Patch, ∀ c : Environment, c.update updates = .ok (c.patched p) := by
  simp only [update, bind_eq_ok] at hupdate
  obtain ⟨a, ha, b, hb, hc⟩ := hupdate
  obtain ⟨name, hname⟩ := overwrites_setName.whenGiven ha
  obtain ⟨frontendPrefix, hfrontendPrefix⟩ := overwrites_setFrontendPrefix.whenGiven hb
  obtain ⟨apiPrefix, hapiPrefix⟩ := overwrites_setApiPrefix.whenGiven hc
  refine ⟨⟨name, frontendPrefix, apiPrefix⟩, fun c => ?_⟩
  simp only [update, bind_eq_ok]
  exact ⟨_, hname c, _, hfrontendPrefix _, hapiPrefix _⟩

/-- An update that is made again changes nothing, whatever became of the default mark in between. -/
theorem update_again {updates : Json} {e e' : Environment} (hupdate : e.update updates = .ok e')
    (mark : Bool) :
    ({ e' with isDefault := mark } : Environment).update updates = .ok { e' with isDefault := mark } := by
  obtain ⟨p, hp⟩ := exists_patch hupdate
  obtain rfl : e.patched p = e' := Except.ok.inj ((hp e).symm.trans hupdate)
  have hmarked : ({ e.patched p with isDefault := mark } : Environment) =
      ({ e with isDefault := mark } : Environment).patched p := rfl
  rw [hmarked, hp, patched_patched]

end Environment

namespace Request

theorem frontend_again {fields : Fields} {subject : String} {present read : Option Endpoint}
    (h : frontend fields subject present = .ok read) : frontend fields subject read = .ok read := by
  rw [frontend] at h ⊢
  split at h
  · rfl
  · exact h

theorem apis_again {fields : Fields} {subject : String} {present read : List Api}
    (h : apis fields subject present = .ok read) : apis fields subject read = .ok read := by
  rw [apis] at h ⊢
  split at h
  · exact h
  · exact h
  · exact h
  · rfl

/-- What is asked for of a set of endpoints is what it has after it was asked for. -/
theorem endpointSet_again {v : Json} {environment : String} {present : Option EndpointSet}
    {set : EndpointSet} (h : endpointSet v environment present = .ok set) :
    endpointSet v environment (some set) = .ok set := by
  obtain ⟨fields, hv, hfrontend, hapis, hdistinct, hextra⟩ := endpointSet_eq_ok.mp h
  exact endpointSet_eq_ok.mpr
    ⟨fields, hv, frontend_again hfrontend, apis_again hapis, hdistinct, hextra⟩

end Request

namespace Application

theorem requestedSet_again {v : Json} {environment : String} {present : Option EndpointSet}
    {set : EndpointSet} (h : requestedSet v environment present = .ok set) :
    requestedSet v environment (some set) = .ok set := by
  obtain ⟨hread, hinUse⟩ := requestedSet_eq_ok.mp h
  exact requestedSet_eq_ok.mpr ⟨Request.endpointSet_again hread, hinUse⟩

section Sets

variable {environments : List Environment} {sets read : List (String × EndpointSet)}
  {id other : String} {set : EndpointSet}

theorem lookup_putSet_self (sets : List (String × EndpointSet)) (id : String) (set : EndpointSet) :
    (putSet sets id set).lookup id = some set := by
  induction sets with
  | nil => simp [putSet]
  | cons p rest ih =>
      obtain ⟨k, s⟩ := p
      by_cases hk : k = id
      · simp [putSet, hk]
      · simp [putSet, hk, List.lookup_cons, beq_false_of_ne (Ne.symm hk), ih]

theorem lookup_putSet_of_ne (h : other ≠ id) (sets : List (String × EndpointSet)) (set : EndpointSet) :
    (putSet sets id set).lookup other = sets.lookup other := by
  induction sets with
  | nil => simp [putSet, List.lookup_cons, beq_false_of_ne h]
  | cons p rest ih =>
      obtain ⟨k, s⟩ := p
      by_cases hk : k = id
      · simp [putSet, hk, List.lookup_cons, beq_false_of_ne h]
      · simp [putSet, hk, List.lookup_cons, ih]

theorem putSet_of_lookup (h : sets.lookup id = some set) : putSet sets id set = sets := by
  induction sets with
  | nil => cases h
  | cons p rest ih =>
      obtain ⟨k, s⟩ := p
      by_cases hk : k = id
      · subst hk
        simp only [List.lookup_cons, beq_self_eq_true, Option.some.injEq] at h
        simp [putSet, h]
      · simp only [List.lookup_cons, beq_false_of_ne (Ne.symm hk)] at h
        simp [putSet, hk, ih h]

/-- An entry of a payload that finds the endpoints as it leaves them. -/
structure Settled (environments : List Environment) (sets : List (String × EndpointSet))
    (entry : String × Json) : Prop where
  removed : environments.any (·.id == entry.1) = true → entry.2 = .null → sets.lookup entry.1 = none
  given : environments.any (·.id == entry.1) = true → entry.2 ≠ .null →
    ∃ set, sets.lookup entry.1 = some set ∧ requestedSet entry.2 entry.1 (some set) = .ok set

/-- Settled entries change nothing. -/
theorem updateSets_of_settled {given : List (String × Json)}
    (h : ∀ entry ∈ given, Settled environments sets entry) :
    updateSets environments sets given = .ok sets := by
  induction given with
  | nil => rfl
  | cons entry rest ih =>
      obtain ⟨id, v⟩ := entry
      rw [List.forall_mem_cons] at h
      rw [updateSets]
      split
      next hknown =>
        split
        next hnull =>
          rw [filter_of_lookup_eq_none (h.1.removed hknown (by simpa using hnull)), ih h.2]
        next hgiven =>
          obtain ⟨set, hlookup, hset⟩ := h.1.given hknown (by simpa using hgiven)
          simp only [bind_eq_ok]
          refine ⟨set, hlookup ▸ hset, ?_⟩
          rw [putSet_of_lookup hlookup, ih h.2]
      · exact ih h.2

/-- Entries for other environments leave the endpoints of an environment alone. -/
theorem lookup_updateSets {given : List (String × Json)} (hid : id ∉ given.map Prod.fst)
    (h : updateSets environments sets given = .ok read) : read.lookup id = sets.lookup id := by
  induction given generalizing sets with
  | nil =>
      cases h
      rfl
  | cons entry rest ih =>
      obtain ⟨key, v⟩ := entry
      rw [List.map_cons, List.mem_cons, not_or] at hid
      rw [updateSets] at h
      split at h
      · split at h
        · rw [ih hid.2 h, lookup_without_of_ne hid.1]
        · simp only [bind_eq_ok] at h
          obtain ⟨set, -, h⟩ := h
          rw [ih hid.2 h, lookup_putSet_of_ne hid.1]
      · exact ih hid.2 h

theorem Settled.congr {entry : String × Json} (h : Settled environments sets entry)
    (hlookup : read.lookup entry.1 = sets.lookup entry.1) : Settled environments read entry :=
  ⟨fun hknown hnull => hlookup.trans (h.removed hknown hnull), fun hknown hgiven =>
    hlookup ▸ h.given hknown hgiven⟩

/-- After an update every entry of the payload is settled, if no environment is listed twice. -/
theorem settled_of_updateSets {given : List (String × Json)} (hkeys : (given.map Prod.fst).Nodup)
    (h : updateSets environments sets given = .ok read) :
    ∀ entry ∈ given, Settled environments read entry := by
  induction given generalizing sets with
  | nil => simp
  | cons entry rest ih =>
      obtain ⟨id, v⟩ := entry
      rw [List.map_cons, List.nodup_cons] at hkeys
      rw [updateSets] at h
      rw [List.forall_mem_cons]
      split at h
      next hknown =>
        split at h
        next hnull =>
          refine ⟨?_, ih hkeys.2 h⟩
          refine Settled.congr ⟨fun _ _ => ?_, fun _ hgiven => ?_⟩ (lookup_updateSets hkeys.1 h)
          · exact lookup_without_self sets id
          · exact absurd (by simpa using hnull) hgiven
        next hgiven =>
          simp only [bind_eq_ok] at h
          obtain ⟨set, hset, h⟩ := h
          refine ⟨?_, ih hkeys.2 h⟩
          refine Settled.congr ⟨fun _ hnull => ?_, fun _ _ => ?_⟩ (lookup_updateSets hkeys.1 h)
          · exact absurd hnull (by simpa using hgiven)
          · exact ⟨set, lookup_putSet_self sets id set, requestedSet_again hset⟩
      next hunknown =>
        refine ⟨⟨fun hknown => absurd hknown hunknown, fun hknown => absurd hknown hunknown⟩, ?_⟩
        exact ih hkeys.2 h

end Sets

end Application

namespace Registry

variable {r r' after : Registry} {id : String} {updates : Json}

/-- A host that an update leaves as it is leaves the registry as it is. -/
theorem updateHost_of_fixed {h : Host} (hfound : r.host? id = some h)
    (hfixed : h.update updates = .ok h) : r.updateHost id updates = .ok (r, h) := by
  rw [updateHost, hfound]
  simp only [bind_eq_ok]
  exact ⟨h, hfixed, by rw [replaceFirst_eq_self hfound]⟩

/-- An update of a host that is made again, with the same hosts, changes nothing. -/
theorem updateHost_again {h : Host} (hupdate : r.updateHost id updates = .ok (r', h))
    (hhosts : after.hosts = r'.hosts) : after.updateHost id updates = .ok (after, h) := by
  obtain ⟨before, hfound, hchanged, rfl⟩ := updateHost_eq_ok hupdate
  have hid := List.find?_some hfound
  rw [← (Host.remains_update hchanged).id] at hid
  have hthere : after.host? id = some h := by
    rw [host?, hhosts]
    exact find?_replaceFirst hfound hid
  exact updateHost_of_fixed hthere (Host.update_again hchanged)

/-- What an update of an environment leads to, with the mark that the payload gives, if it gives one. -/
theorem updateEnvironment_marked {e : Environment}
    (h : r.updateEnvironment id updates = .ok (r', e)) :
    ∃ before changed given, r.environment? id = some before ∧ before.update updates = .ok changed ∧
      Payload.given updates "isDefault" = .ok given ∧
      e = { changed with isDefault := (given.map Json.truthy).getD changed.isDefault } ∧
      r' = (if given.any Json.truthy then r.clearDefaults else r).putEnvironment id e := by
  rw [updateEnvironment] at h
  split at h
  · exact absurd h not_reject
  next before hfound =>
    simp only [bind_eq_ok] at h
    obtain ⟨changed, hchanged, given, hgiven, hput⟩ := h
    refine ⟨before, changed, given, hfound, hchanged, hgiven, ?_⟩
    cases given with
    | none =>
        cases hput
        exact ⟨rfl, rfl⟩
    | some v =>
        cases hput
        exact ⟨rfl, rfl⟩

/-- An environment that an update leaves as it is, and the marks too, leaves the registry as it is. -/
theorem updateEnvironment_of_fixed {e : Environment} {given : Option Json}
    (hfound : r.environment? id = some e) (hfixed : e.update updates = .ok e)
    (hgiven : Payload.given updates "isDefault" = .ok given)
    (hmark : ∀ v ∈ given, v.truthy = e.isDefault)
    (halone : given.any Json.truthy = true → r.clearDefaults.putEnvironment id e = r) :
    r.updateEnvironment id updates = .ok (r, e) := by
  have hput : r.putEnvironment id e = r := by rw [putEnvironment, replaceFirst_eq_self hfound]
  rw [updateEnvironment, hfound]
  simp only [bind_eq_ok]
  refine ⟨e, hfixed, given, hgiven, ?_⟩
  cases given with
  | none =>
      dsimp only
      rw [hput]
  | some v =>
      have hsame : ({ e with isDefault := v.truthy } : Environment) = e := by rw [hmark v rfl]
      dsimp only
      rw [hsame]
      split
      next htrue => rw [halone htrue]
      · rw [hput]

theorem find?_clearDefaults {e : Environment} (h : r.environment? id = some e) :
    r.clearDefaults.environment? id = some { e with isDefault := false } := by
  rw [environment?, clearDefaults, List.find?_map]
  exact congrArg (Option.map _) h

/-- The environment that has taken the mark from all others can take it again. -/
theorem putEnvironment_clearDefaults_again {e : Environment} (hid : (e.id == id) = true)
    (henvironments : after.environments = (r.clearDefaults.putEnvironment id e).environments) :
    after.clearDefaults.putEnvironment id e = after := by
  have hsame : (after.clearDefaults.putEnvironment id e).environments = after.environments := by
    simp only [putEnvironment, clearDefaults, henvironments]
    apply replaceFirst_map_again
    · exact fun _ => rfl
    · exact fun _ => rfl
    · exact hid
  exact congrArg (fun environments => { after with environments := environments }) hsame

/-- An update of an environment that is made again, with the same environments, changes nothing. -/
theorem updateEnvironment_again {e : Environment}
    (hupdate : r.updateEnvironment id updates = .ok (r', e))
    (henvironments : after.environments = r'.environments) :
    after.updateEnvironment id updates = .ok (after, e) := by
  obtain ⟨before, changed, given, hfound, hchanged, hgiven, rfl, rfl⟩ := updateEnvironment_marked hupdate
  have hid := List.find?_some hfound
  rw [← (Environment.remains_update hchanged).id] at hid
  refine updateEnvironment_of_fixed ?_ (Environment.update_again hchanged _) hgiven ?_ ?_
  · rw [environment?, henvironments]
    split
    · exact find?_replaceFirst (find?_clearDefaults hfound) hid
    · exact find?_replaceFirst hfound hid
  · rintro v rfl
    rfl
  · intro htrue
    rw [if_pos htrue] at henvironments
    exact putEnvironment_clearDefaults_again hid henvironments

section Application

variable {a b c : Application} {v : Json}

theorem renamed_again (h : c.name = (renamed v a).name) : renamed v c = c := by
  rw [renamed] at h ⊢
  split
  next hv =>
    rw [if_pos hv] at h
    exact congrArg (fun name => { c with name := name }) h.symm
  · rfl

theorem switched_again (h : c.enabled = (switched v a).enabled) : switched v c = c := by
  cases v with
  | bool enabled => exact congrArg (fun enabled => { c with enabled := enabled }) h.symm
  | _ => rfl

theorem reslugged_again (hslug : r.reslugged id v a = .ok b)
    (hrivals : ∀ slug, (after.applications.any fun a => a.id != id && a.slug == slug) =
      r.applications.any fun a => a.id != id && a.slug == slug)
    (h : c.slug = b.slug) : after.reslugged id v c = .ok c := by
  rw [reslugged] at hslug ⊢
  split at hslug
  next hv => rw [if_pos hv]
  next hv =>
    simp only [bind_eq_ok] at hslug
    obtain ⟨slug, hread, hslug⟩ := hslug
    split at hslug
    · exact absurd hslug not_reject
    next hfree =>
      obtain rfl := Except.ok.inj hslug
      rw [if_neg hv, hread]
      simp only [bind_eq_ok]
      refine ⟨slug, rfl, ?_⟩
      rw [hrivals, if_neg hfree]
      exact congrArg (fun slug => Except.ok { c with slug := slug }) h.symm

theorem rerouted_again (hroutes : r.rerouted v a = .ok b)
    (henvironments : after.environments = r.environments) (hv : v.Distinct)
    (h : c.endpoints = b.endpoints) : after.rerouted v c = .ok c := by
  rw [rerouted.eq_def] at hroutes ⊢
  split at hroutes
  next fields =>
    simp only [bind_eq_ok] at hroutes ⊢
    obtain ⟨sets, hsets, hroutes⟩ := hroutes
    obtain rfl := Except.ok.inj hroutes
    have hkeys : (fields.map Prod.fst).Nodup := (Json.distinct_obj.mp hv).1
    refine ⟨sets, ?_, ?_⟩
    · rw [henvironments, h]
      exact Application.updateSets_of_settled (Application.settled_of_updateSets hkeys hsets)
    · exact congrArg (fun sets => Except.ok { c with endpoints := sets }) h.symm
  · rfl

/-- An application that every step of an update leaves as it is leaves the registry as it is. -/
theorem updateApplication_of_fixed {name slug enabled endpoints : Json}
    (hfound : r.application? id = some a) (hname : Payload.field updates "name" = .ok name)
    (hslug : Payload.field updates "slug" = .ok slug)
    (henabled : Payload.field updates "enabled" = .ok enabled)
    (hendpoints : Payload.field updates "endpoints" = .ok endpoints)
    (hshown : Request.showable name = .ok name) (hrenamed : renamed name a = a)
    (hreslugged : r.reslugged id slug a = .ok a) (hswitched : switched enabled a = a)
    (hrerouted : r.rerouted endpoints a = .ok a) : r.updateApplication id updates = .ok (r, a) := by
  rw [updateApplication, hfound]
  simp only [bind_eq_ok]
  refine ⟨name, hname, slug, hslug, enabled, henabled, endpoints, hendpoints, name, hshown, a, ?_, a,
    ?_, ?_⟩
  · rw [hrenamed, hreslugged]
  · rw [hswitched, hrerouted]
  · rw [replaceFirst_eq_self hfound]

theorem showable_of_updateApplication (h : r.updateApplication id updates = .ok (r', a)) {name : Json}
    (hname : Payload.field updates "name" = .ok name) : Request.showable name = .ok name := by
  rw [updateApplication] at h
  split at h
  · exact absurd h not_reject
  · simp only [bind_eq_ok] at h
    obtain ⟨given, hgiven, -, -, -, -, -, -, shown, hshown, -⟩ := h
    obtain rfl := Except.ok.inj (hgiven.symm.trans hname)
    obtain rfl := Request.showable_eq_ok hshown
    exact hshown

/-- An update of an application that is made again, with the same applications and environments, changes
nothing. -/
theorem updateApplication_again (hdistinct : updates.Distinct)
    (hupdate : r.updateApplication id updates = .ok (r', c))
    (happlications : after.applications = r'.applications)
    (henvironments : after.environments = r'.environments) :
    after.updateApplication id updates = .ok (after, c) := by
  obtain ⟨before, b, name, slug, enabled, endpoints, hfound, hname, hslug, henabled, hendpoints,
    hreslugged, hrerouted, rfl⟩ := updateApplication_eq_ok hupdate
  have hshown := showable_of_updateApplication hupdate hname
  have hframed := Application.framed_steps hname hslug henabled hendpoints hreslugged hrerouted
  have hid := List.find?_some hfound
  rw [← hframed.id] at hid
  have hthere : after.application? id = some c := by
    rw [application?, happlications]
    exact find?_replaceFirst hfound hid
  have hrivals : ∀ slug, (after.applications.any fun a => a.id != id && a.slug == slug) =
      r.applications.any fun a => a.id != id && a.slug == slug := by
    intro slug
    rw [happlications]
    apply any_replaceFirst
    · intro a ha
      have hsame : a.id = id := by simpa using ha
      simp [hsame]
    · exact hid
  obtain ⟨slug', hb, -⟩ := reslugged_eq_ok hreslugged
  obtain ⟨enabled', hswitched⟩ := switched_eq enabled b
  obtain ⟨sets, hc, -⟩ := rerouted_eq_ok hrerouted
  refine updateApplication_of_fixed hthere hname hslug henabled hendpoints hshown ?_ ?_ ?_ ?_
  · refine renamed_again (a := before) ?_
    rw [hc, hswitched, hb]
  · refine reslugged_again hreslugged hrivals ?_
    rw [hc, hswitched]
  · refine switched_again (a := b) ?_
    rw [hc]
  · exact rerouted_again hrerouted henvironments (hdistinct.field hendpoints) rfl

end Application

end Registry

end EdgeProxy
