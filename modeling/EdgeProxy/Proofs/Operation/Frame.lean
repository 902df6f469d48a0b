import EdgeProxy.Proofs.Change.Frame
import EdgeProxy.Proofs.Operation.Toggle
import EdgeProxy.Proofs.Store.Identified
import EdgeProxy.Proofs.Store.RoundTrip
/-!
The frame of every change.  A change that succeeds leaves a registry that is one version later and differs from
the one that was there only in the subject of the operation: the base domain, the flag of the provider, an
entity that is added at the end, the first entity with an identifier that is deleted, or what a payload names of
it.  The stored patterns follow while the provider is on.
-/

namespace EdgeProxy

/-- The first item that satisfies a condition is left out. -/
inductive FirstRemoved {α : Type} (p : α → Bool) : List α → List α → Prop where
  | intro {front back : List α} {a : α} (hfront : ∀ b ∈ front, p b = false) (ha : p a = true) :
      FirstRemoved p (front ++ a :: back) (front ++ back)

/-- The first item that satisfies a condition has another one in its place, to which it is related. -/
inductive FirstChanged {α : Type} (p : α → Bool) (R : α → α → Prop) : List α → List α → Prop where
  | intro {front back : List α} {a b : α} (hfront : ∀ c ∈ front, p c = false) (ha : p a = true)
      (hab : R a b) : FirstChanged p R (front ++ a :: back) (front ++ b :: back)

section Lists

variable {α : Type} {p : α → Bool} {R : α → α → Prop} {l l' : List α} {a b : α}

theorem split_of_find? (h : l.find? p = some a) :
    ∃ front back, l = front ++ a :: back ∧ (∀ c ∈ front, p c = false) ∧ p a = true := by
  obtain ⟨ha, front, back, hl, hfront⟩ := List.find?_eq_some_iff_append.mp h
  exact ⟨front, back, hl, fun c hc => by simpa using hfront c hc, ha⟩

theorem firstRemoved_eraseP (h : l.find? p = some a) : FirstRemoved p l (l.eraseP p) := by
  obtain ⟨front, back, rfl, hfront, ha⟩ := split_of_find? h
  have hnone : ∀ c ∈ front, ¬ p c = true := fun c hc => by simp [hfront c hc]
  rw [List.eraseP_append_right _ hnone, List.eraseP_cons_of_pos ha]
  exact .intro hfront ha

theorem replaceFirst_append {front back : List α} (hfront : ∀ c ∈ front, p c = false)
    (ha : p a = true) (b : α) : replaceFirst p b (front ++ a :: back) = front ++ b :: back := by
  induction front with
  | nil => simp [replaceFirst, ha]
  | cons c rest ih =>
      rw [List.forall_mem_cons] at hfront
      simp [replaceFirst, hfront.1, ih hfront.2]

theorem firstChanged_replaceFirst (h : l.find? p = some a) (hab : R a b) :
    FirstChanged p R l (replaceFirst p b l) := by
  obtain ⟨front, back, rfl, hfront, ha⟩ := split_of_find? h
  rw [replaceFirst_append hfront ha]
  exact .intro hfront ha hab

theorem FirstRemoved.map {f : α → α} (hp : ∀ a, p (f a) = p a) (h : FirstRemoved p l l') :
    FirstRemoved p (l.map f) (l'.map f) := by
  obtain ⟨hfront, ha⟩ := h
  rw [List.map_append, List.map_append, List.map_cons]
  exact .intro (List.forall_mem_map.mpr fun c hc => (hp c).trans (hfront c hc)) ((hp _).trans ha)

theorem FirstChanged.map {S : α → α → Prop} {f : α → α} (hp : ∀ a, p (f a) = p a)
    (hR : ∀ a b, R a b → S (f a) (f b)) (h : FirstChanged p R l l') :
    FirstChanged p S (l.map f) (l'.map f) := by
  obtain ⟨hfront, ha, hab⟩ := h
  rw [List.map_append, List.map_append, List.map_cons, List.map_cons]
  exact .intro (List.forall_mem_map.mpr fun c hc => (hp c).trans (hfront c hc)) ((hp _).trans ha)
    (hR _ _ hab)

end Lists

/-- A payload makes an environment the default. -/
def Payload.marks (updates : Json) : Bool :=
  match given updates "isDefault" with
  | .ok (some v) => v.truthy
  | _ => false

/-- The environment without the default mark. -/
def Environment.unmarked (e : Environment) : Environment := { e with isDefault := false }

namespace Operation

/-- What an operation does to the base domain. -/
def FramesBaseDomain (before after : String) : Operation → Prop
  | setBaseDomain value => Request.baseDomain value = .ok after
  | _ => after = before

/-- What an operation does to the environments.  An environment that becomes the default takes the mark from
all others. -/
def FramesEnvironments (before after : List Environment) : Operation → Prop
  | addEnvironment _ => ∃ e, after = before ++ [e]
  | updateEnvironment id updates =>
    FirstChanged (·.id == id) (Environment.Framed updates)
      (if Payload.marks updates then before.map Environment.unmarked else before) after
  | deleteEnvironment id => FirstRemoved (·.id == id) before after
  | _ => after = before

/-- What an operation does to the applications. -/
def FramesApplications (environments : List Environment) (before after : List Application) :
    Operation → Prop
  | addApplication _ => ∃ a, after = before ++ [a]
  | updateApplication id updates =>
    FirstChanged (·.id == id) (Application.Framed environments updates) before after
  | toggleApplication id enabled =>
    FirstChanged (·.id == id) (Application.Framed environments (World.switch enabled)) before after
  | deleteApplication id => FirstRemoved (·.id == id) before after
  | _ => after = before

/-- What an operation does to the hosts. -/
def FramesHosts (before after : List Host) : Operation → Prop
  | addHost _ => ∃ h, after = before ++ [h]
  | updateHost id updates => FirstChanged (·.id == id) (Host.Framed updates) before after
  | toggleHost id enabled =>
    FirstChanged (·.id == id) (Host.Framed (World.switch enabled)) before after
  | deleteHost id => FirstRemoved (·.id == id) before after
  | _ => after = before

/-- What an operation does to the provider, given the patterns of the registry after it. -/
def FramesProvider (settings : Settings) (patterns : List String) (before after : WildcardProvider) :
    Operation → Prop
  | switchProvider data => settings.providerSwitch data = .ok after.enabled ∧
    after.domains = if after.enabled then patterns else []
  | _ => after.enabled = before.enabled ∧
    after.domains = if after.enabled then patterns else before.domains

/-- What an operation makes of a registry: all of it, but for the subject of the operation, is as it was. -/
structure Frames (settings : Settings) (op : Operation) (r r' : Registry) : Prop where
  schemaVersion : r'.schemaVersion = r.schemaVersion
  version : r'.version = r.version + 1
  baseDomain : op.FramesBaseDomain r.baseDomain r'.baseDomain
  environments : op.FramesEnvironments r.environments r'.environments
  applications : op.FramesApplications r.environments r.applications r'.applications
  hosts : op.FramesHosts r.hosts r'.hosts
  provider : op.FramesProvider settings r'.wildcardPatterns r.provider r'.provider
  providerExtra : r'.provider.extra = r.provider.extra
  extra : r'.extra = r.extra

variable {settings : Settings} {op : Operation} {r r' : Registry}

theorem framesEnvironments_marked {id : String} {updates v : Json} {e e' : Environment}
    (hfound : r.environment? id = some e) (hupdate : e.update updates = .ok e')
    (hmark : Payload.given updates "isDefault" = .ok (some v)) :
    FramesEnvironments r.environments
      ((if v.truthy then r.clearDefaults else r).putEnvironment id
        { e' with isDefault := v.truthy }).environments (.updateEnvironment id updates) := by
  have hmarks : Payload.marks updates = v.truthy := by rw [Payload.marks, hmark]
  have hframed := Environment.framed_update hupdate
  rw [FramesEnvironments, hmarks]
  cases v.truthy with
  | false =>
      exact firstChanged_replaceFirst hfound (hframed.marked ⟨v, hmark⟩ e.isDefault false)
  | true =>
      have hfound' : (r.environments.map Environment.unmarked).find? (·.id == id) =
          some e.unmarked := by
        rw [List.find?_map]
        exact congrArg (Option.map Environment.unmarked) hfound
      exact firstChanged_replaceFirst hfound' (hframed.marked ⟨v, hmark⟩ false true)

/-- What an operation makes of a registry stays within its frame. -/
theorem Effect.frames (h : op.Effect settings r r') :
    op.Frames settings r (Store.advance r'.refreshPatterns) := by
  rw [Registry.refreshPatterns_eq]
  cases h with
  | setBaseDomain hdomain => exact ⟨rfl, rfl, hdomain, rfl, rfl, rfl, ⟨rfl, rfl⟩, rfl, rfl⟩
  | addHost => exact ⟨rfl, rfl, rfl, rfl, rfl, ⟨_, rfl⟩, ⟨rfl, rfl⟩, rfl, rfl⟩
  | updateHost hfound hupdate | toggleHost hfound hupdate =>
      have hhosts := firstChanged_replaceFirst hfound (Host.framed_update hupdate)
      exact ⟨rfl, rfl, rfl, rfl, rfl, hhosts, ⟨rfl, rfl⟩, rfl, rfl⟩
  | deleteHost hfound =>
      exact ⟨rfl, rfl, rfl, rfl, rfl, firstRemoved_eraseP hfound, ⟨rfl, rfl⟩, rfl, rfl⟩
  | addEnvironment => exact ⟨rfl, rfl, rfl, ⟨_, rfl⟩, rfl, rfl, ⟨rfl, rfl⟩, rfl, rfl⟩
  | @updateEnvironment id updates e e' hfound hupdate hmark =>
      have hmarks : Payload.marks updates = false := by rw [Payload.marks, hmark]
      have henvironments := firstChanged_replaceFirst hfound (Environment.framed_update hupdate)
      refine ⟨rfl, rfl, rfl, ?_, rfl, rfl, ⟨rfl, rfl⟩, rfl, rfl⟩
      rw [FramesEnvironments, hmarks]
      exact henvironments
  | @markEnvironment id updates v e e' hfound hupdate hmark =>
      have henvironments := framesEnvironments_marked hfound hupdate hmark
      cases htruthy : v.truthy with
      | false =>
          rw [htruthy] at henvironments
          exact ⟨rfl, rfl, rfl, henvironments, rfl, rfl, ⟨rfl, rfl⟩, rfl, rfl⟩
      | true =>
          rw [htruthy] at henvironments
          exact ⟨rfl, rfl, rfl, henvironments, rfl, rfl, ⟨rfl, rfl⟩, rfl, rfl⟩
  | deleteEnvironment hfound =>
      exact ⟨rfl, rfl, rfl, firstRemoved_eraseP hfound, rfl, rfl, ⟨rfl, rfl⟩, rfl, rfl⟩
  | addApplication => exact ⟨rfl, rfl, rfl, rfl, ⟨_, rfl⟩, rfl, ⟨rfl, rfl⟩, rfl, rfl⟩
  | updateApplication hfound hname hslug henabled hendpoints hb hc =>
      have hframed := Application.framed_steps hname hslug henabled hendpoints hb hc
      exact ⟨rfl, rfl, rfl, rfl, firstChanged_replaceFirst hfound hframed, rfl, ⟨rfl, rfl⟩, rfl, rfl⟩
  | @toggleApplication id enabled a hfound =>
      have hframed : a.Framed r.environments (World.switch enabled)
          { a with enabled := enabled.truthy } :=
        Application.framed_switched (v := .bool enabled.truthy) rfl a
      exact ⟨rfl, rfl, rfl, rfl, firstChanged_replaceFirst hfound hframed, rfl, ⟨rfl, rfl⟩, rfl, rfl⟩
  | deleteApplication hfound =>
      exact ⟨rfl, rfl, rfl, rfl, firstRemoved_eraseP hfound, rfl, ⟨rfl, rfl⟩, rfl, rfl⟩
  | @switchProvider data enabled henabled =>
      refine ⟨rfl, rfl, rfl, rfl, rfl, rfl, ⟨henabled, ?_⟩, rfl, rfl⟩
      cases enabled <;> rfl

theorem framesEnvironments_stored {before after : List Environment}
    (h : op.FramesEnvironments before after) :
    op.FramesEnvironments (before.map Environment.stored) (after.map Environment.stored) := by
  cases op with
  | addEnvironment =>
      obtain ⟨e, rfl⟩ := h
      exact ⟨e.stored, List.map_append⟩
  | updateEnvironment id updates =>
      rw [FramesEnvironments] at h ⊢
      have hstored : ∀ e e', Environment.Framed updates e e' →
          Environment.Framed updates e.stored e'.stored := fun _ _ => Environment.Framed.stored
      have hmapped := FirstChanged.map (f := Environment.stored) (fun _ => rfl) hstored h
      cases hmarks : Payload.marks updates with
      | false =>
          rw [hmarks] at hmapped
          exact hmapped
      | true =>
          rw [hmarks, if_pos rfl, List.map_map] at hmapped
          rw [if_pos rfl, List.map_map]
          exact hmapped
  | deleteEnvironment id => exact h.map fun _ => rfl
  | _ => exact congrArg (List.map Environment.stored) h

theorem framesApplications_stored {environments : List Environment} {before after : List Application}
    (h : op.FramesApplications environments before after) :
    op.FramesApplications (environments.map Environment.stored) (before.map Application.stored)
      (after.map Application.stored) := by
  cases op with
  | addApplication =>
      obtain ⟨a, rfl⟩ := h
      exact ⟨a.stored, List.map_append⟩
  | updateApplication | toggleApplication =>
      exact FirstChanged.map (fun _ => rfl) (fun _ _ => Application.Framed.stored) h
  | deleteApplication id => exact h.map fun _ => rfl
  | _ => exact congrArg (List.map Application.stored) h

theorem framesHosts_stored {before after : List Host} (h : op.FramesHosts before after) :
    op.FramesHosts (before.map Host.stored) (after.map Host.stored) := by
  cases op with
  | addHost =>
      obtain ⟨a, rfl⟩ := h
      exact ⟨a.stored, List.map_append⟩
  | updateHost | toggleHost =>
      exact FirstChanged.map (fun _ => rfl) (fun _ _ => Host.Framed.stored) h
  | deleteHost id => exact h.map fun _ => rfl
  | _ => exact congrArg (List.map Host.stored) h

/-- Registries stay within the frame when they are stored. -/
theorem Frames.stored (h : op.Frames settings r r') : op.Frames settings r.stored r'.stored where
  schemaVersion := h.schemaVersion
  version := h.version
  baseDomain := h.baseDomain
  environments := framesEnvironments_stored h.environments
  applications := framesApplications_stored h.applications
  hosts := framesHosts_stored h.hosts
  provider := by
    rw [Registry.wildcardPatterns_stored]
    cases op <;> exact h.provider
  providerExtra := congrArg kept h.providerExtra
  extra := congrArg kept h.extra

end Operation

/-- What is saved is within the frame of what was read, and is what is read afterwards. -/
theorem Operation.Saves.frames {settings : Settings} {op : Operation} {w written : World}
    {before saved : Registry} {subject : Subject}
    (h : op.Saves settings w before subject saved written) :
    op.Frames settings before saved ∧
      ∀ supply, Store.load supply written.files settings.registryPath = (.ok saved.stored, supply) := by
  obtain ⟨hedits, hload, hchanged, hsave⟩ := h
  obtain ⟨hkeeps, -⟩ := changed_ok hedits.sound (Store.wellFormed_of_load hload) hchanged
  obtain ⟨edited, hedit, rfl, -⟩ := changed_eq_ok.mp hchanged
  obtain ⟨-, rfl, -, -⟩ := Store.save_ok hsave
  exact ⟨(hedits.effect hedit).frames, Store.load_of_save hkeeps.wellFormed hsave⟩

namespace World

variable {settings : Settings} {w w' : World} {op : Operation} {answer : Answer}

/-- A change that succeeds leaves a registry that is within its frame of the one that was there, as that one is
stored; and it is stored as it is if all numbers in the document are finite. -/
theorem successful_changes_are_framed (hchange : op.isChange = true)
    (hidentified : ∀ doc, Store.document w.files settings.registryPath = .ok (some doc) →
      Registry.EntitiesIdentified doc)
    (hrun : op.run settings w = (.ok answer, w')) (hsuccess : answer.isSuccess = true) :
    ∃ before after : Registry,
      (∀ supply, Store.load supply w.files settings.registryPath = (.ok before, supply)) ∧
        (∀ supply, Store.load supply w'.files settings.registryPath = (.ok after, supply)) ∧
        op.Frames settings before.stored after ∧
        ((∀ doc, Store.document w.files settings.registryPath = .ok (some doc) →
          (Json.obj doc).Finite) → before.stored = before) := by
  rcases Operation.change_cases hchange settings w with
    ⟨result, failed, hfailure, -, hfails⟩ | ⟨before, subject, saved, written, hsaves⟩
  · have hsame : op.run settings w = (result, failed) := hfails settings.adminUrl
    cases hsame.symm.trans hrun
    exact absurd hsuccess (by simp [hfailure answer rfl])
  · obtain ⟨message, hannounce⟩ := hsaves.run_eq
    have hsame : op.run settings w = written.announce settings message subject saved :=
      hannounce settings.adminUrl
    have haside : written.Aside (written.announce settings message subject saved).2 :=
      aside_announce message subject saved
    rw [← hsame, hrun] at haside
    obtain ⟨hframes, hafter⟩ := hsaves.frames
    obtain ⟨-, hload, -⟩ := hsaves
    refine ⟨before, saved.stored, Store.load_of_entitiesIdentified hidentified hload, fun supply => ?_,
      hframes.stored, fun hfinite => (Store.lasting_of_load hfinite hload).stored_eq⟩
    rw [haside.files]
    exact hafter supply

/-- Switching off the host that was added first stays within its frame. -/
theorem successful_changes_are_framed_first_host :
    (∀ doc, Store.document ((Clash.start.history Clash.settings Twins.first).within offline).files
        Clash.shelf = .ok (some doc) → Registry.EntitiesIdentified doc) ∧
      ∃ answer w', (Operation.toggleHost (Twins.host 0).id (.bool false)).run Clash.settings
          ((Clash.start.history Clash.settings Twins.first).within offline) = (.ok answer, w') ∧
        answer.isSuccess = true ∧ ∃ before after : Registry,
          (∀ supply, Store.load supply
            ((Clash.start.history Clash.settings Twins.first).within offline).files Clash.shelf =
              (.ok before, supply)) ∧
          (∀ supply, Store.load supply w'.files Clash.shelf = (.ok after, supply)) ∧
          (Operation.toggleHost (Twins.host 0).id (.bool false)).Frames Clash.settings before.stored
            after := by
  have hshelved := Twins.shelved_after_first
  obtain ⟨r, hload, hrests⟩ := (reachable_start Twins.first).rests
  obtain rfl := hshelved.ready.unique hload
  rcases hrests with hinitial | hrests
  · exact absurd (congrArg (fun r => r.hosts.length) hinitial) (by decide)
  · have hthere := hrests.of_content_eq (content?_within offline _ Clash.shelf)
    have hidentified : ∀ doc, Store.document
        ((Clash.start.history Clash.settings Twins.first).within offline).files Clash.shelf =
          .ok (some doc) → Registry.EntitiesIdentified doc := by
      intro doc hdoc
      cases hthere.document.symm.trans hdoc
      exact Registry.entitiesIdentified_encodeFields _
    have hflag : (Switchable.host (Twins.host 0).id).flag? (Twins.registry 1 [Twins.host 0]) =
        some true := by decide
    obtain ⟨answer, w', hrun, hsuccess⟩ :=
      (hthere.switch (hshelved.admits (by decide)) hflag (.bool false)).1
    obtain ⟨before, after, hbefore, hafter, hframes, -⟩ :=
      successful_changes_are_framed rfl hidentified hrun hsuccess
    exact ⟨hidentified, answer, w', hrun, hsuccess, before, after, hbefore, hafter, hframes⟩

/-- A document with an unknown field whose number is too large to be finite. -/
def notedText : String := "\x7b\"schemaVersion\": 3, \"version\": 1, \"note\": 1e400\x7d"

def notedFields : Fields :=
  [("schemaVersion", .int 3), ("version", .int 1), ("note", .float (.infinite false))]

/-- The document is on the shelf. -/
def noted : World :=
  { Clash.start with files := ⟨[(Clash.shelf, .file (Text.encode notedText))], fun _ => none⟩ }

/-- The registry of the document, and what it keeps after it is stored. -/
def notedRegistry (version : Int) (domain : String) (note : Json) : Registry :=
  { Registry.initial with version := version, baseDomain := domain, extra := [("note", note)] }

theorem document_noted : Store.document noted.files Clash.shelf = .ok (some notedFields) := by
  have hread : (Json.read notedText).toOption = some (.obj notedFields) := by decide +kernel
  have hok : Json.read notedText = .ok (.obj notedFields) := by
    revert hread
    cases Json.read notedText with
    | error e => intro h; cases h
    | ok v => intro h; cases h; rfl
  have hbytes : noted.files.content? Clash.shelf = some (.ok (Text.encode notedText)) := rfl
  simp only [Store.document, hbytes, Text.decode_encode, hok]

theorem shelved_noted :
    Clash.Shelved (notedRegistry 1 "" (.float (.infinite false))) 0 noted where
  ready := by
    refine ⟨fun supply => ?_, ?_⟩
    · exact Store.load_eq_ok.mpr (.inr ⟨notedFields, Migration.stripDeprecated notedFields,
        document_noted, rfl, rfl, rfl, rfl⟩)
    · have hversion : Clash.settings.registryPath = Clash.shelf := rfl
      rw [hversion, Store.version, document_noted]
      rfl
  entries := .inr ⟨_, rfl⟩
  supply := rfl

/-- Setting the base domain loses the number of the unknown field: it is stored as null. -/
theorem unknown_number_is_lost :
    (∀ doc, Store.document noted.files Clash.shelf = .ok (some doc) →
        Registry.EntitiesIdentified doc) ∧
      (Operation.setBaseDomain (.str "example.org")).Succeeds Clash.settings (noted.within offline) ∧
      ∃ before after : Registry,
        (∀ supply, Store.load supply (noted.within offline).files Clash.shelf = (.ok before, supply)) ∧
        (∀ supply, Store.load supply ((Operation.setBaseDomain (.str "example.org")).run Clash.settings
            (noted.within offline)).2.files Clash.shelf = (.ok after, supply)) ∧
        before.extra = [("note", .float (.infinite false))] ∧ after.extra = [("note", .null)] ∧
        ¬ (Operation.setBaseDomain (.str "example.org")).Frames Clash.settings before after := by
  have hidentified : ∀ doc, Store.document noted.files Clash.shelf = .ok (some doc) →
      Registry.EntitiesIdentified doc := by
    intro doc hdoc
    cases document_noted.symm.trans hdoc
    intro key hkey items hget
    simp only [List.mem_cons, List.not_mem_nil, or_false] at hkey
    rcases hkey with rfl | rfl <;> cases hget
  have hrequest : Request.baseDomain (.str "example.org") = .ok "example.org" := rfl
  have hedits := @Operation.Edits.setBaseDomain Clash.settings (Clash.supply 0) _ _ hrequest
  have hvalid : (notedRegistry 1 "example.org" (.float (.infinite false))).Valid :=
    ⟨by decide, by decide, by decide, by decide, by decide⟩
  have hadmits := shelved_noted.admits (by decide)
  obtain ⟨answer, w', hrun, hsuccess, -⟩ :=
    hedits.succeeds shelved_noted.ready_within hadmits rfl hvalid
  have hafter := shelved_noted.changes (by decide) hedits rfl rfl hvalid
  refine ⟨hidentified, ⟨answer, w', hrun, hsuccess⟩, _, _, shelved_noted.ready_within.load,
    hafter.ready.load, rfl, rfl, fun hframes => ?_⟩
  cases hframes.extra

end World

end EdgeProxy
