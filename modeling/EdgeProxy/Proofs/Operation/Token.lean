import EdgeProxy.Proofs.Operation.Patterns
/-!
The provider token does not leak.  Of the token, operations see only whether there is one; so two runs that
differ in nothing but the token, in the same surroundings and with the same payloads, give the same results
and leave the same files, requests and connections, step by step.
-/

namespace EdgeProxy

/-- The settings with another token, or with none. -/
def Settings.withToken (settings : Settings) (token : Option String) : Settings :=
  { settings with token := token }

/-- A token that is not empty counts as configured. -/
theorem Settings.hasToken_withToken (settings : Settings) {token : String} (h : token ≠ "") :
    (settings.withToken (some token)).hasToken = true := by
  have hgiven : (!token.isEmpty) = true := by simpa using h
  exact hgiven

/-- What is seen of a run: after each step its result, and the world with the files, the requests and the
connections that it leaves. -/
def World.trace (settings : Settings) : World → List (Surroundings × Operation) → List (Result × World)
  | _, [] => []
  | w, (s, op) :: rest =>
    let seen := op.run settings (w.within s)
    seen :: trace settings seen.2 rest

section Token

variable {settings : Settings} {a b : Option String}
  (h : (settings.withToken a).hasToken = (settings.withToken b).hasToken)

include h

namespace Registry

theorem compile_withToken (r : Registry) :
    r.compile (settings.withToken a) = r.compile (settings.withToken b) := by
  rw [compile, compile, h]
  rfl

theorem providerView_withToken (r : Registry) :
    r.providerView (settings.withToken a) = r.providerView (settings.withToken b) := by
  rw [providerView, providerView, h]
  rfl

end Registry

theorem Settings.providerSwitch_withToken (data : Json) :
    (settings.withToken a).providerSwitch data = (settings.withToken b).providerSwitch data := by
  rw [providerSwitch, providerSwitch, h]
  rfl

namespace World

theorem apply_withToken (r : Registry) (w : World) :
    w.apply (settings.withToken a) r = w.apply (settings.withToken b) r := by
  have hclient : (settings.withToken a).client = (settings.withToken b).client := rfl
  have hconfirm : (settings.withToken a).confirmPush = (settings.withToken b).confirmPush := rfl
  have hserver : (settings.withToken a).serverName = (settings.withToken b).serverName := rfl
  unfold apply confirmed
  simp only [r.compile_withToken h, hclient, hconfirm, hserver]

theorem announce_withToken (message : Option String) (subject : Subject) (r : Registry) (w : World) :
    w.announce (settings.withToken a) message subject r =
      w.announce (settings.withToken b) message subject r := by
  unfold announce
  rw [apply_withToken h]

omit h in
/-- The registry is read without the token. -/
theorem withRegistry_withToken {next next' : Registry → World → Result × World}
    (hnext : ∀ r w, next r w = next' r w) (w : World) :
    w.withRegistry (settings.withToken a) next = w.withRegistry (settings.withToken b) next' := by
  obtain rfl : next = next' := funext fun r => funext (hnext r)
  rfl

theorem commit_withToken (message : Option String) (edit : Edit) (loaded : Registry) (w : World) :
    w.commit (settings.withToken a) message edit loaded =
      w.commit (settings.withToken b) message edit loaded := by
  -- Loading and saving see the place of the registry only; the token is seen when it is announced.
  have hannounce : announce (settings.withToken a) message = announce (settings.withToken b) message :=
    funext fun subject => funext fun r => funext (announce_withToken h message subject r)
  rw [commit, commit, hannounce]
  rfl

theorem mutate_withToken (message : Option String) (edit : Edit) (w : World) :
    w.mutate (settings.withToken a) message edit = w.mutate (settings.withToken b) message edit :=
  withRegistry_withToken (commit_withToken h message edit) w

theorem repush_withToken (message : String) (w : World) :
    w.repush (settings.withToken a) message = w.repush (settings.withToken b) message := by
  apply withRegistry_withToken
  intro r w
  rw [apply_withToken h]

omit h in
theorem view_withToken {describe describe' : Registry → Fields}
    (hdescribe : ∀ r, describe r = describe' r) (w : World) :
    w.view (settings.withToken a) describe = w.view (settings.withToken b) describe' := by
  apply withRegistry_withToken
  intro r w
  rw [hdescribe]

end World

/-- An operation does the same whatever the token is. -/
theorem Operation.run_withToken (op : Operation) (w : World) :
    op.run (settings.withToken a) w = op.run (settings.withToken b) w := by
  have hclient : (settings.withToken a).client = (settings.withToken b).client := rfl
  cases op with
  | setBaseDomain | addHost | addEnvironment | addApplication =>
      simp only [run, World.setBaseDomain, World.addHost, World.addEnvironment, World.addApplication,
        World.mutate_withToken h]
  | updateHost | toggleHost | deleteHost | updateEnvironment | deleteEnvironment
  | updateApplication | toggleApplication | deleteApplication => exact World.mutate_withToken h _ _ w
  | switchProvider =>
      simp only [run, World.switchProvider, Settings.providerSwitch_withToken h,
        Registry.providerView_withToken h, World.mutate_withToken h]
  | reload | renew => simp only [run, World.repush_withToken h]
  | showStatus =>
      unfold run World.showStatus
      rw [hclient]
  | showCertificates =>
      apply World.withRegistry_withToken
      intro r w
      have hpool : Pool.start (settings.withToken a) r.probeDomains =
        Pool.start (settings.withToken b) r.probeDomains := rfl
      simp only [World.certificates, hpool]
  | showProvider =>
      apply World.view_withToken
      intro r
      rw [r.providerView_withToken h]
  | preview =>
      apply World.view_withToken
      intro r
      rw [Registry.previewFields, Registry.previewFields, r.compile_withToken h]
  | showConfig | listHosts | listEnvironments | listApplications | showSystemRoute =>
      apply World.view_withToken
      intro r
      rfl

/-- Two runs under settings that tell the same of the token are the same, step by step. -/
theorem World.trace_withToken (w : World) (steps : List (Surroundings × Operation)) :
    w.trace (settings.withToken a) steps = w.trace (settings.withToken b) steps := by
  induction steps generalizing w with
  | nil => rfl
  | cons step rest ih =>
      obtain ⟨s, op⟩ := step
      rw [trace, trace, op.run_withToken h, ih]

end Token

namespace World

/-- Whatever the token is, as long as there is one, a run gives the same results, files and requests. -/
theorem token_does_not_leak (settings : Settings) {token other : String} (htoken : token ≠ "")
    (hother : other ≠ "") (w : World) (steps : List (Surroundings × Operation)) :
    w.trace (settings.withToken (some token)) steps =
      w.trace (settings.withToken (some other)) steps := by
  apply trace_withToken
  rw [settings.hasToken_withToken htoken, settings.hasToken_withToken hother]

/-- The provider is switched on under two tokens, and the configuration is shown. -/
theorem token_does_not_leak_switched_on :
    "token" ≠ "" ∧ "other" ≠ "" ∧
      empty.trace (Clash.settings.withToken (some "token")) (switchedOn ++ [(offline, .preview)]) =
        empty.trace (Clash.settings.withToken (some "other")) (switchedOn ++ [(offline, .preview)]) ∧
      OnShelf (providerOn 2) (empty.history (Clash.settings.withToken (some "token")) switchedOn) := by
  have htoken : "token" ≠ "" := by decide
  have hother : "other" ≠ "" := by decide
  have hsame := token_does_not_leak Clash.settings htoken hother empty
    (switchedOn ++ [(offline, .preview)])
  exact ⟨htoken, hother, hsame, onShelf_switchedOn⟩

end World

end EdgeProxy
