import EdgeProxy.Proofs.Operation.History
import EdgeProxy.Proofs.Operation.Once
import EdgeProxy.Proofs.Route.Stored
/-!
The live configuration and the store.  Operations follow each other and the proxy keeps its live
configuration between them; what it answers, where it sends requests on to, what the system lets be written, the
peers and the time may change in any way.  The live configuration is then the one of the registry that was stored
when the proxy last accepted a push.  This is so of proxies that install a configuration exactly if the push of it
ends in success, wherever it was sent on to: where one sends a push on and installs nothing, the client is told of
a success all the same.
-/

namespace EdgeProxy

/-- What may be different at every operation while the proxy keeps its live configuration. -/
structure Conditions where
  onPush : Course
  onRead : Course
  lost : List String
  elsewhere : String → Reply
  room : Room
  peers : Peers
  now : Instant
  refuses : FileStep → Option String

/-- The world under other conditions; the proxy installs what it is sent exactly if the push ends in success. -/
def World.under (c : Conditions) (w : World) : World :=
  w.within ⟨⟨⟨c.onPush, c.onRead, c.onPush.reply.isAccepted, c.lost, w.line.proxy.live⟩, c.elsewhere, c.room,
    w.line.requests⟩, c.peers, c.now, c.refuses⟩

/-- Whether a push ended in success between two states of the line. -/
def Line.acceptedPush (before after : Line) : Bool :=
  before.proxy.onPush.reply.isAccepted &&
    (after.requests.drop before.requests.length).any (·.method == "POST")

/-- Whether an answer tells that the stored registry is live. -/
def Answer.isApplied : Answer → Bool
  | saved _ _ applied => applied.push.accepted
  | pushed _ _ => true
  | _ => false

/-- A run of operations: the world, and the world right after the proxy last accepted a push. -/
structure Session where
  world : World
  last : Option World

namespace Session

/-- A run that has not begun. -/
def start (w : World) : Session := ⟨w, none⟩

/-- One more operation. -/
def step (settings : Settings) (s : Session) (task : Conditions × Operation) : Session :=
  let before := s.world.under task.1
  let after := (task.2.run settings before).2
  ⟨after, if before.line.acceptedPush after.line then some after else s.last⟩

/-- Any number of operations. -/
def run (settings : Settings) (s : Session) (tasks : List (Conditions × Operation)) : Session :=
  tasks.foldl (step settings) s

end Session

theorem Line.acceptedPush_of_append {before after : Line} {extra : List ProxyRequest}
    (h : after.requests = before.requests ++ extra) :
    before.acceptedPush after =
      (before.proxy.onPush.reply.isAccepted && extra.any (·.method == "POST")) := by
  rw [acceptedPush, h, List.drop_left]

/-- A push to a proxy ended in success exactly if the client is told so. -/
theorem Sent.acceptedPush {settings : Settings} {r : Registry} {line after : Line}
    (h : Sent settings r line after) (harrives : settings.client.arrives = true) :
    line.acceptedPush after = settings.client.accepts line := by
  obtain ⟨rest, hattempts, -⟩ := Settings.attempts_eq_cons harrives line.proxy
    (r.compile settings).toJson (settings.client.accepts line)
  have hrequests := h.requests
  rw [hattempts] at hrequests
  rw [Line.acceptedPush_of_append hrequests, Client.accepts_of_arrives harrives, List.any_cons,
    beq_self_eq_true, Bool.true_or, Bool.and_true]

/-- A proxy that installs a configuration exactly if the push of it ends in success. -/
def Proxy.IsPlain (proxy : Proxy) : Prop := proxy.takes = proxy.onPush.reply.isAccepted

namespace World

variable {settings : Settings} {w : World} {r : Registry}

/-- The live configuration is the one of the stored registry: a reload sends it again, and the preview
shows it. -/
structure Current (settings : Settings) (r : Registry) (w : World) : Prop where
  load : ∀ supply, Store.load supply w.files settings.registryPath = (.ok r, supply)
  live : w.line.proxy.live = (r.compile settings).toJson
  reload : ∀ c, ∃ q rest, q.method = "POST" ∧ q.body = some w.line.proxy.live ∧
    (∀ q' ∈ rest, q'.method ≠ "POST") ∧
    (Operation.reload.run settings (w.under c)).2.line.requests = w.line.requests ++ q :: rest
  preview : ∀ c, ∃ fields, (Operation.preview.run settings (w.under c)).1 = .ok (.shown fields) ∧
    Fields.get? fields "config" = some w.line.proxy.live

theorem Ready.under (h : w.Ready settings r) (c : Conditions) : (w.under c).Ready settings r :=
  h.of_content_eq (content?_within _ _ _)

theorem Ready.withRegistry (h : w.Ready settings r)
    (next : Registry → World → Result × World) : w.withRegistry settings next = next r w := by
  simp only [World.withRegistry, World.load, h.load]

/-- What reloading does, where a registry is stored: it is sent once. -/
theorem Ready.repush (h : w.Ready settings r) (message : String) :
    ∃ result line, w.repush settings message = (result, { w with line := line }) ∧
      Sent settings r w.line line ∧
      (settings.exchangeFault? (r.compile settings).toJson w.line = none → ∃ answer, result = .ok answer) ∧
      ∀ answer, result = .ok answer → answer.isApplied = settings.client.accepts w.line := by
  unfold World.repush
  rw [h.withRegistry]
  rcases apply_spec settings r w with
    ⟨fault, line, hfault, happly, hsent⟩ | ⟨-, applied, line, happly, hsent⟩
  · refine ⟨.error fault, line, by simp only [happly], hsent, fun hnone => ?_, fun _ h => by cases h⟩
    cases hnone.symm.trans hfault
  · simp only [happly]
    cases haccepted : applied.push.accepted with
    | true =>
        refine ⟨_, line, by rw [if_pos rfl], hsent.toSent, fun _ => ⟨_, rfl⟩, ?_⟩
        rintro answer ⟨⟩
        rw [← hsent.accepted, haccepted]
        rfl
    | false =>
        refine ⟨_, line, by rw [if_neg Bool.false_ne_true], hsent.toSent, fun _ => ⟨_, rfl⟩, ?_⟩
        rintro answer ⟨⟩
        rw [← hsent.accepted, haccepted]
        rfl

/-- Where a push is sent on and ends in success though the proxy installs nothing, the client is told that the
stored registry is live, whatever is. -/
theorem Ready.applied_of_relayed (h : w.Ready settings r) (harrives : settings.client.arrives = true)
    (haccepted : w.line.proxy.onPush.reply.isAccepted = true) (htakes : w.line.proxy.takes = false)
    (hreturns : settings.Returns w.line) :
    ∃ answer after, Operation.reload.run settings w = (.ok answer, after) ∧ answer.isApplied = true ∧
      after.line.proxy = w.line.proxy := by
  obtain ⟨result, line, hrun, hsent, hanswers, happlied⟩ := h.repush "Proxy configuration reloaded"
  obtain ⟨answer, rfl⟩ := hanswers (hreturns r)
  refine ⟨answer, _, hrun, ?_, ?_⟩
  · rw [happlied answer rfl, Client.accepts_of_arrives harrives, haccepted]
  · have hproxy := hsent.proxy
    rwa [Client.proxyAfter, htakes, Bool.and_false, if_neg Bool.false_ne_true] at hproxy

/-- Where the live configuration is the one of the stored registry, a reload and the preview agree. -/
theorem Ready.current (h : w.Ready settings r) (harrives : settings.client.arrives = true)
    (hlive : w.line.proxy.live = (r.compile settings).toJson) : w.Current settings r := by
  refine ⟨h.load, hlive, fun c => ?_, fun c => ?_⟩
  · obtain ⟨result, line, hrun, hsent, -⟩ := (h.under c).repush "Proxy configuration reloaded"
    have hrun : Operation.reload.run settings (w.under c) =
      (result, { w.under c with line := line }) := hrun
    rw [hrun]
    obtain ⟨rest, hattempts, hrest⟩ := Settings.attempts_eq_cons harrives
      (w.under c).line.proxy (r.compile settings).toJson (settings.client.accepts (w.under c).line)
    have hrequests := hsent.requests
    rw [hattempts] at hrequests
    refine ⟨_, rest, ?_, ?_, hrest, hrequests⟩
    · rfl
    · rw [hlive]
  · refine ⟨r.previewFields settings, ?_, ?_⟩
    · have hrun : Operation.preview.run settings (w.under c) =
          (.ok (.shown (r.previewFields settings)), w.under c) := (h.under c).withRegistry _
      rw [hrun]
    · rw [hlive]
      rfl

/-- What an operation does to the live configuration: nothing, or a push ended in success and it is now the one of
the registry that is stored. -/
structure Settled (settings : Settings) (w : World) (result : Result) (w' : World) (r : Registry) :
    Prop where
  ready : w'.Ready settings r
  kept : w.line.acceptedPush w'.line = false →
    w'.line.proxy.live = w.line.proxy.live ∧
      ∀ answer, result = .ok answer → answer.isApplied = false
  replaced : w.line.acceptedPush w'.line = true →
    w'.line.proxy.live = (r.compile settings).toJson

/-- Where nothing was pushed, nothing happened to the live configuration. -/
theorem settled_of_quiet {result : Result} {w' : World} (hready : w'.Ready settings r)
    (hproxy : w'.line.proxy = w.line.proxy) {extra : List ProxyRequest}
    (hrequests : w'.line.requests = w.line.requests ++ extra)
    (hextra : ∀ q ∈ extra, q.method ≠ "POST")
    (hresult : ∀ answer, result = .ok answer → answer.isApplied = false) :
    Settled settings w result w' r := by
  have hnone : extra.any (·.method == "POST") = false := by
    rw [List.any_eq_false]
    intro q hq
    simpa using hextra q hq
  refine ⟨hready, fun _ => ⟨by rw [hproxy], hresult⟩, fun haccepted => ?_⟩
  rw [Line.acceptedPush_of_append hrequests, hnone, Bool.and_false] at haccepted
  cases haccepted

/-- Where a registry was sent that is the stored one but for what is not compiled, the live configuration
is settled. -/
theorem settled_of_sent {sent : Registry} {result : Result} {w' : World}
    (hready : w'.Ready settings r) (hcompile : sent.compile settings = r.compile settings)
    (harrives : settings.client.arrives = true) (hplain : w.line.proxy.IsPlain)
    (hsent : Sent settings sent w.line w'.line)
    (hanswer : ∀ answer, result = .ok answer → answer.isApplied = settings.client.accepts w.line) :
    Settled settings w result w' r := by
  have hproxy := hsent.proxy
  have haccepted := hsent.acceptedPush harrives
  have htakes : w.line.proxy.takes = settings.client.accepts w.line :=
    hplain.trans (Client.accepts_of_arrives harrives w.line).symm
  rw [Client.proxyAfter, harrives, htakes, Bool.true_and] at hproxy
  refine ⟨hready, fun hnone => ?_, fun hsome => ?_⟩
  · rw [haccepted] at hnone
    rw [hnone] at hproxy
    refine ⟨by rw [hproxy]; rfl, ?_⟩
    intro answer hresult
    rw [hanswer answer hresult, hnone]
  · rw [haccepted] at hsome
    rw [hsome] at hproxy
    rw [hproxy, ← hcompile]
    rfl

/-- An operation that changes the registry settles the live configuration. -/
theorem Ready.change (h : w.Ready settings r) (harrives : settings.client.arrives = true)
    (hplain : w.line.proxy.IsPlain) {op : Operation} (hchange : op.isChange = true) :
    ∃ r', Settled settings w (op.run settings w).1 (op.run settings w).2 r' := by
  rcases Operation.change_cases hchange settings w with
    ⟨result, w', hfails, huntouched, hruns⟩ | ⟨loaded, subject, saved, written, hsaves⟩
  · have hrun : op.run settings w = (result, w') := hruns settings.adminUrl
    rw [hrun]
    have hrequests : w'.line.requests = w.line.requests ++ [] := by
      rw [huntouched.line, List.append_nil]
    refine ⟨r, settled_of_quiet (h.of_content_eq (huntouched.files _)) (by rw [huntouched.line])
      hrequests (by simp) ?_⟩
    intro answer hanswer
    have hfalse : answer.isSuccess = false := hfails answer hanswer
    cases answer with
    | refused why => rfl
    | _ => cases hfalse
  · have hstored (line : Line) : ({ written with line := line } : World).Ready settings saved.stored :=
      hsaves.ready.of_content_eq rfl
    have hcompile := (saved.compile_stored settings).symm
    rcases hsaves.run_spec with
      ⟨fault, line, -, hrun, hsent⟩ | ⟨-, message, applied, line, hrun, hsent⟩
    · rw [hrun]
      exact ⟨saved.stored, settled_of_sent (hstored line) hcompile harrives hplain hsent fun _ h => by cases h⟩
    · rw [hrun]
      refine ⟨saved.stored, settled_of_sent (hstored line) hcompile harrives hplain hsent.toSent ?_⟩
      rintro answer ⟨⟩
      exact hsent.accepted

/-- An operation that only shows something leaves the line as it is. -/
theorem Ready.view (h : w.Ready settings r) (describe : Registry → Fields) :
    Settled settings w (w.view settings describe).1 (w.view settings describe).2 r := by
  have hrun : w.view settings describe = (.ok (.shown (describe r)), w) := h.withRegistry _
  rw [hrun]
  refine settled_of_quiet h rfl (List.append_nil _).symm (by simp) ?_
  intro answer hanswer
  cases hanswer
  rfl

theorem Ready.settled_repush (h : w.Ready settings r) (harrives : settings.client.arrives = true)
    (hplain : w.line.proxy.IsPlain) (message : String) :
    Settled settings w (w.repush settings message).1 (w.repush settings message).2 r := by
  obtain ⟨result, line, hrun, hsent, -, hanswer⟩ := h.repush message
  rw [hrun]
  have hready : ({ w with line := line } : World).Ready settings r := h.of_content_eq rfl
  exact settled_of_sent hready rfl harrives hplain hsent hanswer

theorem showStatus_spec (settings : Settings) (w : World) :
    ∃ result, w.showStatus settings = (result, { w with line := settings.client.asked w.line }) ∧
      ∀ answer, result = .ok answer → answer.isApplied = false := by
  have hline : (settings.client.status w.line).2 = settings.client.asked w.line := by
    rw [Client.status, Client.active_eq]
  unfold showStatus exchange
  dsimp only
  generalize settings.client.status w.line = outcome at hline ⊢
  obtain ⟨status, line⟩ := outcome
  rw [show line = _ from hline]
  cases status with
  | error fault => exact ⟨.error fault, rfl, fun _ h => by cases h⟩
  | ok status =>
      refine ⟨_, rfl, ?_⟩
      rintro answer ⟨⟩
      rfl

/-- Asking for the status is one request, which may be sent on, and not a push. -/
theorem Ready.showStatus (h : w.Ready settings r) :
    Settled settings w (w.showStatus settings).1 (w.showStatus settings).2 r := by
  obtain ⟨result, hrun, hresult⟩ := showStatus_spec settings w
  rw [hrun]
  refine settled_of_quiet (h.of_content_eq rfl) rfl rfl ?_ hresult
  intro q hq
  have hget : settings.client.readRequest.method ≠ "POST" := (by decide : "GET" ≠ "POST")
  exact Client.method_of_sent hget hq

theorem Ready.showCertificates (h : w.Ready settings r) :
    Settled settings w (w.showCertificates settings).1 (w.showCertificates settings).2 r := by
  unfold World.showCertificates
  rw [h.withRegistry]
  have hline : (w.certificates settings r).2.line = w.line := rfl
  have hfiles : (w.certificates settings r).2.files = w.files := rfl
  generalize w.certificates settings r = outcome at hline hfiles ⊢
  obtain ⟨report, after⟩ := outcome
  have hready : after.Ready settings r := h.of_content_eq (by rw [show after.files = _ from hfiles])
  have hquiet : after.line.requests = w.line.requests ++ [] := by
    rw [show after.line = _ from hline, List.append_nil]
  have hproxy : after.line.proxy = w.line.proxy := by rw [show after.line = _ from hline]
  cases report with
  | error fault => exact settled_of_quiet hready hproxy hquiet (by simp) fun _ h => by cases h
  | ok entries =>
      refine settled_of_quiet hready hproxy hquiet (by simp) ?_
      rintro answer ⟨⟩
      rfl

/-- Every operation settles the live configuration. -/
theorem Ready.run (h : w.Ready settings r)
    (harrives : settings.client.arrives = true) (hplain : w.line.proxy.IsPlain) (op : Operation) :
    ∃ r', Settled settings w (op.run settings w).1 (op.run settings w).2 r' := by
  by_cases hchange : op.isChange = true
  · exact h.change harrives hplain hchange
  · cases op with
    | reload => exact ⟨r, h.settled_repush harrives hplain "Proxy configuration reloaded"⟩
    | renew => exact ⟨r, h.settled_repush harrives hplain "Certificate renewal triggered"⟩
    | showStatus => exact ⟨r, h.showStatus⟩
    | showCertificates => exact ⟨r, h.showCertificates⟩
    | showConfig => exact ⟨r, h.view _⟩
    | listHosts => exact ⟨r, h.view _⟩
    | listEnvironments => exact ⟨r, h.view _⟩
    | listApplications => exact ⟨r, h.view _⟩
    | showProvider => exact ⟨r, h.view _⟩
    | showSystemRoute => exact ⟨r, h.view _⟩
    | preview => exact ⟨r, h.view _⟩
    | _ => exact absurd rfl hchange

end World

namespace Session

/-- What holds throughout a run: a registry is stored, and the live configuration is empty, or the one of
the registry that was stored when the proxy last accepted a push. -/
structure Agrees (settings : Settings) (s : Session) : Prop where
  ready : ∃ r, s.world.Ready settings r
  empty : s.last = none → s.world.line.proxy.live = .null
  last : ∀ moment, s.last = some moment → ∃ r,
    (∀ supply, Store.load supply moment.files settings.registryPath = (.ok r, supply)) ∧
      s.world.line.proxy.live = (r.compile settings).toJson

variable {settings : Settings} {s : Session}

theorem Agrees.step (h : s.Agrees settings)
    (harrives : settings.client.arrives = true)
    (task : Conditions × Operation) : (s.step settings task).Agrees settings := by
  obtain ⟨r, hready⟩ := h.ready
  obtain ⟨c, op⟩ := task
  obtain ⟨r', hsettled⟩ := (hready.under c).run harrives rfl op
  by_cases haccepted : (s.world.under c).line.acceptedPush
      (op.run settings (s.world.under c)).2.line = true
  · have hlast : (s.step settings (c, op)).last = some (op.run settings (s.world.under c)).2 :=
      if_pos haccepted
    refine ⟨⟨r', hsettled.ready⟩, fun hnone => ?_, fun moment hmoment => ?_⟩
    · rw [hlast] at hnone
      cases hnone
    · rw [hlast] at hmoment
      cases hmoment
      exact ⟨r', hsettled.ready.load, hsettled.replaced haccepted⟩
  · have hlast : (s.step settings (c, op)).last = s.last := if_neg haccepted
    have hlive : (s.step settings (c, op)).world.line.proxy.live = s.world.line.proxy.live :=
      (hsettled.kept (Bool.eq_false_iff.mpr haccepted)).1
    refine ⟨⟨r', hsettled.ready⟩, fun hnone => ?_, fun moment hmoment => ?_⟩
    · rw [hlive]
      exact h.empty (hlast ▸ hnone)
    · rw [hlive]
      exact h.last moment (hlast ▸ hmoment)

theorem Agrees.run (h : s.Agrees settings)
    (harrives : settings.client.arrives = true)
    (tasks : List (Conditions × Operation)) : (s.run settings tasks).Agrees settings := by
  induction tasks generalizing s with
  | nil => exact h
  | cons task rest ih => exact ih (h.step harrives task)

/-- A proxy that replies to a push. -/
def replying (reply : Reply) : Conditions :=
  ⟨.straight reply, .good, [], fun _ => .found [], .safe, fun _ => .refused, ⟨0⟩, fun _ => none⟩

def refusing : Conditions := replying (.answered 503 "" none)

def willing : Conditions := replying (.answered 200 "" none)

/-- The base domain is set while the proxy refuses it, and then it is pushed again. -/
def tasks : List (Conditions × Operation) :=
  [(refusing, .setBaseDomain (.str "example.org")), (willing, .renew)]

end Session

end EdgeProxy
