import EdgeProxy.Operation.Commit
import EdgeProxy.Proofs.Proxy.Address
import EdgeProxy.Proofs.Proxy.Wire
import EdgeProxy.Proofs.Route.Document
/-!
Sending a configuration.  A compiled registry is sent once, and once more the proxy is asked whether it is live if
it was accepted and that is wanted.  Where a request is sent on, it is followed.  What the exchange expects is told
by the outcome; the rest is a fault, and which replies those are is said here.
-/

namespace EdgeProxy

/-- The fault that a push ends in which gets a reply, if it does: it is stopped, or the body of a refusal breaks
off. -/
def Reply.pushFault? : Reply → Option Fault
  | stopped why => some why.fault
  | cutShort _ _ cut => some cut.fault
  | _ => none

theorem Reply.isAccepted_of_pushFault? {reply : Reply} {fault : Fault} (h : reply.pushFault? = some fault) :
    reply.isAccepted = false := by
  cases reply with
  | stopped why => rfl
  | cutShort status phrase cut => rfl
  | _ => cases h

/-- The fault that an answer to the question for the live configuration is, if it is one: an unexpected error, or
a configuration that is nested too deep to be gone through. -/
def Room.fault? (room : Room) : Except ExchangeError Json → Option Fault
  | .ok config => if room.walks < config.depth then some .tooDeep else none
  | .error e => e.fault?

/-- The fault that the question for the live configuration ends in which gets a reply, if it does. -/
def Reply.readFault? (room : Room) (proxy : Proxy) : Reply → Option Fault
  | answered status _ body =>
    if EdgeProxy.isAccepted status then
      room.fault? (Client.documentOf room.reads (body.getD (if status == 200 then proxy.shown else [])))
    else none
  | found body => room.fault? (Client.documentOf room.reads body)
  | stopped .range => some .overflow
  | stopped .protocol => some .offProtocol
  | _ => none

theorem Reply.readFault?_eq (room : Room) (proxy : Proxy) (reply : Reply) :
    reply.readFault? room proxy = room.fault? (Client.readReply room.reads proxy reply) := by
  cases reply with
  | unreachable reason => rfl
  | timedOut reason => rfl
  | answered status phrase body =>
      rw [readFault?, Client.readReply]
      cases EdgeProxy.isAccepted status <;> rfl
  | found body => rfl
  | cutShort status phrase cut => rfl
  | stopped why => cases why <;> rfl

namespace Client

section Conclude

variable {α : Type} {room : Room} {answer : Except ExchangeError Json} {use : Json → α}
  {other : ExchangeError → α}

theorem conclude_of_fault {fault : Fault} (h : room.fault? answer = some fault) :
    conclude room.walks use other answer = .error fault := by
  cases answer with
  | ok config =>
      rw [Room.fault?] at h
      split at h
      next hdeep =>
        cases h
        exact if_pos hdeep
      · cases h
  | error e =>
      have he : e.fault? = some fault := h
      rw [conclude, he]

theorem conclude_ok {config : Json} (h : room.fault? (.ok config) = none) :
    conclude room.walks use other (.ok config) = .ok (use config) := by
  rw [Room.fault?] at h
  split at h
  · cases h
  next hdeep => exact if_neg hdeep

theorem conclude_error {e : ExchangeError} (h : room.fault? (.error e) = none) :
    conclude room.walks use other (.error e) = .ok (other e) := by
  have he : e.fault? = none := h
  rw [conclude, he]

/-- What is made of an answer that is no fault. -/
theorem exists_conclude (use : Json → α) (other : ExchangeError → α) (h : room.fault? answer = none) :
    ∃ a, conclude room.walks use other answer = .ok a := by
  cases answer with
  | ok config => exact ⟨_, conclude_ok h⟩
  | error e => exact ⟨_, conclude_error h⟩

end Conclude

/-- Whether what a client sends leads to the proxy. -/
def arrives (client : Client) : Bool := Address.reach (client.address loadPath) == .proxy

/-- What becomes of a configuration that is sent. -/
def pushReply (client : Client) (line : Line) : Reply :=
  line.reply (client.address loadPath) line.proxy.onPush

/-- What becomes of the question for the live configuration. -/
def readReplyOn (client : Client) (line : Line) : Reply :=
  line.reply (client.address configPath) line.proxy.onRead

/-- Whether a configuration that is sent is accepted, as far as the client can tell. -/
def accepts (client : Client) (line : Line) : Bool := (client.pushReply line).isAccepted

/-- A client that reaches the proxy is told what the proxy replies. -/
theorem pushReply_of_arrives {client : Client} (h : client.arrives = true) (line : Line) :
    client.pushReply line = line.proxy.onPush.reply := by
  have hload : Address.reach (client.address loadPath) = .proxy := by simpa [arrives] using h
  rw [pushReply, Line.reply, hload]

theorem readReplyOn_of_arrives {client : Client} (h : client.arrives = true) (line : Line) :
    client.readReplyOn line = line.proxy.onRead.reply := by
  have hload : Address.reach (client.address loadPath) = .proxy := by simpa [arrives] using h
  rw [readReplyOn, Line.reply, reach_configPath, hload]

theorem accepts_of_arrives {client : Client} (h : client.arrives = true) (line : Line) :
    client.accepts line = line.proxy.onPush.reply.isAccepted := by
  rw [accepts, pushReply_of_arrives h]

/-- The proxy once a configuration was sent. -/
def proxyAfter (client : Client) (config : Json) (line : Line) : Proxy :=
  if client.arrives && line.proxy.takes then { line.proxy with live := config } else line.proxy

/-- The fault that asking for the live configuration ends in, if it does. -/
def readFault? (client : Client) (line : Line) : Option Fault :=
  (client.readReplyOn line).readFault? line.room line.proxy

theorem arrives_of_address {client : Client} {q : ProxyRequest} (h : q.address = client.address loadPath) :
    q.arrives = client.arrives := by
  rw [ProxyRequest.arrives, arrives, h]

theorem address_pushRequest (client : Client) (config : Json) :
    (client.pushRequest config).address = client.address loadPath := by
  unfold pushRequest
  split <;> with_reducible rfl

theorem arrives_pushRequest (client : Client) (config : Json) :
    (client.pushRequest config).arrives = client.arrives :=
  arrives_of_address (client.address_pushRequest config)

theorem address_readRequest (client : Client) : client.readRequest.address = client.address configPath := by
  unfold readRequest
  with_reducible rfl

theorem arrives_readRequest (client : Client) : client.readRequest.arrives = client.arrives := by
  unfold readRequest ProxyRequest.arrives arrives
  rw [reach_configPath]

/-- The line once a configuration was sent. -/
def pushed (client : Client) (config : Json) (line : Line) : Line :=
  { line with
    proxy := client.proxyAfter config line
    requests := line.requests ++ client.sent (client.pushRequest config) line.proxy.onPush }

/-- The line once the live configuration was asked for. -/
def asked (client : Client) (line : Line) : Line :=
  { line with requests := line.requests ++ client.sent client.readRequest line.proxy.onRead }

theorem push_eq (client : Client) (config : Json) (line : Line) :
    client.push config line =
      (pushResult line.proxy.onPush.elapsed (client.pushReply line), client.pushed config line) := by
  have hproxy : (if (client.pushRequest config).arrives then line.proxy.receive config else line.proxy) =
      client.proxyAfter config line := by
    rw [arrives_pushRequest, proxyAfter, Proxy.receive]
    cases client.arrives <;> rfl
  rw [push, pushed, pushReply, address_pushRequest, hproxy]

theorem active_eq (client : Client) (line : Line) :
    client.active line = (readReply line.room.reads line.proxy (client.readReplyOn line), client.asked line) := by
  unfold active readReplyOn asked
  simp only [address_readRequest]

theorem onRead_proxyAfter (client : Client) (config : Json) (line : Line) :
    (client.proxyAfter config line).onRead = line.proxy.onRead := by
  rw [proxyAfter]
  split <;> rfl

/-- Requests that follow another one send no configuration. -/
theorem method_of_follow {client : Client} {q : ProxyRequest} {course : Course}
    (h : q ∈ course.hops.map client.follow) : q.method ≠ "POST" := by
  obtain ⟨hop, -, rfl⟩ := List.mem_map.mp h
  exact (by decide : "GET" ≠ "POST")

theorem sent_of_arrives (client : Client) {first : ProxyRequest} (h : first.arrives = true) (course : Course) :
    client.sent first course = first :: course.hops.map client.follow :=
  if_pos h

theorem sent_of_not_arrives (client : Client) {first : ProxyRequest} (h : first.arrives = false)
    (course : Course) : client.sent first course = [] :=
  if_neg (Bool.eq_false_iff.mp h)

theorem method_of_sent {client : Client} {first q : ProxyRequest} {course : Course}
    (hfirst : first.method ≠ "POST") (h : q ∈ client.sent first course) : q.method ≠ "POST" := by
  rw [sent] at h
  split at h
  · rcases List.mem_cons.mp h with rfl | hfollowed
    · exact hfirst
    · exact method_of_follow hfollowed
  · cases h

/-- What the result of a push tells. -/
structure Tells (client : Client) (line : Line) (push : PushResult) : Prop where
  accepted : push.accepted = client.accepts line
  error : push.error.isSome = !push.accepted
  converged : push.converged = none

/-- A push has a result unless its reply is a fault. -/
theorem push_spec (client : Client) (config : Json) (line : Line) :
    (∃ fault, (client.pushReply line).pushFault? = some fault ∧
        client.push config line = (.error fault, client.pushed config line)) ∨
      (client.pushReply line).pushFault? = none ∧ ∃ push,
        client.push config line = (.ok push, client.pushed config line) ∧ client.Tells line push := by
  rw [push_eq]
  have haccepts : client.accepts line = (client.pushReply line).isAccepted := rfl
  cases hreply : client.pushReply line with
  | unreachable reason => exact Or.inr ⟨rfl, _, rfl, (by rw [haccepts, hreply]; rfl), rfl, rfl⟩
  | timedOut reason => exact Or.inr ⟨rfl, _, rfl, (by rw [haccepts, hreply]; rfl), rfl, rfl⟩
  | answered status phrase body =>
      refine Or.inr ⟨rfl, ?_⟩
      rw [pushResult]
      split
      next h => exact ⟨_, rfl, (by rw [haccepts, hreply]; exact h.symm), rfl, rfl⟩
      next h => exact ⟨_, rfl, (by rw [haccepts, hreply]; exact (Bool.not_eq_true _ ▸ h :).symm), rfl, rfl⟩
  | found body => exact Or.inr ⟨rfl, _, rfl, (by rw [haccepts, hreply]; rfl), rfl, rfl⟩
  | cutShort status phrase cut => exact Or.inl ⟨_, rfl, rfl⟩
  | stopped why => exact Or.inl ⟨_, rfl, rfl⟩

theorem confirm_eq (client : Client) (ids : List String) (line : Line) :
    client.confirm ids line =
      (conclude line.room.walks (hasRules · ids) (fun _ => false)
        (readReply line.room.reads line.proxy (client.readReplyOn line)), client.asked line) := by
  unfold confirm
  rw [active_eq]

/-- Whether rules are live is found out unless the reply is a fault. -/
theorem confirm_spec (client : Client) (ids : List String) (line : Line) :
    (∃ fault, client.readFault? line = some fault ∧
        client.confirm ids line = (.error fault, client.asked line)) ∨
      client.readFault? line = none ∧ ∃ live, client.confirm ids line = (.ok live, client.asked line) := by
  rw [confirm_eq, readFault?, Reply.readFault?_eq]
  cases hfault : line.room.fault? (readReply line.room.reads line.proxy (client.readReplyOn line)) with
  | some fault => exact Or.inl ⟨fault, rfl, by rw [conclude_of_fault hfault]⟩
  | none =>
      obtain ⟨live, hlive⟩ := exists_conclude (hasRules · ids) (fun _ => false) hfault
      exact Or.inr ⟨rfl, live, by rw [hlive]⟩

/-- The status of the control plane is told unless the reply is a fault. -/
theorem exists_status_iff (client : Client) (line : Line) :
    (∃ status, (client.status line).1 = .ok status) ↔ client.readFault? line = none := by
  unfold status
  rw [active_eq, readFault?, Reply.readFault?_eq]
  dsimp only
  cases hfault : line.room.fault? (readReply line.room.reads line.proxy (client.readReplyOn line)) with
  | some fault =>
      rw [conclude_of_fault hfault]
      exact iff_of_false (fun ⟨_, h⟩ => by cases h) (fun h => by cases h)
  | none =>
      obtain ⟨status, hstatus⟩ := exists_conclude
        (fun config => Status.reachable config.truthy config.ruleIdSet.length line.proxy.onRead.elapsed)
        (fun e => .unreachable (Text.clip maxStatusError e.text) line.proxy.onRead.elapsed) hfault
      exact iff_of_true ⟨status, hstatus⟩ rfl

end Client

namespace Settings

/-- The fault that sending a document ends in, if it does: the push is one, or the document is accepted, it is
asked whether it is live, and the answer is one. -/
def exchangeFault? (settings : Settings) (document : Json) (line : Line) : Option Fault :=
  match (settings.client.pushReply line).pushFault? with
  | some fault => some fault
  | none =>
    if settings.client.accepts line && settings.confirmPush then
      settings.client.readFault? (settings.client.pushed document line)
    else none

/-- The requests that are made for a configuration: it is sent, and if it was accepted and that is wanted, the live
one is asked for; each is followed where it is sent on to. -/
def attempts (settings : Settings) (proxy : Proxy) (config : Json) (accepted : Bool) : List ProxyRequest :=
  settings.client.sent ⟨"POST", settings.client.address Client.loadPath, settings.client.timeout,
      some configContentType, some config⟩ proxy.onPush ++
    if accepted && settings.confirmPush then
      settings.client.sent ⟨"GET", settings.client.address Client.configPath, settings.client.timeout, none, none⟩
        proxy.onRead
    else []

theorem arrives_posted (settings : Settings) (config : Json) :
    (⟨"POST", settings.client.address Client.loadPath, settings.client.timeout, some configContentType,
      some config⟩ : ProxyRequest).arrives = settings.client.arrives := by
  apply Client.arrives_of_address
  with_reducible rfl

/-- Where they lead to the proxy, the configuration is sent, then the live one is asked for, and each is followed to
the addresses it is sent on to. -/
theorem attempts_of_arrives {settings : Settings} (harrives : settings.client.arrives = true) (proxy : Proxy)
    (config : Json) (accepted : Bool) :
    settings.attempts proxy config accepted =
      ⟨"POST", settings.client.address Client.loadPath, settings.client.timeout, some configContentType,
        some config⟩ :: proxy.onPush.hops.map settings.client.follow ++
        if accepted && settings.confirmPush then
          ⟨"GET", settings.client.address Client.configPath, settings.client.timeout, none, none⟩ ::
            proxy.onRead.hops.map settings.client.follow
        else [] := by
  have hposted := settings.client.sent_of_arrives ((arrives_posted settings config).trans harrives) proxy.onPush
  have hasked := settings.client.sent_of_arrives (settings.client.arrives_readRequest.trans harrives) proxy.onRead
  unfold Client.readRequest at hasked
  rw [attempts, hposted, hasked]

/-- What is sent of a configuration begins with the configuration, and nothing else sends one. -/
theorem attempts_eq_cons {settings : Settings} (harrives : settings.client.arrives = true) (proxy : Proxy)
    (config : Json) (accepted : Bool) :
    ∃ rest, settings.attempts proxy config accepted =
        ⟨"POST", settings.client.address Client.loadPath, settings.client.timeout, some configContentType,
          some config⟩ :: rest ∧
      ∀ q ∈ rest, q.method ≠ "POST" := by
  refine ⟨_, attempts_of_arrives harrives proxy config accepted, ?_⟩
  intro q hq
  rcases List.mem_append.mp hq with hfollowed | hread
  · exact Client.method_of_follow hfollowed
  · split at hread
    · rcases List.mem_cons.mp hread with rfl | hfollowed
      · exact (by decide : "GET" ≠ "POST")
      · exact Client.method_of_follow hfollowed
    · cases hread

/-- A configuration is sent by one request. -/
theorem attempts_posts (settings : Settings) (proxy : Proxy) (config : Json) (accepted : Bool) :
    (settings.attempts proxy config accepted).filter (·.method == "POST") =
      if settings.client.arrives then
        [⟨"POST", settings.client.address Client.loadPath, settings.client.timeout, some configContentType,
          some config⟩]
      else [] := by
  by_cases harrives : settings.client.arrives = true
  · obtain ⟨rest, hattempts, hrest⟩ := attempts_eq_cons harrives proxy config accepted
    have hnone : rest.filter (·.method == "POST") = [] := by
      rw [List.filter_eq_nil_iff]
      exact fun q hq => by simpa using hrest q hq
    rw [if_pos harrives, hattempts, List.filter_cons_of_pos rfl, hnone]
  · have hnever : settings.client.arrives = false := by simpa using harrives
    have hpush := settings.client.sent_of_not_arrives ((arrives_posted settings config).trans hnever) proxy.onPush
    have hread := settings.client.sent_of_not_arrives (settings.client.arrives_readRequest.trans hnever)
      proxy.onRead
    unfold Client.readRequest at hread
    rw [if_neg harrives, attempts, hpush, hread, ite_self, List.append_nil, List.filter_nil]

end Settings

/-- What sending a registry does to the line: it is sent once. -/
structure Sent (settings : Settings) (r : Registry) (line after : Line) : Prop where
  requests : after.requests = line.requests ++
    settings.attempts line.proxy (r.compile settings).toJson (settings.client.accepts line)
  proxy : after.proxy = settings.client.proxyAfter (r.compile settings).toJson line
  elsewhere : after.elsewhere = line.elsewhere
  room : after.room = line.room

/-- A registry was sent once, and this is what came of it. -/
structure Sends (settings : Settings) (r : Registry) (line : Line) (applied : Applied)
    (after : Line) : Prop extends Sent settings r line after where
  accepted : applied.push.accepted = settings.client.accepts line
  error : applied.push.error.isSome = !applied.push.accepted
  converged : applied.push.converged.isSome = (applied.push.accepted && settings.confirmPush)

namespace World

variable {settings : Settings}

/-- Asking whether a configuration is live does not touch what the push told. -/
theorem confirmed_spec (settings : Settings) (ruleIds : List String) (push : PushResult) (w : World)
    (hpush : push.converged = none) :
    (∃ fault, (push.accepted && settings.confirmPush) = true ∧
        settings.client.readFault? w.line = some fault ∧
        confirmed settings ruleIds push w =
          (.error fault, { w with line := settings.client.asked w.line })) ∨
      ((push.accepted && settings.confirmPush) = true → settings.client.readFault? w.line = none) ∧
        ∃ converged, confirmed settings ruleIds push w =
            (.ok { push with converged := converged },
              { w with line := if push.accepted && settings.confirmPush then settings.client.asked w.line
                else w.line }) ∧
          converged.isSome = (push.accepted && settings.confirmPush) := by
  unfold confirmed exchange
  cases hwanted : push.accepted && settings.confirmPush with
  | true =>
      rcases settings.client.confirm_spec ruleIds w.line with ⟨fault, hfault, hconfirm⟩ | ⟨hnone, live, hconfirm⟩
      · exact Or.inl ⟨fault, rfl, hfault, by simp only [hconfirm, ↓reduceIte]⟩
      · exact Or.inr ⟨fun _ => hnone, some live, by simp only [hconfirm, ↓reduceIte], rfl⟩
  | false =>
      refine Or.inr ⟨nofun, none, ?_, rfl⟩
      simp only [Bool.false_eq_true, ↓reduceIte, ← hpush]

theorem apply_of_fault {r : Registry} {w : World} {fault : Fault} {sent : Line}
    (hpush : settings.client.push (r.compile settings).toJson w.line = (.error fault, sent)) :
    w.apply settings r = (.error fault, { w with line := sent }) := by
  unfold apply exchange
  simp only [hpush]

theorem apply_of_push {r : Registry} {w confirmed : World} {push : PushResult} {sent : Line}
    {result : Except Fault PushResult}
    (hpush : settings.client.push (r.compile settings).toJson w.line = (.ok push, sent))
    (hconfirmed : World.confirmed settings ((r.compile settings).routes.map (·.ruleId)) push
      { w with line := sent } = (result, confirmed)) :
    w.apply settings r =
      (result.map fun push => ⟨push, (r.compile settings).routes.length, (r.compile settings).tls.strategy⟩,
        confirmed) := by
  have hrules : (r.compile settings).toJson.serverRules settings.serverName =
      (r.compile settings).routes.map Route.toJson := (r.compile settings).serverRules_toJson
  have hids : ((r.compile settings).routes.map Route.toJson).map Json.ruleId =
      (r.compile settings).routes.map (·.ruleId) := by
    rw [List.map_map]
    rfl
  unfold apply exchange
  simp only [hpush, hrules, hids, hconfirmed, List.length_map, EdgeConfig.tlsStrategy_toJson]
  cases result <;> rfl

theorem attempts_eq (settings : Settings) (proxy : Proxy) (config : EdgeConfig) (accepted : Bool) :
    settings.attempts proxy config.toJson accepted =
      settings.client.sent (settings.client.pushRequest config.toJson) proxy.onPush ++
        if accepted && settings.confirmPush then
          settings.client.sent settings.client.readRequest proxy.onRead
        else [] := by
  have hconfig : ¬ (config.toJson == .null) = true := by simp [EdgeConfig.toJson]
  unfold Client.pushRequest Client.readRequest Settings.attempts
  rw [if_neg hconfig]

/-- The line once a registry was sent and, if it was accepted and that is wanted, the proxy was asked whether it is
live. -/
def exchanged (settings : Settings) (r : Registry) (line : Line) : Line :=
  let pushed := settings.client.pushed (r.compile settings).toJson line
  if settings.client.accepts line && settings.confirmPush then settings.client.asked pushed else pushed

theorem sent_exchanged (settings : Settings) (r : Registry) (line : Line) :
    Sent settings r line (exchanged settings r line) := by
  have hrequests : (exchanged settings r line).requests = line.requests ++
      settings.attempts line.proxy (r.compile settings).toJson (settings.client.accepts line) := by
    rw [attempts_eq, exchanged]
    split
    · simp only [Client.asked, Client.pushed, Client.onRead_proxyAfter, List.append_assoc]
    · simp only [Client.pushed, List.append_nil]
  refine ⟨hrequests, ?_, ?_, ?_⟩
  all_goals
    rw [exchanged]
    split <;> simp only [Client.asked, Client.pushed]

/-- Applying a registry sends it once; it ends in a fault exactly if one of its replies is one. -/
theorem apply_spec (settings : Settings) (r : Registry) (w : World) :
    (∃ fault after, settings.exchangeFault? (r.compile settings).toJson w.line = some fault ∧
        w.apply settings r = (.error fault, { w with line := after }) ∧ Sent settings r w.line after) ∨
      settings.exchangeFault? (r.compile settings).toJson w.line = none ∧ ∃ applied after,
        w.apply settings r = (.ok applied, { w with line := after }) ∧
          Sends settings r w.line applied after := by
  have hsent := sent_exchanged settings r w.line
  unfold Settings.exchangeFault?
  rcases settings.client.push_spec (r.compile settings).toJson w.line with
    ⟨fault, hfault, hpush⟩ | ⟨hnone, push, hpush, htells⟩
  · have hrefused : settings.client.accepts w.line = false := by
      rw [Client.accepts]
      exact Reply.isAccepted_of_pushFault? hfault
    have hexchanged : exchanged settings r w.line =
        settings.client.pushed (r.compile settings).toJson w.line := by
      rw [exchanged, hrefused, Bool.false_and]
      exact if_neg Bool.false_ne_true
    rw [hexchanged] at hsent
    exact Or.inl ⟨fault, _, by rw [hfault], apply_of_fault hpush, hsent⟩
  · rw [hnone]
    unfold exchanged at hsent
    rw [← htells.accepted] at hsent ⊢
    rcases confirmed_spec settings ((r.compile settings).routes.map (·.ruleId)) push
        { w with line := settings.client.pushed (r.compile settings).toJson w.line } htells.converged with
      ⟨fault, hwanted, hfault, hconfirmed⟩ | ⟨hnone, converged, hconfirmed, hwanted⟩
    · simp only [if_pos hwanted] at hsent
      exact Or.inl ⟨fault, _, by simp only [if_pos hwanted, hfault], apply_of_push hpush hconfirmed, hsent⟩
    · refine Or.inr ⟨?_, _, _, apply_of_push hpush hconfirmed, hsent, htells.accepted, htells.error, hwanted⟩
      by_cases hasks : (push.accepted && settings.confirmPush) = true
      · simp only [if_pos hasks, hnone hasks]
      · simp only [if_neg hasks]

end World

namespace Client

/-- What a proxy shows of a compiled document is read back without the rules that it lost. -/
theorem documentOf_shown (r : Registry) (settings : Settings) {proxy : Proxy} {room : Nat}
    (hlive : proxy.live = (r.compile settings).toJson) (hroom : Json.safeDepth ≤ room) :
    documentOf room proxy.shown = .ok ((r.compile settings).without proxy.lost).toJson := by
  have hbreak : ∀ c ∈ "\n".toList, Text.isBlank c = true := by
    intro c hc
    rw [List.mem_singleton.mp hc]
    exact Text.isBlank_of_isSpace rfl
  rw [Proxy.shown, Proxy.reported, hlive, Proxy.keep_toJson]
  exact documentOf_without r settings proxy.lost hroom .line hbreak

end Client

namespace Settings

variable {settings : Settings} {line : Line}

/-- Sending what is compiled from a registry ends in no fault, whichever registry it is. -/
def Returns (settings : Settings) (line : Line) : Prop :=
  ∀ r : Registry, settings.exchangeFault? (r.compile settings).toJson line = none

/-- A push that is not accepted is not followed by a question. -/
theorem returns_of_not_accepted (hpush : (settings.client.pushReply line).pushFault? = none)
    (haccepted : settings.client.accepts line = false) : settings.Returns line := by
  intro r
  unfold exchangeFault?
  rw [hpush, haccepted, Bool.false_and]
  exact if_neg Bool.false_ne_true

/-- After a push that a proxy accepts, the fault is that of its reply to the question, if it is asked. -/
theorem exchangeFault?_of_accepted {document : Json} (harrives : settings.client.arrives = true)
    (haccepted : line.proxy.onPush.reply.isAccepted = true) :
    settings.exchangeFault? document line =
      if settings.confirmPush then
        line.proxy.onRead.reply.readFault? line.room (settings.client.proxyAfter document line)
      else none := by
  have hpush : (settings.client.pushReply line).pushFault? = none := by
    rw [Client.pushReply_of_arrives harrives]
    cases hfault : line.proxy.onPush.reply.pushFault? with
    | none => rfl
    | some fault => cases haccepted.symm.trans (Reply.isAccepted_of_pushFault? hfault)
  have hread : settings.client.readFault? (settings.client.pushed document line) =
      line.proxy.onRead.reply.readFault? line.room (settings.client.proxyAfter document line) := by
    rw [Client.readFault?, Client.readReplyOn_of_arrives harrives, Client.pushed, Client.onRead_proxyAfter]
  unfold exchangeFault?
  rw [hpush, Client.accepts_of_arrives harrives, haccepted, Bool.true_and, hread]

/-- Where there is room, a proxy can be asked that installs what it accepts and answers with its live
configuration. -/
theorem returns_of_live {phrase : String} (harrives : settings.client.arrives = true)
    (haccepted : line.proxy.onPush.reply.isAccepted = true)
    (hread : line.proxy.onRead.reply = .answered 200 phrase none) (htakes : line.proxy.takes = true)
    (hreads : Json.safeDepth ≤ line.room.reads) (hwalks : Json.safeDepth ≤ line.room.walks) :
    settings.Returns line := by
  intro r
  have hlive : (settings.client.proxyAfter (r.compile settings).toJson line).live =
      (r.compile settings).toJson := by
    rw [Client.proxyAfter, harrives, htakes]
    rfl
  have hshown := Client.documentOf_shown r settings hlive hreads
  have hdepth := Nat.le_trans (r.depth_without_le settings
    (settings.client.proxyAfter (r.compile settings).toJson line).lost) hwalks
  have hstatus : isAccepted 200 = true := rfl
  have hplain : ((200 : Int) == 200) = true := rfl
  have hnone : line.proxy.onRead.reply.readFault? line.room
      (settings.client.proxyAfter (r.compile settings).toJson line) = none := by
    simp only [hread, Reply.readFault?, hstatus, hplain, ↓reduceIte, Option.getD_none]
    rw [hshown]
    exact if_neg (Nat.not_lt.mpr hdepth)
  rw [exchangeFault?_of_accepted harrives haccepted, hnone, ite_self]

end Settings

end EdgeProxy
