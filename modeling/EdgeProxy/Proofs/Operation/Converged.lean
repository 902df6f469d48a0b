import EdgeProxy.Proofs.Operation.Reported
/-!
Whether a change is live.  After a push that was accepted the proxy is asked for its live configuration, and the
change is told to be live exactly if no rule that was sent is missing there.  An answer that no document can be
read off is an answer without the rules, unless it is none that the protocol knows, breaks off or is nested too
deep: then nothing is told of the change, which is saved and accepted.
-/

namespace EdgeProxy

namespace Reply

/-- A reply shows a document without the list items whose identifier was lost. -/
inductive ShowsWithout (room : Room) (proxy : Proxy) (document : Json) (lost : List String) : Reply → Prop where
  | live {phrase : String} (hlive : proxy.live = document) (hlost : proxy.lost = lost) :
      ShowsWithout room proxy document lost (.answered 200 phrase none)
  | body {status : Int} {phrase : String} {body : List UInt8} (haccepted : EdgeProxy.isAccepted status = true)
      (hdocument : Client.documentOf room.reads body = .ok (Proxy.keep lost document)) :
      ShowsWithout room proxy document lost (.answered status phrase (some body))
  | found {body : List UInt8} (hdocument : Client.documentOf room.reads body = .ok (Proxy.keep lost document)) :
      ShowsWithout room proxy document lost (.found body)

/-- A reply shows no document: there is none, its status is no success, or what it comes with is not blank and no
document, as far as it is read. -/
inductive ShowsNothing (room : Room) : Reply → Prop where
  | unreachable (reason : String) : ShowsNothing room (.unreachable reason)
  | timedOut (reason : String) : ShowsNothing room (.timedOut reason)
  | refused {status : Int} {phrase : String} {body : Option (List UInt8)}
      (hrefused : EdgeProxy.isAccepted status = false) : ShowsNothing room (.answered status phrase body)
  | cutShort (status : Int) (phrase : String) (cut : Cut) : ShowsNothing room (.cutShort status phrase cut)
  | unnamed (address : String) : ShowsNothing room (.stopped (.noScheme address))
  | unasked (why : String) : ShowsNothing room (.stopped (.value why))
  | undecodable {status : Int} {phrase : String} {body : List UInt8} {reason : Text.Utf8Error}
      (hbody : Text.decode body = .error reason) : ShowsNothing room (.answered status phrase (some body))
  | malformed {status : Int} {phrase : String} {body : List UInt8} {text : String} {why : Json.ReadError}
      (hbody : Text.decode body = .ok text) (hset : (Text.trim text).isEmpty = false)
      (hroom : Json.overflows room.reads (Text.trim text) = false)
      (htext : Json.read (Text.trim text) = .error why) : ShowsNothing room (.answered status phrase (some body))

variable {room : Room} {proxy : Proxy} {reply : Reply}

/-- What is shown of a registry that was sent is read off the reply where there is room. -/
theorem ShowsWithout.readReply {r : Registry} {settings : Settings} {lost : List String}
    (h : ShowsWithout room proxy (r.compile settings).toJson lost reply)
    (hroom : Json.safeDepth ≤ room.reads) :
    Client.readReply room.reads proxy reply = .ok ((r.compile settings).without lost).toJson := by
  cases h with
  | live hlive hlost =>
      have hshown := Client.documentOf_shown r settings hlive hroom
      rw [hlost] at hshown
      exact hshown
  | body haccepted hdocument =>
      rw [← Proxy.keep_toJson, ← hdocument]
      simp [Client.readReply, haccepted]
  | found hdocument => rw [← Proxy.keep_toJson, ← hdocument, Client.readReply]

theorem ShowsNothing.readReply (h : ShowsNothing room reply) (proxy : Proxy) :
    ∃ e, Client.readReply room.reads proxy reply = .error e ∧ e.fault? = none := by
  cases h with
  | unreachable reason => exact ⟨_, rfl, rfl⟩
  | timedOut reason => exact ⟨_, rfl, rfl⟩
  | refused hrefused => exact ⟨_, by rw [Client.readReply, hrefused]; rfl, rfl⟩
  | cutShort status phrase cut => exact ⟨_, rfl, rfl⟩
  | unnamed address => exact ⟨_, rfl, rfl⟩
  | unasked why => exact ⟨_, rfl, rfl⟩
  | @undecodable status _ _ reason hbody =>
      cases haccepted : EdgeProxy.isAccepted status with
      | false => exact ⟨_, by rw [Client.readReply, haccepted]; rfl, rfl⟩
      | true =>
          have hdocument := Client.documentOf_of_undecodable room.reads hbody
          exact ⟨_, by rw [Client.readReply, haccepted]; exact hdocument, rfl⟩
  | @malformed status _ _ _ why hbody hset hroom htext =>
      cases haccepted : EdgeProxy.isAccepted status with
      | false => exact ⟨_, by rw [Client.readReply, haccepted]; rfl, rfl⟩
      | true =>
          obtain ⟨e, hdocument, hexpected⟩ := Client.documentOf_of_malformed hbody hset hroom htext
          exact ⟨e, by rw [Client.readReply, haccepted]; exact hdocument, hexpected⟩

end Reply

/-- Whether the live configuration has the rules that were sent, as far as it can be read. -/
def Client.confirms (ruleIds : List String) : Except ExchangeError Json → Bool
  | .ok config => hasRules config ruleIds
  | .error _ => false

/-- After a push the proxy is asked in the state that the push left it in. -/
theorem Client.confirm_pushed (client : Client) (document : Json) (ruleIds : List String) (line : Line) :
    client.confirm ruleIds (client.pushed document line) =
      (conclude line.room.walks (hasRules · ruleIds) (fun _ => false)
        (readReply line.room.reads (client.proxyAfter document line) (client.readReplyOn line)),
        client.asked (client.pushed document line)) := by
  have hreply : client.readReplyOn (client.pushed document line) = client.readReplyOn line := by
    unfold readReplyOn Line.reply pushed
    rw [onRead_proxyAfter]
  rw [confirm_eq, hreply, pushed]

namespace World

variable {settings : Settings} {w : World}

theorem confirmed_of_wanted {push : PushResult} (hwanted : (push.accepted && settings.confirmPush) = true)
    {ruleIds : List String} {live : Except Fault Bool} {after : Line}
    (hconfirm : settings.client.confirm ruleIds w.line = (live, after)) :
    confirmed settings ruleIds push w =
      (live.map fun b => { push with converged := some b }, { w with line := after }) := by
  rw [confirmed, if_pos hwanted, exchange, hconfirm]
  cases live <;> rfl

/-- What applying a registry comes to where its push is accepted and it is asked whether it is live. -/
theorem apply_of_accepted {r : Registry} (haccepts : settings.client.accepts w.line = true)
    (hconfirm : settings.confirmPush = true) {answer : Except ExchangeError Json}
    (hanswer : Client.readReply w.line.room.reads (settings.client.proxyAfter (r.compile settings).toJson w.line)
      (settings.client.readReplyOn w.line) = answer) :
    (∀ fault, w.line.room.fault? answer = some fault → ∃ after, w.apply settings r = (.error fault, after)) ∧
      (w.line.room.fault? answer = none → ∃ applied after, w.apply settings r = (.ok applied, after) ∧
        applied.push.accepted = true ∧
        applied.push.converged = some (Client.confirms ((r.routes settings).map (·.ruleId)) answer)) := by
  rcases settings.client.push_spec (r.compile settings).toJson w.line with
    ⟨fault, hfault, -⟩ | ⟨-, push, hpush, htells⟩
  · cases (Reply.isAccepted_of_pushFault? hfault).symm.trans haccepts
  · have hpushed : push.accepted = true := htells.accepted.trans haccepts
    have hwanted : (push.accepted && settings.confirmPush) = true := by rw [hpushed, hconfirm]; rfl
    have hconfirmed := settings.client.confirm_pushed (r.compile settings).toJson
      ((r.compile settings).routes.map (·.ruleId)) w.line
    rw [hanswer] at hconfirmed
    have hrun := confirmed_of_wanted (w := { w with
      line := settings.client.pushed (r.compile settings).toJson w.line }) hwanted hconfirmed
    have happly := apply_of_push hpush hrun
    constructor
    · intro fault hfault
      rw [Client.conclude_of_fault hfault] at happly
      exact ⟨_, happly⟩
    · intro hnone
      have hlive : Client.conclude w.line.room.walks
          (Client.hasRules · ((r.compile settings).routes.map (·.ruleId))) (fun _ => false) answer =
            .ok (Client.confirms ((r.routes settings).map (·.ruleId)) answer) := by
        cases answer with
        | ok config => exact Client.conclude_ok hnone
        | error e => exact Client.conclude_error hnone
      rw [hlive] at happly
      exact ⟨_, _, happly, hpushed, rfl⟩

end World

namespace Answer

theorem get?_applied (message : Option String) (subject : Subject) {applied : Applied}
    (haccepted : applied.push.accepted = true) :
    Fields.get? (saved message subject applied).fields "applied" = some (.bool true) := by
  have happlied : subject.key ≠ "applied" := by cases subject <;> simp [Subject.key]
  rw [get?_saved message applied (by decide) (by decide) happlied]
  simp [applyFields, Fields.get?, haccepted]

theorem get?_converged (message : Option String) (subject : Subject) {applied : Applied} {live : Bool}
    (haccepted : applied.push.accepted = true) (hconverged : applied.push.converged = some live) :
    Fields.get? (saved message subject applied).fields "converged" = some (.bool live) := by
  have hkey : subject.key ≠ "converged" := by cases subject <;> simp [Subject.key]
  rw [get?_saved message applied (by decide) (by decide) hkey]
  simp [applyFields, Fields.get?, haccepted, hconverged]

end Answer

/-- A result that tells of a change whether it is live. -/
def ToldLive (result : Result) (live : Prop) : Prop :=
  ∃ answer b, result = .ok answer ∧ Fields.get? answer.fields "applied" = some (.bool true) ∧
    Fields.get? answer.fields "converged" = some (.bool b) ∧ (b = true ↔ live)

theorem ToldLive.congr {result : Result} {live live' : Prop} (h : ToldLive result live) (hiff : live ↔ live') :
    ToldLive result live' := by
  obtain ⟨answer, b, hresult, happlied, hconverged, hb⟩ := h
  exact ⟨answer, b, hresult, happlied, hconverged, hb.trans hiff⟩

theorem ToldLive.ne_error {result : Result} {live : Prop} (h : ToldLive result live) (fault : Fault) :
    result ≠ .error fault := by
  obtain ⟨answer, b, rfl, -⟩ := h
  exact fun heq => by cases heq

/-- What becomes of a change that was saved and whose push was accepted, by the reply to the question for the live
configuration. -/
structure World.Confirms (settings : Settings) (w : World) (saved : Registry) (result : Result) : Prop where
  live : ∀ lost, Reply.ShowsWithout w.line.room
      (settings.client.proxyAfter (saved.compile settings).toJson w.line) (saved.compile settings).toJson lost
      (settings.client.readReplyOn w.line) →
    Json.safeDepth ≤ w.line.room.reads → Json.safeDepth ≤ w.line.room.walks →
      ToldLive result (∀ route ∈ saved.routes settings, route.ruleId ∉ lost)
  silent : Reply.ShowsNothing w.line.room (settings.client.readReplyOn w.line) → ToldLive result False
  told_iff : (∃ live, ToldLive result live) ↔ (settings.client.readReplyOn w.line).readFault? w.line.room
      (settings.client.proxyAfter (saved.compile settings).toJson w.line) = none
  fault_iff : ∀ fault, result = .error fault ↔ (settings.client.readReplyOn w.line).readFault? w.line.room
      (settings.client.proxyAfter (saved.compile settings).toJson w.line) = some fault

namespace Operation

variable {settings : Settings} {op : Operation} {w written : World} {loaded saved : Registry} {subject : Subject}

/-- A change whose push is accepted ends in a fault or tells what the reply to the question shows. -/
theorem Saves.run_of_accepted (h : op.Saves settings w loaded subject saved written)
    (haccepts : settings.client.accepts w.line = true) (hconfirm : settings.confirmPush = true)
    {answer : Except ExchangeError Json}
    (hanswer : Client.readReply w.line.room.reads
      (settings.client.proxyAfter (saved.compile settings).toJson w.line) (settings.client.readReplyOn w.line) =
        answer) :
    (∀ fault, w.line.room.fault? answer = some fault → (op.run settings w).1 = .error fault) ∧
      (w.line.room.fault? answer = none → ToldLive (op.run settings w).1
        (Client.confirms ((saved.routes settings).map (·.ruleId)) answer = true)) := by
  obtain ⟨message, hruns⟩ := h.run_eq
  have hrun : op.run settings w = written.announce settings message subject saved := hruns settings.adminUrl
  rw [← h.line_eq] at haccepts hanswer ⊢
  obtain ⟨hfaults, hok⟩ := World.apply_of_accepted haccepts hconfirm hanswer
  rw [hrun]
  unfold World.announce
  constructor
  · intro fault hfault
    obtain ⟨after, happly⟩ := hfaults fault hfault
    rw [happly]
  · intro hnone
    obtain ⟨applied, after, happly, haccepted, hconverged⟩ := hok hnone
    rw [happly]
    exact ⟨_, _, rfl, Answer.get?_applied message subject haccepted,
      Answer.get?_converged message subject haccepted hconverged, Iff.rfl⟩

end Operation

namespace World

/-- The identifiers in a compiled document are those of its routes, whatever texts it is made of; what a proxy
keeps of it arrives as it was sent; and a change that was saved and whose push was accepted is told to be live
exactly if the proxy has all rules that were sent, and not to be if the proxy shows no document.  Nothing is told,
and the run ends in a fault, exactly if the reply is none that the protocol knows, breaks off or is nested deeper
than there is room for. -/
theorem convergence_check_is_exact_iff (settings : Settings) :
    (∀ r : Registry, (r.compile settings).toJson.ruleIds = (r.routes settings).map (·.ruleId)) ∧
      (∀ (r : Registry) (lost : List String) (room : Nat) (style : Json.Style) (blanks : String),
        Json.safeDepth ≤ room → (∀ c ∈ blanks.toList, Text.isBlank c = true) →
          Client.documentOf room (Text.encode
              ((Proxy.keep lost (r.compile settings).toJson).render style ++ blanks)) =
            .ok (Proxy.keep lost (r.compile settings).toJson)) ∧
      ∀ (op : Operation) (w written : World) (loaded saved : Registry) (subject : Subject),
        op.Saves settings w loaded subject saved written → settings.confirmPush = true →
        settings.client.accepts w.line = true → Confirms settings w saved (op.run settings w).1 := by
  refine ⟨fun r => (r.compile settings).ruleIds_toJson, fun r lost room style blanks hroom hblanks => ?_, ?_⟩
  · rw [Proxy.keep_toJson]
    exact Client.documentOf_without r settings lost hroom style hblanks
  · intro op w written loaded saved subject hsaves hconfirm haccepts
    obtain ⟨hfaults, htold⟩ := hsaves.run_of_accepted haccepts hconfirm rfl
    have hfault := Reply.readFault?_eq w.line.room
      (settings.client.proxyAfter (saved.compile settings).toJson w.line) (settings.client.readReplyOn w.line)
    rw [← hfault] at hfaults htold
    refine ⟨fun lost hshows hreads hwalks => ?_, fun hnothing => ?_, ?_, fun fault => ?_⟩
    · have hdepth := Nat.le_trans (saved.depth_without_le settings lost) hwalks
      rw [hfault, hshows.readReply hreads] at htold
      refine (htold (if_neg (Nat.not_lt.mpr hdepth))).congr ?_
      rw [Client.confirms, ← Proxy.keep_toJson]
      exact Client.hasRules_keep_iff (saved.compile settings) lost
    · obtain ⟨e, hread, hexpected⟩ :=
        hnothing.readReply (settings.client.proxyAfter (saved.compile settings).toJson w.line)
      rw [hfault, hread] at htold
      exact (htold hexpected).congr (iff_of_false Bool.false_ne_true id)
    · refine ⟨fun ⟨live, hlive⟩ => ?_, fun hnone => ⟨_, htold hnone⟩⟩
      by_contra hsome
      obtain ⟨fault, hsome⟩ := Option.ne_none_iff_exists'.mp hsome
      exact hlive.ne_error fault (hfaults fault hsome)
    · refine ⟨fun hresult => ?_, hfaults fault⟩
      cases hreply : (settings.client.readReplyOn w.line).readFault? w.line.room
          (settings.client.proxyAfter (saved.compile settings).toJson w.line) with
      | none => exact absurd hresult ((htold hreply).ne_error fault)
      | some fault' => rw [← Except.error.inj ((hfaults fault' hreply).symm.trans hresult)]

end World

theorem ToldLive.get?_converged {result : Result} {live : Prop} {b : Bool} (h : ToldLive result live)
    (hb : b = true ↔ live) :
    ∃ answer, result = .ok answer ∧ Fields.get? answer.fields "converged" = some (.bool b) := by
  obtain ⟨answer, b', hresult, -, hconverged, hb'⟩ := h
  rw [Bool.eq_iff_iff.mpr (hb.trans hb'.symm)]
  exact ⟨answer, hresult, hconverged⟩

namespace FirstDomain

/-- A proxy that installs everything and answers to the question for its live configuration as it is told. -/
def line (onRead : Reply) (lost : List String) : Line :=
  { World.empty.line with proxy := ⟨.good, .straight onRead, true, lost, .null⟩ }

theorem accepts_line (onRead : Reply) (lost : List String) :
    Settings.standard.client.accepts (line onRead lost) = true := by
  rw [Client.accepts_of_arrives World.standard_arrives]
  rfl

theorem readReplyOn_line (onRead : Reply) (lost : List String) :
    Settings.standard.client.readReplyOn (line onRead lost) = onRead := by
  rw [Client.readReplyOn_of_arrives World.standard_arrives]
  rfl

/-- The proxy shows what it was sent without the rules that it loses. -/
theorem showsWithout_line (document : Json) (lost : List String) :
    Reply.ShowsWithout (line (.answered 200 "" none) lost).room
      (Settings.standard.client.proxyAfter document (line (.answered 200 "" none) lost)) document lost
      (Settings.standard.client.readReplyOn (line (.answered 200 "" none) lost)) := by
  rw [readReplyOn_line, Client.proxyAfter, World.standard_arrives]
  exact .live rfl rfl

theorem ruleIds_registry :
    ((Store.advance registry).routes .standard).map (·.ruleId) = [dashboardRule, portalRule] := rfl

end FirstDomain

namespace World

/-- The base domain is set: with a proxy that keeps both rules, with one that loses the rule of the portal, with one
that does not answer when it is asked, and with one whose answer breaks off. -/
theorem convergence_check_is_exact_iff_first_domain :
    (∃ answer, ((Operation.setBaseDomain (.str "example.org")).run .standard
        { empty with line := FirstDomain.line (.answered 200 "" none) [] }).1 = .ok answer ∧
        Fields.get? answer.fields "converged" = some (.bool true)) ∧
      (∃ answer, ((Operation.setBaseDomain (.str "example.org")).run .standard
        { empty with line := FirstDomain.line (.answered 200 "" none) [portalRule] }).1 = .ok answer ∧
        Fields.get? answer.fields "converged" = some (.bool false)) ∧
      (∃ answer, ((Operation.setBaseDomain (.str "example.org")).run .standard
        { empty with line := FirstDomain.line (.unreachable "refused") [] }).1 = .ok answer ∧
        Fields.get? answer.fields "converged" = some (.bool false)) ∧
      ((Operation.setBaseDomain (.str "example.org")).run .standard
        { empty with line := FirstDomain.line (.stopped .protocol) [] }).1 = .error .offProtocol := by
  obtain ⟨written, hsaves⟩ := FirstDomain.saves Settings.standard.adminUrl
  have hconfirms (onRead : Reply) (lost : List String) := (convergence_check_is_exact_iff .standard).2.2 _ _ _ _ _ _
    (hsaves.onLine (FirstDomain.line onRead lost)) rfl (FirstDomain.accepts_line onRead lost)
  have hids := FirstDomain.ruleIds_registry
  refine ⟨?_, ?_, ?_, ?_⟩
  · have htold := (hconfirms (.answered 200 "" none) []).live [] (FirstDomain.showsWithout_line _ []) (Nat.le_refl _)
      (Nat.le_refl _)
    exact htold.get?_converged (by simp)
  · have htold := (hconfirms (.answered 200 "" none) [portalRule]).live [portalRule]
      (FirstDomain.showsWithout_line _ [portalRule]) (Nat.le_refl _) (Nat.le_refl _)
    refine htold.get?_converged ⟨nofun, fun hkept => ?_⟩
    have hportal : portalRule ∈ ((Store.advance FirstDomain.registry).routes .standard).map (·.ruleId) := by
      rw [hids]
      exact List.mem_cons_of_mem _ List.mem_cons_self
    obtain ⟨route, hroute, hid⟩ := List.mem_map.mp hportal
    exact absurd (hid ▸ List.mem_cons_self) (hkept route hroute)
  · have hnothing : Reply.ShowsNothing Room.safe (Settings.standard.client.readReplyOn
        (FirstDomain.line (.unreachable "refused") [])) := by
      rw [FirstDomain.readReplyOn_line]
      exact .unreachable "refused"
    exact ((hconfirms (.unreachable "refused") []).silent hnothing).get?_converged (by simp)
  · apply ((hconfirms (.stopped .protocol) []).fault_iff .offProtocol).mpr
    dsimp only
    rw [FirstDomain.readReplyOn_line]
    rfl

/-- A proxy that answers to the question for its live configuration with more lists in lists than there is room
for. -/
def nesting (room : Nat) : Line :=
  { FirstDomain.line (.answered 200 "" (some (Text.encode (Client.opened room)))) [] with room := ⟨room, room⟩ }

theorem readReply_nesting (room : Nat) (proxy : Proxy) :
    Client.readReply (nesting room).room.reads proxy (nesting room).proxy.onRead.reply = .error .tooDeep :=
  Client.documentOf_opened room

/-- Changes that are accepted and have no answer: the reply to the question whether they are live is none that the
protocol knows, or is nested too deep. -/
theorem accepted_changes_without_answer :
    (Settings.standard.confirmPush = true ∧ Settings.standard.client.accepts garbling = true ∧
        ((Operation.setBaseDomain (.str "example.org")).run .standard { empty with line := garbling }).1 =
          .error .offProtocol) ∧
      Settings.standard.client.accepts (nesting 950) = true ∧
        ((Operation.setBaseDomain (.str "example.org")).run .standard { empty with line := nesting 950 }).1 =
          .error .tooDeep := by
  obtain ⟨written, hsaves⟩ := FirstDomain.saves Settings.standard.adminUrl
  have haccepts (line : Line) (h : line.proxy.onPush.reply.isAccepted = true) :
      Settings.standard.client.accepts line = true :=
    (Client.accepts_of_arrives standard_arrives line).trans h
  have hfault (line : Line) {answer : Except ExchangeError Json} {fault : Fault}
      (h : line.proxy.onPush.reply.isAccepted = true)
      (hreply : Client.readReply line.room.reads (Settings.standard.client.proxyAfter
        ((Store.advance FirstDomain.registry).compile .standard).toJson line) line.proxy.onRead.reply = answer)
      (hanswer : line.room.fault? answer = some fault) :
      ((Operation.setBaseDomain (.str "example.org")).run .standard { empty with line := line }).1 = .error fault := by
    rw [← Client.readReplyOn_of_arrives standard_arrives line] at hreply
    exact ((hsaves.onLine line).run_of_accepted (haccepts line h) rfl hreply).1 fault hanswer
  refine ⟨⟨rfl, haccepts _ rfl, ?_⟩, haccepts _ rfl, ?_⟩
  · exact hfault garbling rfl rfl rfl
  · exact hfault (nesting 950) rfl (readReply_nesting 950 _) rfl

end World

end EdgeProxy
