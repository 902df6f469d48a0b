import EdgeProxy.Proofs.Edge.Declared
/-!
What comes of compiled handlers.
-/

namespace EdgeProxy.Edge

variable {visit : Visit} {next : Option Outcome}

theorem handlers_nil : handlers visit next [] = next := by
  rw [handlers]

theorem handlers_secure (policy : String) (rest : List Json) :
    handlers visit next ((Handler.secure policy).toJson :: rest) = handlers visit next rest := by
  rw [Handler.toJson, handlers]
  simp [Fields.get?]

theorem handlers_respond (status : Nat) (rest : List Json) :
    handlers visit next ((Handler.respond status).toJson :: rest) =
      some ⟨[], .own status none⟩ := by
  rw [Handler.toJson, handlers]
  simp [Fields.get?, ownAnswer?, Fields.valueOf, Fields.listed, Json.fields, Json.items]

theorem handlers_forward (address : String) (rest : List Json) :
    handlers visit next ((Handler.forward address).toJson :: rest) =
      some (.relay ⟨address, none⟩) := by
  rw [Handler.toJson, handlers]
  simp [Fields.get?, contact?, Fields.valueOf, Fields.listed, Json.fields, Json.items,
    Handler.backends, replies, Outcome.relay, Outcome.after]

theorem handlers_subroute (branches : List Branch) (rest : List Json) :
    handlers visit next ((Handler.subroute branches).toJson :: rest) =
      rules visit (handlers visit next rest) (branchesJson branches) := by
  rw [Handler.toJson, handlers]
  simp [Fields.get?, Fields.valueOf, Fields.listed, Json.items]

def conditionFits? (visit : Visit) (condition : Condition) : Option Bool :=
  match condition.toJson? with
  | some matchers => anyFits? visit matchers.items
  | none => some true

/-- A branch that a request fits is gone through, another one is passed over. -/
theorem rules_branch {condition : Condition} {fits : Bool}
    (h : conditionFits? visit condition = some fits) (inner : List Handler) (exclusive : Bool)
    (rest : List Json) :
    rules visit next ((Branch.mk condition inner exclusive).toJson :: rest) =
      if fits then
        handlers visit (if exclusive then some .nothing else rules visit next rest)
          (handlersJson inner)
      else rules visit next rest := by
  rw [Branch.toJson, rules]
  have hrule : ruleFits? visit ((condition.toJson?.map fun m => ("match", m)).toList ++
      [("handle", .arr (handlersJson inner))] ++
      (if exclusive then [("terminal", .bool true)] else [])) = some fits := by
    rw [← h, conditionFits?]
    cases condition.toJson? with
    | none => cases exclusive <;> simp [ruleFits?, Fields.has, Fields.get?]
    | some matchers =>
        simp [ruleFits?, Fields.has, Fields.get?, Fields.listed, Fields.valueOf]
  have hinner : Fields.listed ((condition.toJson?.map fun m => ("match", m)).toList ++
      [("handle", .arr (handlersJson inner))] ++
      (if exclusive then [("terminal", .bool true)] else [])) "handle" = handlersJson inner := by
    cases condition.toJson? <;> simp [Fields.get?, Fields.listed, Fields.valueOf, Json.items]
  have hterminal : (Fields.get? ((condition.toJson?.map fun m => ("match", m)).toList ++
      [("handle", .arr (handlersJson inner))] ++
      (if exclusive then [("terminal", .bool true)] else [])) "terminal" = some (.bool true)) ↔
        exclusive = true := by
    cases condition.toJson? <;> cases exclusive <;> simp [Fields.get?]
  simp only [hrule, hinner, hterminal]
  cases fits <;> rfl

theorem conditionFits?_always : conditionFits? visit .always = some true := rfl

theorem headersFit_single (headers : List (String × String)) (name wanted : String) :
    headersFit headers [(name, .texts [wanted])] = true ↔
      ∃ header ∈ headers, Text.lower header.1 = Text.lower name ∧
        (wanted = "*" ∨ wanted = header.2) := by
  simp [headersFit, sameText, valueFits, Json.texts, Json.items]

/-- The condition on web sockets is met by requests that ask for one. -/
theorem conditionFits?_webSocket (visit : Visit) :
    ∃ fits, conditionFits? visit .webSocket = some fits ∧ (fits = true ↔ visit.AsksWebSocket) := by
  refine ⟨headersFit visit.headers [("Upgrade", .texts ["websocket"])], ?_, ?_⟩
  · simp [conditionFits?, Condition.toJson?, anyFits?, setFits?, matcherFits?, Json.items,
      Json.fields]
  · rw [headersFit_single]
    constructor
    · rintro ⟨⟨name, value⟩, hmem, hname, hvalue⟩
      rcases hvalue with hstar | rfl
      · exact absurd hstar (by decide)
      · exact ⟨_, rfl, name, hmem, hname⟩
    · rintro ⟨value, rfl, name, hmem, hname⟩
      exact ⟨(name, "websocket"), hmem, hname, Or.inr rfl⟩

theorem callerFits?_map {ranges : List String} {networks : List Range}
    (h : ranges.map Range.ofText? = networks.map some) (client : Address) :
    callerFits? client (ranges.map .str) = some (networks.any (·.contains client)) := by
  induction ranges generalizing networks with
  | nil =>
      cases networks with
      | nil => rfl
      | cons network rest => simp at h
  | cons s ranges ih =>
      cases networks with
      | nil => simp at h
      | cons network rest =>
          simp only [List.map_cons, List.cons.injEq] at h
          simp [callerFits?, h.1, ih h.2]

/-- The condition on private networks is met by callers with a private address. -/
theorem conditionFits?_privateRanges (visit : Visit) :
    ∃ fits, conditionFits? visit (.callerIn privateRanges) = some fits ∧
      (fits = true ↔ visit.client.IsPrivate) := by
  refine ⟨privateNetworks.any (·.contains visit.client), ?_, any_privateNetworks _⟩
  have hcaller := callerFits?_map ofText?_privateRanges visit.client
  simp [conditionFits?, Condition.toJson?, anyFits?, setFits?, matcherFits?, Json.items,
    Json.fields, Json.texts, Fields.listed, Fields.valueOf, Fields.get?, hcaller]

section Authenticate

variable {service path login : String} {rest : List Json}

theorem statusFits_class (status : Nat) (hdigits : 100 ≤ status) :
    statusFits status (.int 2) = true ↔ 200 ≤ status ∧ status < 300 := by
  simp only [statusFits, Bool.or_eq_true, Bool.and_eq_true, beq_iff_eq, decide_eq_true_eq]
  omega

theorem statusFits_denied (status : Nat) :
    Handler.deniedStatuses.items.any (statusFits status) = true ↔ status = 401 ∨ status = 403 := by
  simp only [Handler.deniedStatuses, Json.items, List.any_cons, List.any_nil, statusFits,
    Bool.or_false, Bool.or_eq_true, Bool.and_eq_true, beq_iff_eq, decide_eq_true_eq]
  omega

theorem headersFit_login (reply : Reply) :
    headersFit reply.headers [(redirectHeader, .texts ["*"])] = true ↔ reply.GivesLogin := by
  rw [headersFit_single]
  simp [Reply.GivesLogin]

/-- What comes of a question to the authentication service is what comes of the cases for its
answer. -/
theorem handlers_authenticate :
    handlers visit next ((Handler.authenticate service path login).toJson :: rest) =
      (replies visit (handlers visit next rest) ⟨service, some path⟩
        (Handler.authenticationAnswers login).items).map (.after ⟨service, some path⟩) := by
  rw [Handler.toJson, handlers]
  simp [Fields.get?, contact?, Fields.valueOf, Fields.listed, Json.fields, Json.items,
    Handler.backends, Handler.authenticationAnswers]

theorem rules_oneBranch (handler : Json) :
    rules visit next (Handler.oneBranch handler).items = handlers visit next [handler] := by
  rw [Handler.oneBranch, Json.items, rules, rules]
  simp [ruleFits?, Fields.has, Fields.get?, Fields.listed, Fields.valueOf, Json.items]

/-- A case that an answer fits is gone through, another one is passed over. -/
theorem replies_case {contact : Contact} {matchers : Fields} {fits : Bool}
    (h : replyFits? (visit.reply contact) matchers = some fits) (handler : Json)
    (rest : List Json) :
    replies visit next contact
        (.obj [("match", .obj matchers), ("routes", Handler.oneBranch handler)] :: rest) =
      if fits then handlers visit next [handler] else replies visit next contact rest := by
  have hmatch : Fields.valueOf [("match", .obj matchers), ("routes", Handler.oneBranch handler)]
      "match" = .obj matchers := by
    simp [Fields.valueOf, Fields.get?]
  have hroutes : Fields.listed [("match", .obj matchers), ("routes", Handler.oneBranch handler)]
      "routes" = (Handler.oneBranch handler).items := by
    simp [Fields.listed, Fields.valueOf, Fields.get?]
  rw [replies]
  simp only [hmatch, Json.fields, h, hroutes, rules_oneBranch]
  cases fits <;> rfl

theorem handlers_headers (fields : Fields) :
    handlers visit next [.obj (("handler", .str "headers") :: fields)] = next := by
  rw [handlers, handlers_nil]
  simp [Fields.get?]

theorem handlers_redirect (location : String) :
    handlers visit next [Handler.redirect location] = some ⟨[], .own 302 (some location)⟩ := by
  rw [Handler.redirect, handlers]
  simp [Fields.get?, ownAnswer?, Fields.valueOf, Fields.listed, Json.fields, Json.items,
    Handler.headerFields, Json.texts]

/-- What comes of an answer of the authentication service. -/
theorem replies_authenticationAnswers (contact : Contact) (login : String) :
    replies visit next contact (Handler.authenticationAnswers login).items =
      if statusFits (visit.reply contact).status (.int 2) then next
      else if Handler.deniedStatuses.items.any (statusFits (visit.reply contact).status) then
        some ⟨[], .own 302 (some
          (if headersFit (visit.reply contact).headers [(redirectHeader, .texts ["*"])] then
            placeholder ("http.reverse_proxy.header." ++ redirectHeader)
          else login))⟩
      else some ⟨[], .relayed contact⟩ := by
  have hgood : replyFits? (visit.reply contact) [("status_code", .arr [.int 2])] =
      some (statusFits (visit.reply contact).status (.int 2)) := by
    simp [replyFits?, Json.items]
  have hdenied : replyFits? (visit.reply contact) [("status_code", Handler.deniedStatuses)] =
      some (Handler.deniedStatuses.items.any (statusFits (visit.reply contact).status)) := by
    simp [replyFits?]
  have hlogin : replyFits? (visit.reply contact) [("status_code", Handler.deniedStatuses),
        ("headers", .obj [(redirectHeader, .texts ["*"])])] =
      some (Handler.deniedStatuses.items.any (statusFits (visit.reply contact).status) &&
        headersFit (visit.reply contact).headers [(redirectHeader, .texts ["*"])]) := by
    simp [replyFits?, Json.fields]
  rw [Handler.authenticationAnswers, Json.items, replies_case hgood, replies_case hlogin,
    replies_case hdenied, replies, handlers_headers, handlers_redirect, handlers_redirect]
  cases Handler.deniedStatuses.items.any (statusFits (visit.reply contact).status) <;>
    cases headersFit (visit.reply contact).headers [(redirectHeader, .texts ["*"])] <;> rfl

end Authenticate

variable {settings : Settings} {base : String} {backend : Backend}

/-- Asking the authentication service before a request is passed on does what is declared of a
backend behind it. -/
theorem handlers_authenticated :
    ∃ o, handlers visit next
        (handlersJson [Route.authenticate settings base, .forward backend.address]) = some o ∧
      Guarded settings base visit backend o := by
  have hstatus := statusFits_class _ (visit.reply (inquiry settings)).digits.1
  have hdenied := statusFits_denied (visit.reply (inquiry settings)).status
  have hlogin := headersFit_login (visit.reply (inquiry settings))
  have hreplies : handlers visit next
      (handlersJson [Route.authenticate settings base, .forward backend.address]) =
        (replies visit (some (.relay (upstream backend))) (inquiry settings)
          (Handler.authenticationAnswers
            (Route.loginUrl base Route.returnAddress)).items).map (.after (inquiry settings)) := by
    rw [handlersJson, handlersJson, Route.authenticate, handlers_authenticate, handlers_forward]
    rfl
  rw [hreplies, replies_authenticationAnswers]
  split
  next h => exact ⟨_, rfl, .admitted (hstatus.mp h)⟩
  next h =>
    have hnot := fun good => h (hstatus.mpr good)
    split
    next h' =>
      split
      next h'' => exact ⟨_, rfl, .sentToLogin (hdenied.mp h') (hlogin.mp h'')⟩
      next h'' =>
        exact ⟨_, rfl, .sentToPortal (hdenied.mp h') fun gives => h'' (hlogin.mpr gives)⟩
    next h' =>
      exact ⟨_, rfl, .turnedAway hnot (fun h'' => h' (hdenied.mpr (Or.inl h'')))
        (fun h'' => h' (hdenied.mpr (Or.inr h'')))⟩

theorem holds_iff (part cs : List Char) : Text.holds part cs = true ↔ part <:+: cs := by
  induction cs with
  | nil => simp [Text.holds]
  | cons c rest ih => simp [Text.holds, ih, List.infix_cons_iff]

theorem isDevelopment_iff (environment : Option Environment) :
    Route.isDevelopment (environment.map (·.id)) = true ↔ IsDevelopment environment := by
  cases environment with
  | none => simp [Route.isDevelopment, IsDevelopment]
  | some e => simp [Route.isDevelopment, IsDevelopment, Text.contains, holds_iff]

/-- A backend behind the authentication service is served as declared to a caller that is let through
to it. -/
theorem handlers_guarded {environment : Option Environment} (hauth : backend.requireAuth = true)
    (hlocal : backend.localOnly = true → visit.client.IsPrivate) :
    ∃ o, handlers visit next
        [(Route.guarded settings base backend.address (environment.map (·.id))).toJson] = some o ∧
      Serves settings base visit backend environment o := by
  obtain ⟨o, ho, hguarded⟩ : ∃ o, handlers visit next
      (handlersJson [Route.authenticate settings base, .forward backend.address]) = some o ∧
        Guarded settings base visit backend o := handlers_authenticated
  have hasked : rules visit next (branchesJson
      [.mk .always [Route.authenticate settings base, .forward backend.address] false]) =
        some o := by
    rw [branchesJson, branchesJson, rules_branch conditionFits?_always, rules]
    exact ho
  rw [Route.guarded, handlers_subroute, handlers_nil, Route.webSocketBranches]
  by_cases hdevelopment : IsDevelopment environment
  · obtain ⟨fits, hfits, hsocket⟩ := conditionFits?_webSocket visit
    rw [if_pos ((isDevelopment_iff environment).mpr hdevelopment), List.singleton_append,
      branchesJson, rules_branch hfits, hasked]
    cases fits with
    | true =>
        refine ⟨.relay (upstream backend), ?_,
          .webSocket hlocal hauth hdevelopment (hsocket.mp rfl)⟩
        rw [if_pos rfl, handlersJson, handlers_forward]
        rfl
    | false =>
        refine ⟨o, rfl, .guarded hlocal hauth ?_ hguarded⟩
        rintro ⟨-, hasks⟩
        exact absurd (hsocket.mpr hasks) Bool.false_ne_true
  · have hnot : ¬ Route.isDevelopment (environment.map (·.id)) = true :=
      fun h => hdevelopment ((isDevelopment_iff environment).mp h)
    rw [if_neg hnot, List.nil_append]
    exact ⟨o, hasked, .guarded hlocal hauth (fun h => hdevelopment h.1) hguarded⟩

/-- What stands behind the check of the caller's address serves as declared. -/
theorem handlers_inner {environment : Option Environment}
    (hlocal : backend.localOnly = true → visit.client.IsPrivate) :
    ∃ o, handlers visit next
        [(if backend.requireAuth then
          Route.guarded settings base backend.address (environment.map (·.id))
          else Handler.forward backend.address).toJson] = some o ∧
      Serves settings base visit backend environment o := by
  cases hauth : backend.requireAuth with
  | true => exact handlers_guarded hauth hlocal
  | false =>
      refine ⟨.relay (upstream backend), ?_, .free hlocal hauth⟩
      rw [if_neg Bool.false_ne_true, handlers_forward]
      rfl

/-- The handlers of a backend serve it as declared. -/
theorem handlers_chain (environment : Option Environment) :
    ∃ o, handlers visit next (handlersJson (Route.chain settings base backend.address
        backend.requireAuth backend.localOnly (environment.map (·.id)))) = some o ∧
      Serves settings base visit backend environment o := by
  rw [Route.chain, handlersJson, handlersJson, handlersJson, handlers_secure]
  cases hlocal : backend.localOnly with
  | false =>
      rw [if_neg Bool.false_ne_true]
      apply handlers_inner
      intro h
      exact absurd (hlocal.symm.trans h) Bool.false_ne_true
  | true =>
      obtain ⟨fits, hfits, hprivate⟩ := conditionFits?_privateRanges visit
      rw [if_pos rfl, Route.restricted, handlers_subroute, branchesJson, branchesJson,
        branchesJson, rules_branch hfits, rules_branch conditionFits?_always]
      cases fits with
      | true =>
          rw [if_pos rfl]
          exact handlers_inner fun _ => hprivate.mp rfl
      | false =>
          refine ⟨⟨[], .own 403 none⟩, ?_, .outside hlocal fun h => ?_⟩
          · rw [if_neg Bool.false_ne_true, if_pos rfl, handlersJson, handlers_respond]
            rfl
          · exact absurd (hprivate.mpr h) Bool.false_ne_true

end EdgeProxy.Edge
