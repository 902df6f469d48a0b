import EdgeProxy.Proofs.Json.Nesting
import EdgeProxy.Proofs.Json.Writable
import EdgeProxy.Proofs.Proxy.Lost
import EdgeProxy.Proofs.Text.Trimmed
import EdgeProxy.Proofs.Text.Utf8
/-!
Documents on their way to the proxy and back.  A compiled document, and what is left of it where rules were
lost, has each key once, no long integer and a bounded depth, so it is read back from its text, however that is
laid out.
-/

namespace EdgeProxy

namespace Json

theorem head_write_obj (style : Style) (fields : Fields) :
    (write style 0 (.obj fields)).head? = some '\x7b' := by
  cases fields with
  | nil => rfl
  | cons field rest => rw [write]; rfl

theorem getLast_write_obj (style : Style) (fields : Fields) :
    (write style 0 (.obj fields)).getLast? = some '\x7d' := by
  cases fields with
  | nil => rfl
  | cons field rest => rw [write, List.getLast?_append]; rfl

/-- Blanks after the text of an object are trimmed off. -/
theorem trim_render_append (style : Style) (fields : Fields) {blanks : String}
    (hblanks : ∀ c ∈ blanks.toList, Text.isBlank c = true) :
    Text.trim ((Json.obj fields).render style ++ blanks) = (Json.obj fields).render style := by
  have hlast : ∀ c ∈ (write style 0 (.obj fields)).getLast?, Text.isBlank c = false := by
    rw [getLast_write_obj]
    rintro c ⟨⟩
    rfl
  rw [Text.trim, render, String.toList_append, String.toList_ofList,
    Text.trimWith_append_of_all (head_write_obj style fields) rfl hlast hblanks]

/-- A portable document is read back from its text without anything after it. -/
theorem read_render_alone {v : Json} (hv : v.Portable) (style : Style) : read (v.render style) = .ok v := by
  have hback := read_render_append hv style (show skipGap "".toList = [] from rfl)
  rwa [String.append_empty] at hback

end Json

section Portable

open Json

@[simp] theorem portable_obj {fields : Fields} :
    (Json.obj fields).Portable ↔ (fields.map Prod.fst).Nodup ∧ ∀ field ∈ fields, field.2.Portable :=
  hereditary_portable.obj_iff

@[simp] theorem portable_arr {items : List Json} : (Json.arr items).Portable ↔ ∀ v ∈ items, v.Portable :=
  hereditary_portable.arr_iff

@[simp] theorem portable_str (s : String) : (Json.str s).Portable := hereditary_portable.of_str s

@[simp] theorem portable_bool (b : Bool) : (Json.bool b).Portable := hereditary_portable.of_bool b

@[simp] theorem portable_int {n : Int} (h : n.natAbs < 10000) : (Json.int n).Portable :=
  hereditary_portable.of_int n h

@[simp] theorem portable_texts (l : List String) : (Json.texts l).Portable := by
  rw [texts, portable_arr, List.forall_mem_map]
  exact fun s _ => portable_str s

theorem portable_headerFields {headers : List (String × String)}
    (hnames : (headers.map Prod.fst).Nodup) : (Handler.headerFields headers).Portable := by
  rw [Handler.headerFields, portable_obj]
  constructor
  · rw [List.map_map]
    exact hnames
  · rw [List.forall_mem_map]
    exact fun header _ => portable_texts [header.2]

theorem handlersJson_eq (handlers : List Handler) : handlersJson handlers = handlers.map Handler.toJson := by
  induction handlers with
  | nil => rfl
  | cons h rest ih => rw [handlersJson, ih, List.map_cons]

theorem branchesJson_eq (branches : List Branch) : branchesJson branches = branches.map Branch.toJson := by
  induction branches with
  | nil => rfl
  | cons b rest ih => rw [branchesJson, ih, List.map_cons]

namespace Handler

theorem portable_secure (framePolicy : String) : (secure framePolicy).toJson.Portable := by
  simp [toJson, portable_headerFields]

theorem portable_backends (address : String) : (backends address).Portable := by
  simp [backends]

theorem portable_forward (backend : String) : (forward backend).toJson.Portable := by
  simp [toJson, portable_backends]

theorem portable_redirect (location : String) : (redirect location).Portable := by
  simp [redirect, portable_headerFields]

theorem portable_oneBranch {handler : Json} (h : handler.Portable) : (oneBranch handler).Portable := by
  simpa [oneBranch] using h

theorem portable_deniedStatuses : deniedStatuses.Portable := by
  simp [deniedStatuses]

theorem portable_authenticationAnswers (login : String) : (authenticationAnswers login).Portable := by
  have hidentity : (headerFields (identityHeaders.map fun name =>
      (name, placeholder ("http.reverse_proxy.header." ++ name)))).Portable :=
    portable_headerFields (by simp [identityHeaders])
  have hcopied : (oneBranch (.obj [("handler", .str "headers"),
      ("request", .obj [("set", headerFields (identityHeaders.map fun name =>
        (name, placeholder ("http.reverse_proxy.header." ++ name))))])])).Portable :=
    portable_oneBranch (by simpa using hidentity)
  simp [authenticationAnswers, hcopied, portable_oneBranch, portable_redirect, portable_deniedStatuses]

theorem portable_authenticate (service path login : String) :
    (authenticate service path login).toJson.Portable := by
  have hforwarded : (headerFields forwardedHeaders).Portable :=
    portable_headerFields (by simp [forwardedHeaders])
  simp [toJson, portable_backends, hforwarded, portable_authenticationAnswers]

theorem portable_subroute {branches : List Branch} (h : ∀ b ∈ branches, b.toJson.Portable) :
    (subroute branches).toJson.Portable := by
  simpa [toJson, branchesJson_eq] using h

end Handler

theorem Branch.portable_mk {handlers : List Handler} (h : ∀ x ∈ handlers, x.toJson.Portable)
    (condition : Condition) (exclusive : Bool) : (mk condition handlers exclusive).toJson.Portable := by
  have hhandlers : ∀ v ∈ handlersJson handlers, v.Portable := by
    rw [handlersJson_eq, List.forall_mem_map]
    exact h
  cases condition <;> cases exclusive <;> simp [toJson, Condition.toJson?] <;> exact hhandlers

namespace Route

variable (settings : Settings) (base backend : String)

theorem portable_guarded (environment : Option String) :
    (guarded settings base backend environment).toJson.Portable := by
  apply Handler.portable_subroute
  intro branch hbranch
  rcases List.mem_append.mp hbranch with hsocket | hlast
  · rw [webSocketBranches] at hsocket
    split at hsocket
    · rw [List.mem_singleton.mp hsocket]
      apply Branch.portable_mk
      simpa using Handler.portable_forward backend
    · cases hsocket
  · rw [List.mem_singleton.mp hlast]
    apply Branch.portable_mk
    simpa [authenticate] using ⟨Handler.portable_authenticate _ _ _, Handler.portable_forward backend⟩

theorem portable_restricted {inner : Handler} (h : inner.toJson.Portable) :
    (restricted inner).toJson.Portable := by
  have hdenied : (Handler.respond 403).toJson.Portable := by simp [Handler.toJson]
  apply Handler.portable_subroute
  simpa using ⟨Branch.portable_mk (by simpa using h) _ _, Branch.portable_mk (by simpa using hdenied) _ _⟩

theorem portable_chain (requireAuth localOnly : Bool) (environment : Option String) :
    ∀ h ∈ chain settings base backend requireAuth localOnly environment, h.toJson.Portable := by
  have hinner : (if requireAuth then guarded settings base backend environment
      else .forward backend : Handler).toJson.Portable := by
    split
    · exact portable_guarded settings base backend environment
    · exact Handler.portable_forward backend
  have houter : (if localOnly then restricted (if requireAuth then guarded settings base backend environment
      else .forward backend) else if requireAuth then guarded settings base backend environment
        else .forward backend : Handler).toJson.Portable := by
    split
    · exact portable_restricted hinner
    · exact hinner
  simpa [chain] using ⟨Handler.portable_secure (framePolicy base), houter⟩

/-- The rule of a route can be written and read back if its handlers can. -/
theorem portable_toJson {route : Route} (h : ∀ x ∈ route.handlers, x.toJson.Portable) :
    route.toJson.Portable := by
  simpa [toJson, handlersJson_eq] using h

end Route

theorem Registry.portable_routes (r : Registry) (settings : Settings) :
    ∀ route ∈ r.routes settings, route.toJson.Portable := by
  intro route hroute
  apply Route.portable_toJson
  rcases List.mem_append.mp hroute with hsystem | htarget
  · obtain ⟨⟨id, domain⟩, -, rfl⟩ := List.mem_map.mp hsystem
    exact Route.portable_chain settings _ _ _ _ _
  · obtain ⟨target, -, rfl⟩ := List.mem_map.mp htarget
    exact Route.portable_chain settings _ _ _ _ _

theorem TlsPolicy.portable_toJson (policy : TlsPolicy) : policy.toJson.Portable := by
  have hautomation : ∀ (subjects : List String) {issuer : Json}, issuer.Portable →
      (automation subjects issuer).Portable := by
    intro subjects issuer h
    simpa [automation] using h
  cases policy with
  | wildcard patterns tokenVariable =>
      have hissuer : (providerIssuer tokenVariable).Portable := by simp [providerIssuer]
      simp [toJson, hautomation, hissuer]
  | perHost hostnames =>
      have hissuer : (Json.obj [("module", .str "acme")]).Portable := by simp
      cases hostnames with
      | nil => simp [toJson]
      | cons hostname rest => simpa [toJson] using hautomation _ hissuer

theorem EdgeConfig.portable_toJson {config : EdgeConfig}
    (h : ∀ route ∈ config.routes, route.toJson.Portable) : config.toJson.Portable := by
  have hserver : (Json.obj config.serverFields).Portable := by
    cases htls : config.tls <;> simpa [serverFields, htls, TlsPolicy.automaticHttps] using h
  have htls := config.tls.portable_toJson
  have hservers : (Json.obj [(config.serverName, .obj config.serverFields)]).Portable := by
    rw [portable_obj, List.forall_mem_singleton]
    exact ⟨List.nodup_singleton _, hserver⟩
  simpa [toJson, htls] using hservers

/-- What is left of a compiled registry where rules were lost can be written and read back. -/
theorem Registry.portable_without (r : Registry) (settings : Settings) (lost : List String) :
    ((r.compile settings).without lost).toJson.Portable :=
  EdgeConfig.portable_toJson fun route hroute =>
    r.portable_routes settings route (List.mem_of_mem_filter hroute)

end Portable

section Depth

open Json

theorem Branch.depth_mk_le (condition : Condition) {handlers : List Handler} {depth : Nat} (hdepth : 3 ≤ depth)
    (h : ∀ x ∈ handlers, x.toJson.depth ≤ depth) (exclusive : Bool) :
    (mk condition handlers exclusive).toJson.depth ≤ depth + 2 := by
  have hhandlers : (Json.arr (handlersJson handlers)).depth ≤ depth + 1 := by
    rw [handlersJson_eq, depth_arr_le, List.forall_mem_map]
    exact h
  have hranges (ranges : List String) : (Json.obj [("ranges", .texts ranges)]).depth ≤ 2 := by
    rw [depth_obj_le, List.forall_mem_singleton]
    exact depth_texts_le ranges
  have hcondition : ∀ field ∈ (condition.toJson?.map fun m => ("match", m)).toList,
      field.2.depth ≤ depth + 1 := by
    intro field hfield
    cases condition with
    | always => cases hfield
    | webSocket =>
        rw [List.mem_singleton.mp hfield]
        exact Nat.le_trans (show _ ≤ 4 from Nat.le_refl 4) (by omega)
    | callerIn ranges =>
        rw [List.mem_singleton.mp hfield]
        have hfour : (Json.arr [.obj [("remote_ip", .obj [("ranges", .texts ranges)])]]).depth ≤ 4 := by
          rw [depth_arr_le, List.forall_mem_singleton, depth_obj_le, List.forall_mem_singleton]
          exact hranges ranges
        exact Nat.le_trans hfour (by omega)
  rw [toJson, depth_obj_le]
  simp only [List.forall_mem_append, List.forall_mem_singleton]
  refine ⟨⟨hcondition, hhandlers⟩, fun field hfield => ?_⟩
  split at hfield
  · rw [List.mem_singleton.mp hfield]
    exact Nat.zero_le _
  · cases hfield

theorem Handler.depth_subroute_le {branches : List Branch} {depth : Nat}
    (h : ∀ b ∈ branches, b.toJson.depth ≤ depth) : (subroute branches).toJson.depth ≤ depth + 2 := by
  rw [toJson, depth_obj_le]
  simp only [List.forall_mem_cons, List.not_mem_nil, false_implies, implies_true, and_true]
  refine ⟨Nat.zero_le _, ?_⟩
  rw [branchesJson_eq, depth_arr_le, List.forall_mem_map]
  exact h

namespace Route

variable (settings : Settings) (base backend : String)

theorem depth_guarded_le (environment : Option String) :
    (guarded settings base backend environment).toJson.depth ≤ 14 := by
  have hforward : (Handler.forward backend).toJson.depth ≤ 10 := show 3 ≤ 10 by decide
  have hauthenticate : (authenticate settings base).toJson.depth ≤ 10 := Nat.le_refl 10
  refine Handler.depth_subroute_le fun branch hbranch => ?_
  rcases List.mem_append.mp hbranch with hsocket | hlast
  · rw [webSocketBranches] at hsocket
    split at hsocket
    · rw [List.mem_singleton.mp hsocket]
      exact Branch.depth_mk_le _ (by decide) (by simpa using hforward) _
    · cases hsocket
  · rw [List.mem_singleton.mp hlast]
    exact Branch.depth_mk_le _ (by decide) (by simpa using ⟨hauthenticate, hforward⟩) _

theorem depth_restricted_le {inner : Handler} (h : inner.toJson.depth ≤ 14) :
    (restricted inner).toJson.depth ≤ 18 := by
  have hdenied : (Handler.respond 403).toJson.depth ≤ 14 := show 1 ≤ 14 by decide
  apply Handler.depth_subroute_le
  simpa using ⟨Branch.depth_mk_le _ (by decide) (by simpa using h) _,
    Branch.depth_mk_le _ (by decide) (by simpa using hdenied) _⟩

theorem depth_chain_le (requireAuth localOnly : Bool) (environment : Option String) :
    ∀ h ∈ chain settings base backend requireAuth localOnly environment, h.toJson.depth ≤ 18 := by
  have hsecure : (Handler.secure (framePolicy base)).toJson.depth ≤ 18 := show 4 ≤ 18 by decide
  have hinner : (if requireAuth then guarded settings base backend environment
      else .forward backend : Handler).toJson.depth ≤ 14 := by
    split
    · exact depth_guarded_le settings base backend environment
    · exact show 3 ≤ 14 by decide
  have houter : (if localOnly then restricted (if requireAuth then guarded settings base backend environment
      else .forward backend) else if requireAuth then guarded settings base backend environment
        else .forward backend : Handler).toJson.depth ≤ 18 := by
    split
    · exact depth_restricted_le hinner
    · exact Nat.le_trans hinner (by decide)
  simpa [chain] using ⟨hsecure, houter⟩

theorem depth_toJson_le {route : Route} (h : ∀ x ∈ route.handlers, x.toJson.depth ≤ 18) :
    route.toJson.depth ≤ 20 := by
  have hhandlers : (Json.arr (handlersJson route.handlers)).depth ≤ 19 := by
    rw [handlersJson_eq, depth_arr_le, List.forall_mem_map]
    exact h
  rw [toJson, depth_obj_le]
  simp only [List.forall_mem_cons, List.not_mem_nil, false_implies, implies_true, and_true]
  exact ⟨Nat.zero_le _, show 3 ≤ 19 by decide, hhandlers, Nat.zero_le _⟩

end Route

theorem Registry.depth_routes_le (r : Registry) (settings : Settings) :
    ∀ route ∈ r.routes settings, route.toJson.depth ≤ 20 := by
  intro route hroute
  apply Route.depth_toJson_le
  rcases List.mem_append.mp hroute with hsystem | htarget
  · obtain ⟨⟨id, domain⟩, -, rfl⟩ := List.mem_map.mp hsystem
    exact Route.depth_chain_le settings _ _ _ _ _
  · obtain ⟨target, -, rfl⟩ := List.mem_map.mp htarget
    exact Route.depth_chain_le settings _ _ _ _ _

theorem TlsPolicy.depth_automation_le (subjects : List String) {issuer : Json} (h : issuer.depth ≤ 4) :
    (automation subjects issuer).depth ≤ 8 := by
  have hissuers : (Json.arr [issuer]).depth ≤ 5 := by
    rw [depth_arr_le, List.forall_mem_singleton]
    exact h
  have hsubjects := Nat.le_trans (depth_texts_le subjects) (show 1 ≤ 5 by decide)
  have hpolicy : (Json.obj [("subjects", .texts subjects), ("issuers", .arr [issuer])]).depth ≤ 6 := by
    rw [depth_obj_le]
    simpa using ⟨hsubjects, hissuers⟩
  rw [automation, depth_obj_le, List.forall_mem_singleton, depth_arr_le, List.forall_mem_singleton]
  exact hpolicy

theorem TlsPolicy.depth_toJson_le (policy : TlsPolicy) : policy.toJson.depth ≤ 9 := by
  cases policy with
  | wildcard patterns tokenVariable =>
      have hautomate : (Json.obj [("automate", .texts patterns)]).depth ≤ 8 := by
        rw [depth_obj_le, List.forall_mem_singleton]
        exact Nat.le_trans (depth_texts_le patterns) (by decide)
      have hissuer : (providerIssuer tokenVariable).depth ≤ 4 := Nat.le_refl 4
      have hautomation := depth_automation_le patterns hissuer
      rw [toJson, depth_obj_le]
      simpa using ⟨hautomate, hautomation⟩
  | perHost hostnames =>
      cases hostnames with
      | nil => exact show 1 ≤ 9 by decide
      | cons hostname rest =>
          have hautomation := depth_automation_le (hostname :: rest) (show (Json.obj [("module",
            .str "acme")]).depth ≤ 4 by decide)
          simpa [toJson, depth_obj_le] using hautomation

theorem EdgeConfig.depth_toJson_le {config : EdgeConfig} (h : ∀ route ∈ config.routes, route.toJson.depth ≤ 20) :
    config.toJson.depth ≤ 26 := by
  have hroutes : (Json.arr (config.routes.map Route.toJson)).depth ≤ 21 := by
    rw [depth_arr_le, List.forall_mem_map]
    exact h
  have hlisten := Nat.le_trans (depth_texts_le config.listen) (show 1 ≤ 21 by decide)
  have hserver : (Json.obj config.serverFields).depth ≤ 22 := by
    have hautomatic : (Json.obj config.tls.automaticHttps).depth ≤ 21 := by
      cases config.tls with
      | wildcard _ _ => exact show 1 ≤ 21 by decide
      | perHost _ => exact show 1 ≤ 21 by decide
    rw [depth_obj_le, serverFields]
    cases hfields : config.tls.automaticHttps with
    | nil => simpa using ⟨hlisten, hroutes⟩
    | cons field rest =>
        rw [hfields] at hautomatic
        simpa using ⟨hlisten, hroutes, hautomatic⟩
  have hhttp : (Json.obj [("servers", .obj [(config.serverName, .obj config.serverFields)])]).depth ≤ 24 := by
    rw [depth_obj_le, List.forall_mem_singleton, depth_obj_le, List.forall_mem_singleton]
    exact hserver
  have happs : (Json.obj [("http", .obj [("servers", .obj [(config.serverName, .obj config.serverFields)])]),
      ("tls", config.tls.toJson)]).depth ≤ 25 := by
    rw [depth_obj_le]
    simpa using ⟨hhttp, Nat.le_trans config.tls.depth_toJson_le (by decide)⟩
  rw [toJson, depth_obj_le]
  simpa using ⟨show 1 ≤ 25 by decide, happs⟩

/-- What is left of a compiled registry where rules were lost is nested no deeper than there is always room
for. -/
theorem Registry.depth_without_le (r : Registry) (settings : Settings) (lost : List String) :
    ((r.compile settings).without lost).toJson.depth ≤ safeDepth :=
  Nat.le_trans (EdgeConfig.depth_toJson_le fun route hroute =>
    r.depth_routes_le settings route (List.mem_of_mem_filter hroute)) (by decide)

end Depth

namespace Json

/-- Lists in lists. -/
def nested : Nat → Json
  | 0 => .arr []
  | depth + 1 => .arr [nested depth]

theorem portable_nested (depth : Nat) : (nested depth).Portable := by
  induction depth with
  | zero => simp [nested]
  | succ depth ih => simpa [nested] using ih

theorem write_nested (level depth : Nat) : write .line level (nested depth) =
    List.replicate (depth + 1) '[' ++ List.replicate (depth + 1) ']' := by
  induction depth generalizing level with
  | zero => rfl
  | succ depth ih =>
      have hlead (k : Nat) : Style.line.lead k = [] := rfl
      have hopen : List.replicate (depth + 2) '[' = '[' :: List.replicate (depth + 1) '[' := rfl
      have hclose : List.replicate (depth + 2) ']' = List.replicate (depth + 1) ']' ++ [']'] := List.replicate_succ'
      rw [nested, write, writeItems, ih, hlead, hlead, hopen, hclose]
      simp only [List.append_nil, List.cons_append, List.nil_append, List.append_assoc]

/-- Where there is room for `depth` more lists, the next one that is opened is cut off, and all are closed. -/
theorem cutFrom?_opened (opened depth : Nat) (passed : List Char) :
    cutFrom? (opened + depth) ⟨List.replicate opened ']', .outside⟩ passed (List.replicate (depth + 1) '[') =
      some (passed.reverse ++ List.replicate (depth + 1) '[' ++ List.replicate (opened + depth + 1) ']') := by
  induction depth generalizing opened passed with
  | zero => simp [cutFrom?, Nesting.closer?, Nesting.step, List.replicate_succ]
  | succ depth ih =>
      have hnext := ih (opened + 1) ('[' :: passed)
      have hroom : ¬ (opened + (depth + 1) ≤ opened) := by omega
      rw [List.replicate_succ, cutFrom?, if_neg (by simp [hroom])]
      rw [Nat.add_right_comm, List.replicate_succ (n := opened)] at hnext
      simpa [Nesting.step, Nesting.closer?, List.replicate_succ, Nat.add_assoc] using hnext

/-- A text that opens one list more than there is room for overflows. -/
theorem overflows_opened (room : Nat) : overflows room (String.ofList (List.replicate (room + 1) '[')) = true := by
  have hcut : cut? room (String.ofList (List.replicate (room + 1) '[')) = some ((nested room).render .line) := by
    have hfrom := cutFrom?_opened 0 room []
    rw [Nat.zero_add] at hfrom
    rw [cut?, String.toList_ofList, Json.render, write_nested]
    exact congrArg (Option.map String.ofList) hfrom
  rw [overflows, hcut]
  simp only [read_render_alone (portable_nested room)]

end Json

namespace Client

/-- A document that is sent as text arrives as it was, whatever blanks stand after it, where there is room for
it. -/
theorem documentOf_encode {fields : Fields} (h : (Json.obj fields).Portable) {room : Nat}
    (hdepth : (Json.obj fields).depth ≤ room) (style : Json.Style)
    {blanks : String} (hblanks : ∀ c ∈ blanks.toList, Text.isBlank c = true) :
    documentOf room (Text.encode ((Json.obj fields).render style ++ blanks)) = .ok (.obj fields) := by
  have hread := Json.read_render_alone h style
  have hset : ((Json.obj fields).render style).isEmpty = false := by
    have hhead := Json.head_write_obj style fields
    rw [Json.render, ← Bool.not_eq_true, String.isEmpty_iff, ← String.toList_inj, String.toList_ofList]
    intro hnil
    rw [hnil] at hhead
    cases hhead
  unfold documentOf
  simp only [Text.decode_encode, Json.trim_render_append style fields hblanks, hset, Bool.false_eq_true,
    ↓reduceIte, Json.overflows_render hdepth style, hread]

theorem documentOf_of_undecodable {body : List UInt8} {reason : Text.Utf8Error} (room : Nat)
    (h : Text.decode body = .error reason) : documentOf room body = .error (.undecodable reason) := by
  rw [documentOf, h]

theorem documentOf_of_overflows {body : List UInt8} {text : String} {room : Nat}
    (hbody : Text.decode body = .ok text) (hset : (Text.trim text).isEmpty = false)
    (hroom : Json.overflows room (Text.trim text) = true) : documentOf room body = .error .tooDeep := by
  rw [documentOf, hbody]
  simp only [hset, hroom, Bool.false_eq_true, ↓reduceIte]

/-- The text of a body that opens one list more than there is room for. -/
def opened (room : Nat) : String := String.ofList (List.replicate (room + 1) '[')

theorem documentOf_opened (room : Nat) : documentOf room (Text.encode (opened room)) = .error .tooDeep := by
  have htrim : Text.trim (opened room) = opened room := by
    have hbracket : ∀ c ∈ List.replicate (room + 1) '[', Text.isBlank c = false := by
      intro c hc
      rw [List.eq_of_mem_replicate hc]
      rfl
    apply Text.trimmed_of_ends <;> rw [opened, String.toList_ofList]
    · exact fun c hc => hbracket c (List.mem_of_mem_head? hc)
    · exact fun c hc => hbracket c (List.mem_of_mem_getLast? hc)
  apply documentOf_of_overflows (Text.decode_encode (opened room))
  · rw [htrim, opened, List.replicate_succ, ← Bool.not_eq_true, String.isEmpty_iff, ← String.toList_inj,
      String.toList_ofList]
    exact fun h => by cases h
  · rw [htrim]
    exact Json.overflows_opened room

/-- A text that is not blank and no document is told to be none, where it is read. -/
theorem documentOf_of_malformed {body : List UInt8} {text : String} {room : Nat} {why : Json.ReadError}
    (hbody : Text.decode body = .ok text) (hset : (Text.trim text).isEmpty = false)
    (hroom : Json.overflows room (Text.trim text) = false) (htext : Json.read (Text.trim text) = .error why) :
    ∃ e, documentOf room body = .error e ∧ e.fault? = none := by
  rw [documentOf, hbody]
  simp only [hset, hroom, htext, Bool.false_eq_true, ↓reduceIte]
  cases why with
  | malformed => exact ⟨_, rfl, rfl⟩
  | longInteger digits => exact ⟨_, rfl, rfl⟩

/-- What is left of a compiled registry where rules were lost arrives as it was sent. -/
theorem documentOf_without (r : Registry) (settings : Settings) (lost : List String) {room : Nat}
    (hroom : Json.safeDepth ≤ room) (style : Json.Style) {blanks : String}
    (hblanks : ∀ c ∈ blanks.toList, Text.isBlank c = true) :
    documentOf room (Text.encode (((r.compile settings).without lost).toJson.render style ++ blanks)) =
      .ok ((r.compile settings).without lost).toJson :=
  documentOf_encode (r.portable_without settings lost)
    (Nat.le_trans (r.depth_without_le settings lost) hroom) style hblanks

end Client

end EdgeProxy
