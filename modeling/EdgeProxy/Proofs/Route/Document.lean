import EdgeProxy.Route.Config
/-!
The document that is loaded into the proxy, read again.  The rules and the strategy that are read off a
document are those of the configuration that it was made of.  The identifiers in a document, at any depth and
whatever texts it is made of, are those of its routes; and a proxy that loses rules is one that loses routes.
-/

namespace EdgeProxy

namespace EdgeConfig

theorem serverRules_toJson (config : EdgeConfig) :
    config.toJson.serverRules config.serverName = config.routes.map Route.toJson := by
  simp [Json.serverRules, toJson, serverFields, Json.under, Fields.valueOf, Fields.get?]

theorem tlsStrategy_toJson (config : EdgeConfig) : config.toJson.tlsStrategy = config.tls.strategy := by
  rw [Json.tlsStrategy]
  cases htls : config.tls with
  | wildcard patterns tokenVariable =>
      simp [toJson, htls, TlsPolicy.toJson, TlsPolicy.strategy, Json.under, Fields.valueOf, Fields.get?,
        Json.truthy]
  | perHost hostnames =>
      cases hostnames <;>
        simp [toJson, htls, TlsPolicy.toJson, TlsPolicy.strategy, Json.under, Fields.valueOf, Fields.get?,
          Json.truthy]

end EdgeConfig

section RuleIds

theorem itemRuleIds_eq (items : List Json) : itemRuleIds items = items.flatMap Json.ruleIds := by
  induction items with
  | nil => rfl
  | cons v rest ih => rw [itemRuleIds, ih, List.flatMap_cons]

theorem Json.ruleIds_texts (l : List String) : (Json.texts l).ruleIds = [] := by
  rw [texts, ruleIds, itemRuleIds_eq, List.flatMap_map]
  simp [ruleIds]

/-- A field whose value is no text names no rule itself, whatever its key is. -/
theorem fieldRuleIds_cons {v : Json} (hv : ∀ s, v ≠ .str s) (key : String) (rest : Fields) :
    fieldRuleIds ((key, v) :: rest) = v.ruleIds ++ fieldRuleIds rest := by
  cases v with
  | str s => exact absurd rfl (hv s)
  | _ => rw [fieldRuleIds]; simp

theorem fieldRuleIds_append (fields rest : Fields) :
    fieldRuleIds (fields ++ rest) = fieldRuleIds fields ++ fieldRuleIds rest := by
  induction fields with
  | nil => rfl
  | cons field fields ih =>
      obtain ⟨key, v⟩ := field
      rw [List.cons_append, fieldRuleIds.eq_def, fieldRuleIds.eq_def (_ :: fields)]
      simp only [ih, List.append_assoc]

theorem fieldRuleIds_headers (headers : List (String × String)) :
    fieldRuleIds (headers.map fun (name, value) => (name, .texts [value])) = [] := by
  induction headers with
  | nil => rfl
  | cons header rest ih =>
      rw [List.map_cons, fieldRuleIds_cons (by simp [Json.texts]), ih, Json.ruleIds_texts]
      rfl

theorem ruleIds_headerFields (headers : List (String × String)) :
    (Handler.headerFields headers).ruleIds = [] := by
  rw [Handler.headerFields, Json.ruleIds, fieldRuleIds_headers]

theorem ruleIds_condition (condition : Condition) :
    fieldRuleIds (condition.toJson?.map fun m => ("match", m)).toList = [] := by
  cases condition <;>
    simp [Condition.toJson?, fieldRuleIds, Json.ruleIds, itemRuleIds, Json.ruleIds_texts]

mutual
/-- No handler names a rule. -/
theorem Handler.ruleIds_toJson : ∀ handler : Handler, handler.toJson.ruleIds = []
  | .secure _ => by
    simp [Handler.toJson, Json.ruleIds, fieldRuleIds, ruleIds_headerFields]
  | .forward _ => by
    simp [Handler.toJson, Json.ruleIds, fieldRuleIds, itemRuleIds, Handler.backends]
  | .authenticate _ _ _ => by
    simp [Handler.toJson, Json.ruleIds, fieldRuleIds, itemRuleIds, Handler.backends,
      ruleIds_headerFields, Handler.authenticationAnswers, Handler.oneBranch, Handler.redirect,
      Handler.deniedStatuses, redirectHeader, Json.ruleIds_texts]
  | .respond _ => by simp [Handler.toJson, Json.ruleIds, fieldRuleIds]
  | .subroute branches => by
    simp [Handler.toJson, Json.ruleIds, fieldRuleIds, itemRuleIds_branchesJson branches]

theorem Branch.ruleIds_toJson : ∀ branch : Branch, branch.toJson.ruleIds = []
  | .mk condition handlers exclusive => by
    rw [Branch.toJson, Json.ruleIds, fieldRuleIds_append, fieldRuleIds_append, ruleIds_condition]
    cases exclusive <;> simp [fieldRuleIds, Json.ruleIds, itemRuleIds_handlersJson handlers]

theorem itemRuleIds_handlersJson : ∀ handlers : List Handler, itemRuleIds (handlersJson handlers) = []
  | [] => rfl
  | h :: rest => by
    rw [handlersJson, itemRuleIds, Handler.ruleIds_toJson h, itemRuleIds_handlersJson rest]
    rfl

theorem itemRuleIds_branchesJson : ∀ branches : List Branch, itemRuleIds (branchesJson branches) = []
  | [] => rfl
  | b :: rest => by
    rw [branchesJson, itemRuleIds, Branch.ruleIds_toJson b, itemRuleIds_branchesJson rest]
    rfl
end

theorem Route.ruleIds_toJson (route : Route) : route.toJson.ruleIds = [route.ruleId] := by
  simp [Route.toJson, Json.ruleIds, fieldRuleIds, itemRuleIds, Json.ruleIds_texts,
    itemRuleIds_handlersJson]

theorem TlsPolicy.ruleIds_toJson (policy : TlsPolicy) : policy.toJson.ruleIds = [] := by
  cases policy with
  | wildcard patterns tokenVariable =>
      simp [TlsPolicy.toJson, automation, providerIssuer, Json.ruleIds, fieldRuleIds, itemRuleIds,
        Json.ruleIds_texts]
  | perHost hostnames =>
      cases hostnames <;>
        simp [TlsPolicy.toJson, automation, Json.ruleIds, fieldRuleIds, itemRuleIds, Json.ruleIds_texts]

/-- The identifiers in a document are those of its routes, in their order. -/
theorem EdgeConfig.ruleIds_toJson (config : EdgeConfig) :
    config.toJson.ruleIds = config.routes.map (·.ruleId) := by
  have hroutes : itemRuleIds (config.routes.map Route.toJson) = config.routes.map (·.ruleId) := by
    rw [itemRuleIds_eq, List.flatMap_map]
    simp only [Route.ruleIds_toJson, List.map_eq_flatMap]
  have hserver : fieldRuleIds config.serverFields = config.routes.map (·.ruleId) := by
    rw [serverFields, fieldRuleIds_append]
    cases config.tls <;>
      simp [fieldRuleIds, Json.ruleIds, Json.ruleIds_texts, hroutes, TlsPolicy.automaticHttps]
  have hadmin : (Json.obj [("listen", .str config.adminListen)]).ruleIds = [] := by
    simp [Json.ruleIds, fieldRuleIds]
  -- The name of the server is a key, but what stands under it is no text.
  have hservers : (Json.obj [(config.serverName, .obj config.serverFields)]).ruleIds =
      config.routes.map (·.ruleId) := by
    rw [Json.ruleIds, fieldRuleIds_cons (by simp), Json.ruleIds, hserver]
    exact List.append_nil _
  have happs : (Json.obj [("http", .obj [("servers", .obj [(config.serverName,
      .obj config.serverFields)])]), ("tls", config.tls.toJson)]).ruleIds =
        config.routes.map (·.ruleId) := by
    rw [Json.ruleIds, fieldRuleIds_cons (by simp), Json.ruleIds, fieldRuleIds_cons (by simp), hservers]
    simp [fieldRuleIds, TlsPolicy.ruleIds_toJson]
  rw [toJson, Json.ruleIds, fieldRuleIds_cons (by simp), hadmin, fieldRuleIds_cons (by simp), happs]
  exact List.append_nil _

end RuleIds

end EdgeProxy
