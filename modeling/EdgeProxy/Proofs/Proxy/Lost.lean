import EdgeProxy.Proofs.Route.Document
import EdgeProxy.Proxy.Exchange
/-!
A proxy that loses rules.  A document without any of the lost rules is kept as it is; of a compiled document,
exactly the routes with a lost identifier are missing, and nothing else is changed.
-/

namespace EdgeProxy

theorem mem_fieldRuleIds_of_get? {fields : Fields} {id : String}
    (h : Fields.get? fields "@id" = some (.str id)) : id ∈ fieldRuleIds fields := by
  induction fields with
  | nil => cases h
  | cons field rest ih =>
      obtain ⟨key, v⟩ := field
      rw [fieldRuleIds.eq_def]
      by_cases hkey : key = "@id"
      · subst hkey
        simp only [Fields.get?, beq_self_eq_true, ↓reduceIte, Option.some.injEq] at h
        subst h
        exact List.mem_append_left _ List.mem_cons_self
      · simp only [Fields.get?, beq_iff_eq, hkey, ↓reduceIte] at h
        exact List.mem_append_right _ (ih h)

namespace Proxy

variable {lost : List String}

theorem isLost_eq_false {v : Json} (h : ∀ id ∈ v.ruleIds, id ∉ lost) : isLost lost v = false := by
  cases v with
  | obj fields =>
      rw [Json.ruleIds] at h
      rw [isLost]
      split
      next id hid => simpa using h id (mem_fieldRuleIds_of_get? hid)
      · rfl
  | _ => rfl

mutual
/-- What holds no lost rule is kept as it is. -/
theorem keep_eq_self : ∀ v : Json, (∀ id ∈ v.ruleIds, id ∉ lost) → keep lost v = v
  | .null, _ | .bool _, _ | .int _, _ | .float _, _ | .str _, _ => by rw [keep] <;> simp
  | .arr items, h => by
    rw [Json.ruleIds] at h
    rw [keep, keepItems_eq_self items h]
  | .obj fields, h => by
    rw [Json.ruleIds] at h
    rw [keep, keepFields_eq_self fields h]

theorem keepItems_eq_self :
    ∀ items : List Json, (∀ id ∈ itemRuleIds items, id ∉ lost) → keepItems lost items = items
  | [], _ => rfl
  | v :: rest, h => by
    rw [itemRuleIds, List.forall_mem_append] at h
    rw [keepItems, isLost_eq_false h.1, keep_eq_self v h.1, keepItems_eq_self rest h.2]
    rfl

theorem keepFields_eq_self :
    ∀ fields : Fields, (∀ id ∈ fieldRuleIds fields, id ∉ lost) → keepFields lost fields = fields
  | [], _ => rfl
  | (key, v) :: rest, h => by
    have hv : keep lost v = v := by
      cases v with
      | str s => rw [keep] <;> simp
      | _ =>
          rw [fieldRuleIds_cons (by simp), List.forall_mem_append] at h
          exact keep_eq_self _ h.1
    have hrest : keepFields lost rest = rest := by
      apply keepFields_eq_self rest
      intro id hid
      rw [fieldRuleIds.eq_def] at h
      exact h id (List.mem_append_right _ hid)
    rw [keepFields, hv, hrest]
end

theorem isLost_route (route : Route) : isLost lost route.toJson = lost.contains route.ruleId := by
  simp [isLost, Route.toJson, Fields.get?]

/-- Losing rules is losing routes. -/
theorem keepItems_routes (routes : List Route) :
    keepItems lost (routes.map Route.toJson) =
      (routes.filter fun route => !lost.contains route.ruleId).map Route.toJson := by
  induction routes with
  | nil => rfl
  | cons route rest ih =>
      rw [List.map_cons, keepItems, isLost_route, ih, List.filter_cons]
      cases hlost : lost.contains route.ruleId with
      | true => rfl
      | false =>
          have hself : keep lost route.toJson = route.toJson := by
            apply keep_eq_self
            rw [route.ruleIds_toJson, List.forall_mem_singleton]
            simpa using hlost
          rw [hself]
          rfl

end Proxy

/-- The configuration without the routes that have a lost identifier. -/
def EdgeConfig.without (config : EdgeConfig) (lost : List String) : EdgeConfig :=
  { config with routes := config.routes.filter fun route => !lost.contains route.ruleId }

namespace Proxy

variable {lost : List String}

theorem keepFields_append (fields rest : Fields) :
    keepFields lost (fields ++ rest) = keepFields lost fields ++ keepFields lost rest := by
  induction fields with
  | nil => rfl
  | cons field fields ih => rw [List.cons_append, keepFields, keepFields, ih, List.cons_append]

/-- A value that names no rule is kept as it is. -/
theorem keep_of_ruleIds_eq_nil {v : Json} (h : v.ruleIds = []) : keep lost v = v := by
  apply keep_eq_self
  rw [h]
  exact nofun

theorem keepFields_serverFields (config : EdgeConfig) :
    keepFields lost config.serverFields = (config.without lost).serverFields := by
  have hlisten : keep lost (.texts config.listen) = .texts config.listen :=
    keep_of_ruleIds_eq_nil (Json.ruleIds_texts _)
  have hroutes : keep lost (.arr (config.routes.map Route.toJson)) =
      .arr ((config.without lost).routes.map Route.toJson) := by
    rw [keep, keepItems_routes]
    rfl
  rw [EdgeConfig.serverFields, EdgeConfig.serverFields, keepFields_append, keepFields, keepFields, hlisten,
    hroutes]
  cases htls : config.tls <;>
    simp [EdgeConfig.without, htls, TlsPolicy.automaticHttps, keepFields, keep]

/-- Of a compiled document, the routes with a lost identifier are missing. -/
theorem keep_toJson (config : EdgeConfig) (lost : List String) :
    keep lost config.toJson = (config.without lost).toJson := by
  rw [EdgeConfig.toJson, EdgeConfig.toJson]
  simp only [keep, keepFields, keepFields_serverFields,
    keep_of_ruleIds_eq_nil config.tls.ruleIds_toJson]
  rfl

end Proxy

/-- What is left of a compiled document has all its rules exactly if none of them was lost. -/
theorem Client.hasRules_keep_iff (config : EdgeConfig) (lost : List String) :
    hasRules (Proxy.keep lost config.toJson) (config.routes.map (·.ruleId)) = true ↔
      ∀ route ∈ config.routes, route.ruleId ∉ lost := by
  rw [hasRules, Proxy.keep_toJson, EdgeConfig.ruleIds_toJson, EdgeConfig.without, List.all_map,
    List.all_eq_true]
  refine forall₂_congr fun route hroute => ?_
  rw [Function.comp_apply, List.contains_iff_mem, List.mem_map]
  constructor
  · rintro ⟨kept, hkept, hid⟩
    have hnot := (List.mem_filter.mp hkept).2
    rw [hid] at hnot
    simpa using hnot
  · intro hnot
    exact ⟨route, List.mem_filter.mpr ⟨hroute, by simpa using hnot⟩, rfl⟩

end EdgeProxy
