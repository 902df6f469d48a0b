import EdgeProxy.Route.Tls
/-!
The document that is loaded into the proxy: where its control plane listens, the server with its
routes, and how certificates are obtained.
-/

namespace EdgeProxy

/-- The proxy's configuration. -/
structure EdgeConfig where
  adminListen : String
  serverName : String
  listen : List String
  routes : List Route
  tls : TlsPolicy

namespace EdgeConfig

def serverFields (config : EdgeConfig) : Fields :=
  [("listen", .texts config.listen), ("routes", .arr (config.routes.map Route.toJson))] ++
    match config.tls.automaticHttps with
    | [] => []
    | fields => [("automatic_https", .obj fields)]

def toJson (config : EdgeConfig) : Json :=
  .obj [("admin", .obj [("listen", .str config.adminListen)]),
    ("apps", .obj [
      ("http", .obj [("servers", .obj [(config.serverName, .obj config.serverFields)])]),
      ("tls", config.tls.toJson)])]

end EdgeConfig

def Registry.compile (r : Registry) (settings : Settings) : EdgeConfig :=
  let routes := r.routes settings
  ⟨settings.adminListen, settings.serverName, settings.listen, routes,
    r.tlsPolicy routes settings.hasToken settings.tokenVariable⟩

namespace Json

/-- What stands in a document under keys, each inside the one before; null where one is missing. -/
def under : Json → List String → Json
  | v, [] => v
  | .obj fields, key :: keys => under (Fields.valueOf fields key) keys
  | _, _ :: _ => .null

/-- The rules of a server in a document that is loaded into the proxy. -/
def serverRules (document : Json) (server : String) : List Json :=
  match document.under ["apps", "http", "servers", server, "routes"] with
  | .arr rules => rules
  | _ => []

def ruleId (rule : Json) : String :=
  match rule.under ["@id"] with
  | .str id => id
  | _ => ""

/-- The name of the strategy that a document follows: certificates that are asked for by name are those
for patterns. -/
def tlsStrategy (document : Json) : String :=
  if (document.under ["apps", "tls", "certificates"]).truthy then "wildcard" else "per_host"

end Json

mutual
/-- The identifiers of all rules in a value, in order. -/
def Json.ruleIds : Json → List String
  | .obj fields => fieldRuleIds fields
  | .arr items => itemRuleIds items
  | _ => []

/-- The identifiers of all rules in the items of a list. -/
def itemRuleIds : List Json → List String
  | [] => []
  | v :: rest => v.ruleIds ++ itemRuleIds rest

/-- The identifiers of all rules in the fields of an object. -/
def fieldRuleIds : List (String × Json) → List String
  | [] => []
  | (k, v) :: rest =>
    (match k, v with
      | "@id", .str id => [id]
      | _, v => v.ruleIds) ++ fieldRuleIds rest
end

/-- The identifiers of the rules in a document, each once. -/
def Json.ruleIdSet (v : Json) : List String := v.ruleIds.eraseDups

end EdgeProxy
