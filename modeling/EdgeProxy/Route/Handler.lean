import EdgeProxy.Json.Basic
/-!
What a route does with a request.  Handlers run in order until one answers; a subroute runs the
handlers of its branches whose condition the request meets.
-/

namespace EdgeProxy

/-- The header in which the authentication service sends the login address. -/
def redirectHeader : String := "X-Auth-Redirect"

/-- The identity headers that are copied from the authentication service. -/
def identityHeaders : List String := ["Remote-User", "Remote-Email", "Remote-Name", "Remote-Groups"]

def privateRanges : List String := ["10.0.0.0/8", "172.16.0.0/12", "192.168.0.0/16", "127.0.0.0/8"]

/-- What a request has to meet. -/
inductive Condition where
  | always
  /-- The request asks for a web socket. -/
  | webSocket
  /-- The caller's address lies in one of the ranges. -/
  | callerIn (ranges : List String)
deriving DecidableEq, Repr

mutual
/-- What is done with a request. -/
inductive Handler where
  /-- Add security headers to the answer; pages may be framed by the given policy. -/
  | secure (framePolicy : String)
  /-- Pass the request on and answer with the backend's answer. -/
  | forward (backend : String)
  /-- Ask the authentication service at a path; a caller that it does not know is sent to the
  address it gives, or to `login` if it gives none. -/
  | authenticate (service path login : String)
  /-- Answer with a status. -/
  | respond (status : Nat)
  | subroute (branches : List Branch)

/-- Handlers that run if a condition holds; after an exclusive branch no other one is tried. -/
inductive Branch where
  | mk (condition : Condition) (handlers : List Handler) (exclusive : Bool)
end

/-- A place that the proxy fills in when a request arrives. -/
def placeholder (name : String) : String := "\x7b" ++ name ++ "\x7d"

namespace Handler

/-- A field of headers, each with one value. -/
def headerFields (headers : List (String × String)) : Json :=
  .obj (headers.map fun (name, value) => (name, .texts [value]))

/-- An answer that sends the caller to another address. -/
def redirect (location : String) : Json :=
  .obj [("handler", .str "static_response"), ("status_code", .int 302),
    ("headers", headerFields [("Location", location)])]

def oneBranch (handler : Json) : Json := .arr [.obj [("handle", .arr [handler])]]

/-- The statuses with which the authentication service turns a caller away. -/
def deniedStatuses : Json := .arr [.int 401, .int 403]

/-- What is done with the answers of the authentication service: identity headers are copied from a
good one, and a refusal becomes a redirect. -/
def authenticationAnswers (login : String) : Json :=
  .arr [
    .obj [("match", .obj [("status_code", .arr [.int 2])]),
      ("routes", oneBranch (.obj [("handler", .str "headers"),
        ("request", .obj [("set", headerFields (identityHeaders.map fun name =>
          (name, placeholder ("http.reverse_proxy.header." ++ name))))])]))],
    .obj [("match", .obj [("status_code", deniedStatuses),
        ("headers", .obj [(redirectHeader, .texts ["*"])])]),
      ("routes", oneBranch (redirect
        (placeholder ("http.reverse_proxy.header." ++ redirectHeader))))],
    .obj [("match", .obj [("status_code", deniedStatuses)]),
      ("routes", oneBranch (redirect login))]]

/-- The headers that tell the authentication service what was asked for. -/
def forwardedHeaders : List (String × String) :=
  [("X-Forwarded-Method", placeholder "http.request.method"),
    ("X-Forwarded-Proto", placeholder "http.request.scheme"),
    ("X-Forwarded-Host", placeholder "http.request.host"),
    ("X-Forwarded-Uri", placeholder "http.request.uri")]

def backends (address : String) : Json := .arr [.obj [("dial", .str address)]]

end Handler

def Condition.toJson? : Condition → Option Json
  | always => none
  | webSocket => some (.arr [.obj [("header", .obj [("Upgrade", .texts ["websocket"])])]])
  | callerIn ranges => some (.arr [.obj [("remote_ip", .obj [("ranges", .texts ranges)])]])

mutual
/-- The handler in the proxy's document. -/
def Handler.toJson : Handler → Json
  | .secure framePolicy =>
    .obj [("handler", .str "headers"),
      ("response", .obj [("set", Handler.headerFields
        [("Content-Security-Policy", framePolicy), ("X-Content-Type-Options", "nosniff")])])]
  | .forward backend =>
    .obj [("handler", .str "reverse_proxy"), ("upstreams", Handler.backends backend)]
  | .authenticate service path login =>
    .obj [("handler", .str "reverse_proxy"), ("upstreams", Handler.backends service),
      ("rewrite", .obj [("uri", .str path)]),
      ("headers", .obj [("request", .obj [("set",
        Handler.headerFields Handler.forwardedHeaders)])]),
      ("handle_response", Handler.authenticationAnswers login)]
  | .respond status =>
    .obj [("handler", .str "static_response"), ("status_code", .int status)]
  | .subroute branches =>
    .obj [("handler", .str "subroute"), ("routes", .arr (branchesJson branches))]

/-- The branch in the proxy's document. -/
def Branch.toJson : Branch → Json
  | .mk condition handlers exclusive =>
    .obj ((condition.toJson?.map fun m => ("match", m)).toList ++
      [("handle", .arr (handlersJson handlers))] ++
      (if exclusive then [("terminal", .bool true)] else []))

/-- Handlers in the proxy's document. -/
def handlersJson : List Handler → List Json
  | [] => []
  | h :: rest => h.toJson :: handlersJson rest

/-- Branches in the proxy's document. -/
def branchesJson : List Branch → List Json
  | [] => []
  | b :: rest => b.toJson :: branchesJson rest
end

end EdgeProxy
