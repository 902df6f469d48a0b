import EdgeProxy.Certificate.Pool
import EdgeProxy.Proxy.Exchange
import EdgeProxy.Store.File
/-!
The world that operations act in: the files, the proxy, the peers that certificates are served by
and the supply of identifiers, with a record of the requests and connections that were made.
-/

namespace EdgeProxy

/-- The world around the program. -/
structure World where
  files : Files
  line : Line
  peers : Peers
  probes : List Probe
  supply : Supply

namespace World

/-- Read the stored registry. -/
def load (settings : Settings) (w : World) : Except StoreFailure Registry × World :=
  let (result, supply) := Store.load w.supply w.files settings.registryPath
  (result, { w with supply := supply })

/-- Write a registry that was computed from a given version. -/
def save (settings : Settings) (registry : Registry) (expected : Option Int) (w : World) :
    Except StoreFailure Registry × World :=
  let (result, files) := Store.save registry w.files settings.registryPath expected
  (result, { w with files := files })

/-- An exchange with the control plane. -/
def exchange {α : Type} (act : Line → α × Line) (w : World) : α × World :=
  let (a, line) := act w.line
  (a, { w with line := line })

end World

/-- The client of the control plane that settings name. -/
def Settings.client (settings : Settings) : Client :=
  Client.make settings.adminUrl settings.pushTimeout

/-- The outcome of a push of the compiled registry. -/
structure Applied where
  push : PushResult
  routes : Nat
  /-- The strategy by which certificates are obtained. -/
  strategy : String
deriving DecidableEq, Repr

namespace Applied

/-- The outcome as a value. -/
def toJson (a : Applied) : Json :=
  .obj ([("ok", .bool a.push.accepted), ("routes", .int a.routes),
    ("tlsStrategy", .str a.strategy)] ++ a.push.details)

end Applied

namespace World

/-- Ask whether the pushed rules are live, if that is wanted and the push was accepted. -/
def confirmed (settings : Settings) (ruleIds : List String) (push : PushResult) (w : World) :
    Except Fault PushResult × World :=
  if push.accepted && settings.confirmPush then
    match w.exchange (settings.client.confirm ruleIds) with
    | (.error fault, w) => (.error fault, w)
    | (.ok live, w) => (.ok { push with converged := some live }, w)
  else (.ok push, w)

/-- Compile a registry and push it.  The rules and the strategy that are told of are those of the
document. -/
def apply (settings : Settings) (registry : Registry) (w : World) : Except Fault Applied × World :=
  let document := (registry.compile settings).toJson
  match w.exchange (settings.client.push document) with
  | (.error fault, w) => (.error fault, w)
  | (.ok push, w) =>
    let rules := document.serverRules settings.serverName
    match confirmed settings (rules.map Json.ruleId) push w with
    | (.error fault, w) => (.error fault, w)
    | (.ok push, w) => (.ok ⟨push, rules.length, document.tlsStrategy⟩, w)

end World

end EdgeProxy
