import EdgeProxy.Proofs.Edge.Serve
import EdgeProxy.Route.Login
import EdgeProxy.Route.Basic
import Mathlib.Data.List.Infix
/-!
What a registry declares of a request, said without any document.  A name belongs to one backend; the
backend's marks, the caller's address and the answer of the authentication service decide who is
contacted and what is answered.
-/

namespace EdgeProxy

/-- The names of enabled endpoints and hosts, with their backends.  Endpoints and subdomains have a name
only while the base domain is set. -/
inductive Registry.Named (r : Registry) : String → Backend → Option Environment → Prop where
  | frontend {app : Application} {e : Environment} {set : EndpointSet} {endpoint : Endpoint}
      (happ : app ∈ r.applications) (henabled : app.enabled = true) (he : e ∈ r.environments)
      (hset : app.endpointSet? e.id = some set) (hfrontend : set.frontend = some endpoint)
      (hbase : r.baseDomain ≠ "") :
      Named r (app.domain .frontend e r.baseDomain) endpoint.toBackend (some e)
  | api {app : Application} {e : Environment} {set : EndpointSet} {api : Api}
      (happ : app ∈ r.applications) (henabled : app.enabled = true) (he : e ∈ r.environments)
      (hset : app.endpointSet? e.id = some set) (hapi : api ∈ set.apis)
      (hbase : r.baseDomain ≠ "") :
      Named r (app.domain (.api api.slug) e r.baseDomain) api.toBackend (some e)
  | host {h : Host} (hhost : h ∈ r.hosts) (henabled : h.enabled = true)
      (hname : isGiven h.customDomain = true ∨ r.baseDomain ≠ "") :
      Named r (h.domain r.baseDomain) h.toBackend none

namespace Edge

/-- Whether a request asks for a web socket. -/
def Visit.AsksWebSocket (visit : Visit) : Prop :=
  ∃ value, value = "websocket" ∧
    ∃ name, (name, value) ∈ visit.headers ∧ Text.lower name = Text.lower "Upgrade"

def IsDevelopment (environment : Option Environment) : Prop :=
  ∃ e, environment = some e ∧ "dev".toList <:+: (Text.lower e.id).toList

/-- Whether an answer says where to log in. -/
def Reply.GivesLogin (reply : Reply) : Prop :=
  ∃ header ∈ reply.headers, Text.lower header.1 = Text.lower redirectHeader

/-- How the authentication service is asked. -/
def inquiry (settings : Settings) : Contact := ⟨settings.authBackend, some settings.forwardAuthPath⟩

/-- How a request is passed on to a backend. -/
def upstream (backend : Backend) : Contact := ⟨backend.address, none⟩

/-- What comes of a request for a backend that is behind the authentication service.  The address that
a caller is sent to holds places that the proxy fills in. -/
inductive Guarded (settings : Settings) (base : String) (visit : Visit) (backend : Backend) :
    Outcome → Prop where
  | admitted
      (h : 200 ≤ (visit.reply (inquiry settings)).status ∧
        (visit.reply (inquiry settings)).status < 300) :
      Guarded settings base visit backend (.after (inquiry settings) (.relay (upstream backend)))
  | sentToLogin
      (h : (visit.reply (inquiry settings)).status = 401 ∨
        (visit.reply (inquiry settings)).status = 403)
      (hlogin : (visit.reply (inquiry settings)).GivesLogin) :
      Guarded settings base visit backend
        ⟨[inquiry settings],
          .own 302 (some (placeholder ("http.reverse_proxy.header." ++ redirectHeader)))⟩
  | sentToPortal
      (h : (visit.reply (inquiry settings)).status = 401 ∨
        (visit.reply (inquiry settings)).status = 403)
      (hlogin : ¬ (visit.reply (inquiry settings)).GivesLogin) :
      Guarded settings base visit backend
        ⟨[inquiry settings], .own 302 (some (Route.loginUrl base Route.returnAddress))⟩
  | turnedAway
      (h : ¬ (200 ≤ (visit.reply (inquiry settings)).status ∧
        (visit.reply (inquiry settings)).status < 300))
      (hunauthorized : (visit.reply (inquiry settings)).status ≠ 401)
      (hforbidden : (visit.reply (inquiry settings)).status ≠ 403) :
      Guarded settings base visit backend ⟨[inquiry settings], .relayed (inquiry settings)⟩

/-- What comes of a request for a backend. -/
inductive Serves (settings : Settings) (base : String) (visit : Visit) (backend : Backend)
    (environment : Option Environment) : Outcome → Prop where
  | outside (hlocal : backend.localOnly = true) (hclient : ¬ visit.client.IsPrivate) :
      Serves settings base visit backend environment ⟨[], .own 403 none⟩
  | free (hlocal : backend.localOnly = true → visit.client.IsPrivate)
      (hauth : backend.requireAuth = false) :
      Serves settings base visit backend environment (.relay (upstream backend))
  | webSocket (hlocal : backend.localOnly = true → visit.client.IsPrivate)
      (hauth : backend.requireAuth = true) (hdevelopment : IsDevelopment environment)
      (hsocket : visit.AsksWebSocket) :
      Serves settings base visit backend environment (.relay (upstream backend))
  | guarded {o : Outcome} (hlocal : backend.localOnly = true → visit.client.IsPrivate)
      (hauth : backend.requireAuth = true)
      (hsocket : ¬ (IsDevelopment environment ∧ visit.AsksWebSocket))
      (ho : Guarded settings base visit backend o) :
      Serves settings base visit backend environment o

end Edge

open Edge

/-- What a registry declares of a request. -/
inductive Registry.Declares (r : Registry) (settings : Settings) (visit : Visit) : Outcome → Prop where
  | dashboard (hbase : r.baseDomain ≠ "")
      (hhost : Text.lower ("proxy." ++ r.baseDomain) = Text.lower visit.host) :
      Declares r settings visit (.relay ⟨settings.dashboardBackend, none⟩)
  | portal (hbase : r.baseDomain ≠ "")
      (hhost : Text.lower ("auth." ++ r.baseDomain) = Text.lower visit.host) :
      Declares r settings visit (.relay ⟨settings.authBackend, none⟩)
  | backend {name : String} {backend : Backend} {environment : Option Environment} {o : Outcome}
      (hnamed : r.Named name backend environment) (hhost : Text.lower name = Text.lower visit.host)
      (ho : Serves settings r.baseDomain visit backend environment o) :
      Declares r settings visit o
  | unrouted
      (hsystem : r.baseDomain ≠ "" → Text.lower ("proxy." ++ r.baseDomain) ≠ Text.lower visit.host ∧
        Text.lower ("auth." ++ r.baseDomain) ≠ Text.lower visit.host)
      (hnamed : ∀ name backend environment, r.Named name backend environment →
        Text.lower name ≠ Text.lower visit.host) :
      Declares r settings visit .nothing

end EdgeProxy
