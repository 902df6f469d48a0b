import EdgeProxy.Registry.Encode
import EdgeProxy.Request.Payload
import EdgeProxy.Route.Tls
/-!
Changes of the base domain and of the provider of wildcard certificates.
-/

namespace EdgeProxy

/-- Whether a payload switches the provider on or off; switching it on needs a token. -/
def Settings.providerSwitch (settings : Settings) (data : Json) : Requested Bool := do
  match ← Payload.given data "enabled" with
  | some (.bool enabled) =>
    if enabled && !settings.hasToken then reject (.tokenMissing settings.tokenVariable)
    else .ok enabled
  | _ => reject .providerFlagMissing

namespace Registry

def setBaseDomain (domain : String) (r : Registry) : Registry := { r with baseDomain := domain }

def switchProvider (enabled : Bool) (r : Registry) : Requested Registry :=
  if enabled && r.baseDomain.isEmpty then reject .providerBaseDomainMissing
  else
    .ok { r with provider := { r.provider with
      enabled := enabled, domains := if enabled then r.wildcardPatterns else [] } }

/-- Bring the stored patterns up to date if the provider is on. -/
def refreshPatterns (r : Registry) : Registry :=
  if r.provider.enabled then
    { r with provider := { r.provider with domains := r.wildcardPatterns } }
  else r

/-- The provider as shown, with the state of its token. -/
def providerView (r : Registry) (settings : Settings) : Json :=
  .obj ((r.provider.encodeFields.set "tokenConfigured" (.bool settings.hasToken)).set "tokenEnv"
    (.str settings.tokenVariable))

end Registry

end EdgeProxy
