import EdgeProxy.File.Path
import EdgeProxy.Number.Binary64
import EdgeProxy.Text.Blank
import EdgeProxy.Text.Search
/-!
Settings: where things live, as opposed to what is routed.
-/

namespace EdgeProxy

/-- The settings of a run. -/
structure Settings where
  registryPath : Path
  /-- The address of the proxy's control plane. -/
  adminUrl : String
  pushTimeout : Binary64
  /-- Whether the proxy is asked for its routes after a push. -/
  confirmPush : Bool
  serverName : String
  listen : List String
  dashboardBackend : String
  authBackend : String
  forwardAuthPath : String
  probePort : Int
  probeTimeout : Binary64
  probeWorkers : Int
  /-- The environment variable that the proxy reads its provider token from. -/
  tokenVariable : String
  token : Option String
deriving DecidableEq

namespace Settings

def installedRegistry : String := "/var/lib/server-dashboard/reverseproxy-config.json"

/-- The settings of an installation that sets nothing. -/
def standard : Settings where
  registryPath := Path.ofText installedRegistry
  adminUrl := "http://localhost:2019"
  pushTimeout := Binary64.ofInt 10
  confirmPush := true
  serverName := "edge"
  listen := [":443"]
  dashboardBackend := "localhost:4000"
  authBackend := "localhost:4000"
  forwardAuthPath := "/api/authz/forward-auth"
  probePort := 443
  probeTimeout := Binary64.ofInt 5
  probeWorkers := 8
  tokenVariable := "CF_API_TOKEN"
  token := none

/-- The host and port that the control plane listens on. -/
def adminListen (s : Settings) : String :=
  Text.beforeFirst "/" (Text.dropTrailing '/' (Text.afterFirst "://" s.adminUrl))

def hasToken (s : Settings) : Bool := s.token.any (!·.isEmpty)

end Settings

end EdgeProxy
