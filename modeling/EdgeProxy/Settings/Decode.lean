import EdgeProxy.Registry.Decode
import EdgeProxy.Settings.Basic
/-!
Reading settings from named values; names that mean nothing are passed over.
-/

namespace EdgeProxy.Settings

/-- A setting, with a value for when it is not given. -/
def setting {α : Type} (name : String) (check : Json → Checked α) (value : α) (fields : Fields) :
    Checked α :=
  (FieldName.word name).orElse check value fields

/-- The names of the settings that other modules refer to. -/
def registryPathName : String := "registry_path"

def adminUrlName : String := "proxy_admin_url"

def dashboardBackendName : String := "dashboard_upstream"

def authBackendName : String := "auth_upstream"

def tokenVariableName : String := "cloudflare_token_env"

def tokenName : String := "cloudflare_api_token"

/-- Settings with the given values and those of `base` for the others. -/
def decode (base : Settings) (fields : Fields) : Checked Settings :=
  Settings.mk <$>
    setting registryPathName Scalar.path base.registryPath fields <*>
    setting adminUrlName Scalar.text base.adminUrl fields <*>
    setting "push_timeout" Scalar.number base.pushTimeout fields <*>
    setting "confirm_push" Scalar.flag base.confirmPush fields <*>
    setting "server_name" Scalar.text base.serverName fields <*>
    setting "listen" (Scalar.list Scalar.text) base.listen fields <*>
    setting dashboardBackendName Scalar.text base.dashboardBackend fields <*>
    setting authBackendName Scalar.text base.authBackend fields <*>
    setting "forward_auth_path" Scalar.text base.forwardAuthPath fields <*>
    setting "cert_probe_port" Scalar.integer base.probePort fields <*>
    setting "cert_probe_timeout" Scalar.number base.probeTimeout fields <*>
    setting "cert_probe_workers" Scalar.integer base.probeWorkers fields <*>
    setting tokenVariableName Scalar.text base.tokenVariable fields <*>
    setting tokenName Scalar.optionalText base.token fields

/-- The settings as a value. -/
def toJson (s : Settings) : Json :=
  .obj [(registryPathName, .str s.registryPath.text), (adminUrlName, .str s.adminUrl),
    ("push_timeout", .float s.pushTimeout), ("confirm_push", .bool s.confirmPush),
    ("server_name", .str s.serverName), ("listen", .texts s.listen),
    (dashboardBackendName, .str s.dashboardBackend), (authBackendName, .str s.authBackend),
    ("forward_auth_path", .str s.forwardAuthPath), ("cert_probe_port", .int s.probePort),
    ("cert_probe_timeout", .float s.probeTimeout), ("cert_probe_workers", .int s.probeWorkers),
    (tokenVariableName, .str s.tokenVariable), (tokenName, .ofText? s.token)]

end EdgeProxy.Settings
