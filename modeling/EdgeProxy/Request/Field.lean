import EdgeProxy.Hostname.Label
import EdgeProxy.Json.Writer
import EdgeProxy.Request.Rejection
import EdgeProxy.Text.Blank
import EdgeProxy.Text.Numeral
/-!
Reading the fields of requests.  Names are lower-cased and checked against their grammar, ports are
read from numbers and texts, endpoints from objects.
-/

namespace EdgeProxy.Request

def baseDomain (v : Json) : Requested String :=
  match v with
  | .str s =>
    if s.isEmpty then reject .noBaseDomain
    else
      let domain := Text.lower (Text.trim s)
      if Hostname.isDomainText domain then .ok domain else reject .domainFormat
  | _ => reject .noBaseDomain

/-- A label that is none of the reserved ones. -/
def freeLabel (format : Rejection) (reserved : String → Rejection) (v : Json) : Requested String :=
  match v with
  | .str s =>
    let label := Text.lower s
    if !Hostname.isLabelText label then reject format
    else if reservedLabels.contains label then reject (reserved label)
    else .ok label
  | _ => reject format

def subdomain (v : Json) : Requested String := freeLabel .subdomainFormat .subdomainReserved v

def slug (v : Json) : Requested String := freeLabel .slugFormat .slugReserved v

def customDomain (v : Json) : Requested String :=
  match v with
  | .str s =>
    let domain := Text.lower s
    if Hostname.isDomainText domain then .ok domain else reject .customDomainFormat
  | _ => reject .customDomainFormat

/-- A value that is to be shown as a text.  An integer in it that is too long to be written is a
fault. -/
def showable (v : Json) : Requested Json :=
  if v.isWritable then .ok v else .error (.fault .badValue)

/-- The slug of an API: the letters, digits and hyphens of the value. -/
def apiSlug (v : Json) : String :=
  let s := if v.truthy then v.plainText else ""
  String.ofList ((Text.lower s).toList.filter Hostname.isLabelChar)

/-- The labels that an environment puts into names. -/
def labels (v : Json) (field : String) (allowEmpty : Bool) : Requested String :=
  match v with
  | .str s =>
    let labels := Text.lower (Text.trim s)
    if labels.isEmpty then if allowEmpty then .ok "" else reject (.prefixMissing field)
    else if Hostname.isLabelsText labels then .ok labels
    else reject (.prefixFormat field)
  | _ => reject (.prefixNotText field)

/-- The identifier of an environment: its name with a hyphen for all but letters and digits. -/
def environmentId (name : String) : String :=
  String.ofList ((Text.lower name).toList.map fun c => if Hostname.isLabelEdge c then c else '-')

def portOfInteger (n : Int) (subject : String) : Requested Port :=
  match Port.ofInt? n with
  | some p => .ok p
  | none => reject (.port subject)

/-- A port: a number, whose fraction is dropped, or a text that spells an integer. -/
def port (v : Json) (subject : String) : Requested Port :=
  match v with
  | .int n => portOfInteger n subject
  | .float x =>
    match x, x.truncate? with
    | .infinite _, _ => .error (.fault .overflow)
    | _, some n => portOfInteger n subject
    | _, none => reject (.port subject)
  | .str s =>
    match Text.readInteger s with
    | some n => portOfInteger n subject
    | none => reject (.port subject)
  | _ => reject (.port subject)

def targetHost (fields : Fields) (subject : String) : Requested String :=
  match fields.get? "targetHost" with
  | some (.str s) => if s.isEmpty then reject (.targetHostMissing subject) else .ok (Text.trim s)
  | _ => reject (.targetHostMissing subject)

/-- Whether a field counts as set. -/
def isSet (fields : Fields) (key : String) : Bool := (fields.valueOf key).truthy

/-- The backend of an endpoint; `portSubject` names its port. -/
def backend (fields : Fields) (subject portSubject : String) : Requested Backend := do
  let host ← targetHost fields subject
  let port ← port (fields.valueOf "targetPort") portSubject
  .ok ⟨host, port, isSet fields "localOnly", isSet fields "requireAuth"⟩

def endpoint (v : Json) (subject : String) : Requested Endpoint :=
  match v with
  | .obj fields => do
    let b ← backend fields subject (subject ++ " port")
    .ok ⟨b, []⟩
  | _ => reject (.endpointShape subject)

def api (v : Json) (subject : String) : Requested Api :=
  match v with
  | .obj fields => do
    let slug ← showable (Fields.valueOf fields "slug")
    let b ← backend fields subject (subject ++ " API port")
    .ok ⟨b, apiSlug slug, []⟩
  | _ => reject (.apiShape subject)

/-- The frontend of an endpoint set: kept if it is not mentioned, removed if it is set to
nothing. -/
def frontend (fields : Fields) (subject : String) (present : Option Endpoint) :
    Requested (Option Endpoint) :=
  match fields.get? "frontend" with
  | none => .ok present
  | some v => if v.truthy then (endpoint v subject).map some else .ok none

def apiList (subject : String) : List Json → Requested (List Api)
  | [] => .ok []
  | v :: rest => do
    let a ← api v subject
    let more ← apiList subject rest
    .ok (a :: more)

/-- The single API that may be given in place of a list; it has no slug. -/
def singleApi (v : Json) (subject : String) : Requested (List Api) :=
  match v with
  | .obj fields => apiList subject [.obj (Fields.set fields "slug" (.str ""))]
  | v => if v.truthy then apiList subject [v] else .ok []

/-- The APIs of an endpoint set: kept if they are not mentioned. -/
def apis (fields : Fields) (subject : String) (present : List Api) : Requested (List Api) :=
  match fields.get? "apis", fields.get? "api" with
  | some (.arr items), _ => apiList subject items
  | some _, _ => .ok []
  | none, some v => singleApi v subject
  | none, none => .ok present

/-- Whether no slug is given to two APIs. -/
def distinctSlugs (apis : List Api) : Bool :=
  let slugs := apis.map (·.slug)
  slugs.eraseDups.length == slugs.length

/-- The endpoints of one environment; what is not mentioned stays as it is in `present`. -/
def endpointSet (v : Json) (environment : String) (present : Option EndpointSet) :
    Requested EndpointSet :=
  match v with
  | .obj fields => do
    let subject := "environment " ++ environment
    let frontend ← frontend fields subject (present.bind (·.frontend))
    let apis ← apis fields subject ((present.map (·.apis)).getD [])
    if distinctSlugs apis then .ok ⟨frontend, apis, []⟩ else reject (.duplicateApiSlug subject)
  | _ => reject (.endpointsShape environment)

end EdgeProxy.Request
