import EntityDto.Conversion
import EntityDto.Http.Basic
import EntityDto.Settings.Basic

/-! The operations of the server, and the framework that carries requests to them and back. -/

namespace EntityDto

open Text

/-- What a client asks to have converted; flags that are not given come from the settings. -/
structure ConvertRequest where
  source : Text
  forceOptional : Option Bool
  stripAudit : Option Bool
  deriving DecidableEq

namespace ConvertRequest

/-- The names of the flag that makes every field optional. -/
def forceOptionalNames : List Text :=
  ["forceOptional".toList, "force_optional".toList]

/-- The names of the flag that strips audit fields. -/
def stripAuditNames : List Text :=
  ["stripAudit".toList, "strip_audit".toList]

end ConvertRequest

/-- A field as a client sees it. -/
def Field.summary (field : Field) : Json :=
  .object [("name".toList, .text field.name), ("tsType".toList, .text field.type),
    ("optional".toList, .bool field.optional),
    ("decorators".toList, .list (field.decorators.map .text)),
    ("relation".toList, .bool field.isRelation), ("audit".toList, .bool field.isAudit),
    ("generatedPrimary".toList, .bool field.isGeneratedKey),
    ("tinyintBoolean".toList, .bool field.isTinyintBoolean)]

namespace Conversion

/-- A text that may be lacking. -/
def optionalText : Option Text → Json
  | some value => .text value
  | none => .null

/-- A successful conversion as a client sees it; a blank source has neither names nor fields. -/
def summary (conversion : Conversion) : Json :=
  .object [
    ("className".toList, optionalText (conversion.entity?.map Entity.className)),
    ("baseName".toList, optionalText (conversion.entity?.map Entity.baseName)),
    ("requestDto".toList, .text conversion.request),
    ("responseDto".toList, .text conversion.response),
    ("fields".toList,
      .list ((conversion.entity?.map Entity.fields).getD [] |>.map Field.summary))]

end Conversion

/-- The response to a conversion request. -/
def convertResponse (settings : Settings) (request : ConvertRequest) : HttpResponse :=
  let options := settings.options request.forceOptional request.stripAudit
  match (convert request.source options).value with
  | .failed error => explained 422 (.text error.message)
  | conversion => { status := 200, content := .json conversion.summary }

/-- What the server offers under a method at a path, with its answer to a body. -/
structure Operation where
  method : Text
  path : Text
  answer : Option Json → HttpResponse

/-- Which origins may call and how, as the server asks for it. -/
structure CrossOriginPolicy where
  /-- The origins that may call; an asterisk among them stands for every origin. -/
  allowedOrigins : List Text
  /-- Whether pages may call with credentials. -/
  allowCredentials : Bool
  allowedMethods : List Text
  /-- The request headers that are allowed besides those that always are. -/
  allowedHeaders : List Text
  exposedHeaders : List Text
  deriving DecidableEq

namespace CrossOriginPolicy

/-- Whether every origin may call. -/
def allowsAll (policy : CrossOriginPolicy) : Bool :=
  "*".toList ∈ policy.allowedOrigins

/-- Whether an origin may call. -/
def allows (policy : CrossOriginPolicy) (origin : Text) : Bool :=
  policy.allowsAll || origin ∈ policy.allowedOrigins

end CrossOriginPolicy

/-- Only the configured client may call a production deployment; anyone may call another one. -/
def Settings.crossOriginPolicy (settings : Settings) : CrossOriginPolicy where
  allowedOrigins := if settings.isProduction then [settings.clientUrl] else ["*".toList]
  allowCredentials := settings.isProduction
  allowedMethods :=
    ["GET".toList, "HEAD".toList, "PUT".toList, "PATCH".toList, "POST".toList, "DELETE".toList,
      "OPTIONS".toList]
  allowedHeaders := ["Content-Type".toList, "Authorization".toList]
  exposedHeaders := ["Authorization".toList]

/-- The libraries that the server stands on: what they make of bodies, operations and policies. -/
structure Framework where
  /-- Reads the body of a conversion request, or answers why it is none. -/
  readBody : Option Json → Except HttpResponse ConvertRequest
  /-- Carries requests to the operations that they are meant for. -/
  route : List Operation → Handler
  /-- Stands in front of a handler and holds pages of other origins to a policy. -/
  crossOrigin : CrossOriginPolicy → Handler → Handler

/-- The operation that tells whether the server is up. -/
def healthOperation : Operation where
  method := "GET".toList
  path := "/v1/health".toList
  answer _ := { status := 200, content := .json (.object [("status".toList, .text "ok".toList)]) }

namespace Framework

/-- The operation that converts what is posted to it. -/
def convertOperation (framework : Framework) (settings : Settings) : Operation where
  method := "POST".toList
  path := "/v1/convert".toList
  answer body :=
    match framework.readBody body with
    | .ok request => convertResponse settings request
    | .error refusal => refusal

/-- The operations of the server, in order. -/
def operations (framework : Framework) (settings : Settings) : List Operation :=
  [healthOperation, framework.convertOperation settings]

/-- The response of the server to a request, whatever libraries it stands on. -/
def serve (framework : Framework) (settings : Settings) : Handler :=
  framework.crossOrigin settings.crossOriginPolicy
    (framework.route (framework.operations settings))

end Framework

/-- The version that the server shows. -/
def serverVersion : Text := "0.1.0".toList

/-- What the server reports from its start to its end. -/
def lifespanEvents (settings : Settings) : List Event :=
  [.serverStarted settings.appEnv settings.apiHost settings.apiPort, .serverStopped]

end EntityDto
