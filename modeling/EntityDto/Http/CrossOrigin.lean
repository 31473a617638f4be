import EntityDto.Http.ConvertRequest
import EntityDto.Http.Routes

/-! How the deployed libraries hold pages to a policy, and the server on these libraries. -/

namespace EntityDto

open Text

/-- What a foreign page asks before it sends a request of some kinds. -/
structure Preflight where
  origin : Text
  method : Text
  /-- The headers that the request is to have, separated by commas. -/
  headers : Option Text
  /-- Whether the page says that the server stands in a more private network than its own. -/
  asksPrivateNetwork : Bool
  deriving DecidableEq

namespace Preflight

/-- The request headers that a preflight is made of. -/
def inputs : List Text :=
  ["Origin".toList, "Access-Control-Request-Method".toList,
    "Access-Control-Request-Headers".toList, "Access-Control-Request-Private-Network".toList]

/-- The preflight that a request is, if it is one. -/
def ofRequest? (request : HttpRequest) : Option Preflight :=
  let origin := request.headers.get? "origin".toList
  let asked := request.headers.get? "access-control-request-method".toList
  match origin, asked, decide (request.method = "OPTIONS".toList) with
  | some origin, some method, true =>
    some {
      origin, method
      headers := request.headers.get? "access-control-request-headers".toList
      -- Asking counts, whatever the header says.
      asksPrivateNetwork :=
        (request.headers.get? "access-control-request-private-network".toList).isSome }
  | _, _, _ => none

end Preflight

namespace CrossOriginPolicy

/-- The request headers that are allowed under every policy. -/
def safeHeaders : List Text :=
  ["Accept".toList, "Accept-Language".toList, "Content-Language".toList, "Content-Type".toList]

/-- Whether a name stands before another one where names are sorted by their characters. -/
def sortsBefore (name other : Text) : Bool :=
  List.lex name other fun char next => decide (char.toNat < next.toNat)

/-- The request headers that are allowed, each once and sorted. -/
def requestHeaders (policy : CrossOriginPolicy) : List Text :=
  (safeHeaders ++ policy.allowedHeaders.filter (· ∉ safeHeaders)).eraseDups.mergeSort
    fun name other => !sortsBefore other name

/-- The header that names who may read the response. -/
def allowOrigin (origin : Text) : Text × Text :=
  ("access-control-allow-origin".toList, origin)

/-- The header that admits credentials, where they are admitted. -/
def credentialHeaders (policy : CrossOriginPolicy) : Headers :=
  if policy.allowCredentials then [("access-control-allow-credentials".toList, "true".toList)]
  else []

/-- A comma-separated list of requested headers holds only allowed ones. -/
def allowsHeaders (policy : CrossOriginPolicy) (requested : Text) : Bool :=
  (splitWhere (· = ',') requested).all fun name =>
    (headerKey name).trim ∈ policy.requestHeaders.map headerKey

/-- The headers of a response that name who may read it. -/
def originHeaders (policy : CrossOriginPolicy) (origin : Text) : Headers :=
  -- Credentials forbid the wildcard, so the origin itself is named where they are admitted.
  if policy.allowsAll && !policy.allowCredentials then [allowOrigin "*".toList]
  else if policy.allows origin then [allowOrigin origin]
  else []

/-- The parts of a preflight that the policy refuses. -/
def refusedParts (policy : CrossOriginPolicy) (preflight : Preflight) : List Text :=
  (if policy.allows preflight.origin then [] else ["origin".toList])
    ++ (if preflight.method ∈ policy.allowedMethods then [] else ["method".toList])
    ++ (if preflight.headers.all policy.allowsHeaders then [] else ["headers".toList])
    -- No deployment lets foreign pages reach into its private network.
    ++ if preflight.asksPrivateNetwork then ["private-network".toList] else []

/-- What a preflight is told about methods and headers, whatever it asks for. -/
def preflightHeaders (policy : CrossOriginPolicy) : Headers :=
  [("vary".toList, join ", ".toList Preflight.inputs),
    ("access-control-allow-methods".toList, join ", ".toList policy.allowedMethods),
    ("access-control-max-age".toList, "600".toList),
    ("access-control-allow-headers".toList, join ", ".toList policy.requestHeaders)]

/-- The response to a preflight. -/
def answer (policy : CrossOriginPolicy) (preflight : Preflight) : HttpResponse :=
  let headers :=
    policy.preflightHeaders ++ policy.originHeaders preflight.origin ++ policy.credentialHeaders
  match policy.refusedParts preflight with
  | [] => ⟨200, headers, .text "OK".toList⟩
  | refused => ⟨400, headers, .text ("Disallowed CORS ".toList ++ join ", ".toList refused)⟩

/-- The headers that an ordinary response gets; all but one go to foreign pages only. -/
def simpleHeaders (policy : CrossOriginPolicy) (headers : Headers) : Headers :=
  ("vary".toList, "Origin".toList) ::
    match headers.get? "origin".toList with
    | none => []
    | some origin =>
      policy.originHeaders origin ++ policy.credentialHeaders
        ++ [("access-control-expose-headers".toList, join ", ".toList policy.exposedHeaders)]

/-- Answers preflights, and adds headers to what a handler answers to other requests. -/
def guard (policy : CrossOriginPolicy) (handler : Handler) : Handler := fun request =>
  match Preflight.ofRequest? request with
  | some preflight => policy.answer preflight
  | none =>
    let response := handler request
    { response with headers := policy.simpleHeaders request.headers ++ response.headers }

end CrossOriginPolicy

/-- The libraries of the deployment. -/
def Framework.deployed : Framework where
  readBody := ConvertRequest.readBody
  route := Operation.respond
  crossOrigin := CrossOriginPolicy.guard

/-- The response of the deployed server to a request. -/
def serve (settings : Settings) (request : HttpRequest) : HttpResponse :=
  Framework.deployed.serve settings request

end EntityDto
