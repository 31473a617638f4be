import EntityDto.Http.CrossOrigin
import Mathlib.Data.List.Basic

/-!
What the server relies on in the libraries that it stands on, and why the deployed ones provide it.

The laws are stated for any framework, and say no more than what is promised to every server.
-/

namespace EntityDto

open Text

/-- The name of the header that says who may read a response. -/
def originHeaderName : Text := "access-control-allow-origin".toList

/-- The name of the header that admits credentials. -/
def credentialsHeaderName : Text := "access-control-allow-credentials".toList

/-- The name of a header that neither names a reader nor admits credentials. -/
def IsNeutral (name : Text) : Prop :=
  headerKey name ≠ originHeaderName ∧ headerKey name ≠ credentialsHeaderName

instance : DecidablePred IsNeutral := fun _ => inferInstanceAs (Decidable (_ ∧ _))

/-- A response that says nothing to pages of other origins. -/
def HttpResponse.IsSilent (response : HttpResponse) : Prop :=
  ∀ header ∈ response.headers, IsNeutral header.1

/-- A response that explains itself only. -/
theorem isSilent_explained (status : Nat) (detail : Json) : (explained status detail).IsSilent :=
  List.forall_mem_nil _

/-- A request by which a page asks whether it may send another one. -/
structure HttpRequest.IsPreflight (request : HttpRequest) (origin : Text) : Prop where
  isOptions : request.method = "OPTIONS".toList
  fromOrigin : request.headers.get? "origin".toList = some origin
  asks : (request.headers.get? "access-control-request-method".toList).isSome = true

/-- What a body says about a flag that may be sent under one of several names. -/
inductive ConvertRequest.SendsFlag (body : Json) (names : List Text) : Option Bool → Prop where
  /-- The flag is sent under none of its names. -/
  | missing (absent : ∀ name ∈ names, body.member? name = none) : SendsFlag body names none
  /-- The flag is null under one name, and the others are not there. -/
  | null (name : Text) (isName : name ∈ names) (given : body.member? name = some .null)
    (alone : ∀ other ∈ names, other ≠ name → body.member? other = none) :
    SendsFlag body names none
  /-- The flag is a truth value under one name, and the others are not there. -/
  | bool (name : Text) (value : Bool) (isName : name ∈ names)
    (given : body.member? name = some (.bool value))
    (alone : ∀ other ∈ names, other ≠ name → body.member? other = none) :
    SendsFlag body names (some value)

namespace Framework

/-- Bodies are read as the fields of a conversion request say. -/
structure ReadsBodies (framework : Framework) : Prop where
  /-- A source text and two flags, each a truth value, null or missing, make a request. -/
  reads {members : List (Text × Json)} {source : Text} {forceOptional stripAudit : Option Bool} :
    (Json.object members).member? "source".toList = some (.text source) →
    ConvertRequest.SendsFlag (.object members) ConvertRequest.forceOptionalNames forceOptional →
    ConvertRequest.SendsFlag (.object members) ConvertRequest.stripAuditNames stripAudit →
    framework.readBody (some (.object members)) = .ok ⟨source, forceOptional, stripAudit⟩
  /-- The answer to any other body has no headers for pages of other origins. -/
  refusal_isSilent {body : Option Json} {refusal : HttpResponse} :
    framework.readBody body = .error refusal → refusal.IsSilent

/-- Requests reach the operations that the server declares. -/
structure RoutesRequests (framework : Framework) : Prop where
  /-- A request with the method and the path of an operation of the server gets its answer. -/
  answers {settings : Settings} {operation : Operation} {request : HttpRequest} :
    operation ∈ framework.operations settings →
    request.method = operation.method → request.path = operation.path →
    let response := framework.route (framework.operations settings) request
    response.status = (operation.answer request.body).status
      ∧ response.content = (operation.answer request.body).content
  /-- Headers for pages of other origins come from operations alone, for known paths or others. -/
  route_isSilent {operations : List Operation} :
    (∀ operation ∈ operations, ∀ body, (operation.answer body).IsSilent) →
    ∀ request, (framework.route operations request).IsSilent

/-- Pages of other origins are held to the policy that the server states. -/
structure GuardsOrigins (framework : Framework) : Prop where
  /-- A request that is no preflight gets the answer of the handler. -/
  passes {policy : CrossOriginPolicy} {handler : Handler} {request : HttpRequest} :
    (∀ origin, ¬ request.IsPreflight origin) →
    let response := framework.crossOrigin policy handler request
    response.status = (handler request).status ∧ response.content = (handler request).content
  /-- A preflight from an origin that may not call is a bad request. -/
  refuses {policy : CrossOriginPolicy} {handler : Handler} {request : HttpRequest}
    {origin : Text} :
    request.IsPreflight origin → ¬ policy.allows origin →
    (framework.crossOrigin policy handler request).status = 400
  /-- The only readers that are named are an origin that may call, to itself, and everyone. -/
  names {policy : CrossOriginPolicy} {handler : Handler} {request : HttpRequest}
    {header : Text × Text} :
    header ∈ (framework.crossOrigin policy handler request).headers →
    headerKey header.1 = originHeaderName →
    header ∈ (handler request).headers
      ∨ ∃ origin, request.headers.get? "origin".toList = some origin ∧ policy.allows origin
        ∧ (header.2 = origin ∨ policy.allowsAll ∧ header.2 = "*".toList)
  /-- Credentials are admitted where the policy does so, and nowhere else. -/
  admits {policy : CrossOriginPolicy} {handler : Handler} {request : HttpRequest}
    {header : Text × Text} :
    header ∈ (framework.crossOrigin policy handler request).headers →
    headerKey header.1 = credentialsHeaderName →
    header ∈ (handler request).headers ∨ policy.allowCredentials = true

/-- A framework that keeps all these laws. -/
structure Lawful (framework : Framework) : Prop
  extends ReadsBodies framework, RoutesRequests framework, GuardsOrigins framework

end Framework

namespace ConvertRequest

variable {body : Json} {names : List Text}

/-- Nothing is found for a flag that is sent under none of its names. -/
theorem givenMember?_eq_none (absent : ∀ name ∈ names, body.member? name = none) :
    givenMember? body names = none := by
  -- The names are asked one after the other, and none of them is there.
  induction names with
  | nil => rfl
  | cons name others ih =>
    rw [givenMember?, absent name List.mem_cons_self]
    exact ih fun other listed => absent other (List.mem_cons_of_mem _ listed)

/-- What is sent under one name of a flag alone is found there. -/
theorem givenMember?_eq_some {name : Text} {value : Json} (isName : name ∈ names)
    (given : body.member? name = some value)
    (alone : ∀ other ∈ names, other ≠ name → body.member? other = none) :
    givenMember? body names = some (name, value) := by
  induction names with
  | nil => exact absurd isName List.not_mem_nil
  | cons first others ih =>
    by_cases same : first = name
    · rw [same, givenMember?, given]
    · -- The first name is not the one in use, so the search goes on behind it.
      rw [givenMember?, alone first List.mem_cons_self same]
      refine ih ((List.mem_cons.mp isName).resolve_left (Ne.symm same)) ?_
      exact fun other listed => alone other (List.mem_cons_of_mem _ listed)

/-- A flag is read as it is sent, a null being as good as nothing. -/
theorem SendsFlag.optionalFlag_eq {sent : Option Bool} (sends : SendsFlag body names sent) :
    optionalFlag body names = .ok sent := by
  unfold optionalFlag
  -- However many names a flag has, the search stops at the one that is in use.
  cases sends with
  | missing absent => rw [givenMember?_eq_none absent]
  | null name isName given alone => rw [givenMember?_eq_some isName given alone]
  | bool name value isName given alone =>
    rw [givenMember?_eq_some isName given alone]
    rfl

/-- A body with a source text and two such flags is read as a request. -/
theorem readBody_eq_ok {members : List (Text × Json)} {source : Text}
    {forceOptional stripAudit : Option Bool}
    (sendsSource : (Json.object members).member? "source".toList = some (.text source))
    (sendsForce : SendsFlag (.object members) forceOptionalNames forceOptional)
    (sendsStrip : SendsFlag (.object members) stripAuditNames stripAudit) :
    readBody (some (.object members)) = .ok ⟨source, forceOptional, stripAudit⟩ := by
  -- None of the three members has a problem, so there is none to answer with.
  have readsSource : sourceText (.object members) = .ok source := by
    rw [sourceText, sendsSource]
  rw [readBody, ofBody, ofObject, readsSource, sendsForce.optionalFlag_eq,
    sendsStrip.optionalFlag_eq]
  rfl

/-- A body that cannot be read is answered with its problems and nothing else. -/
theorem isSilent_of_readBody {body : Option Json} {refusal : HttpResponse}
    (refused : readBody body = .error refusal) : refusal.IsSilent := by
  unfold readBody at refused
  -- Only a problem is answered, and its answer is an explanation.
  cases read : ofBody body with
  | ok request =>
    rw [read] at refused
    cases refused
  | error problems =>
    rw [read] at refused
    cases refused
    exact isSilent_explained _ _

/-- The deployed libraries read bodies as they should. -/
theorem readsBodies_deployed : Framework.deployed.ReadsBodies where
  reads := readBody_eq_ok
  refusal_isSilent := isSilent_of_readBody

end ConvertRequest

namespace Operation

/-- A request for one of the server's operations is answered by it. -/
theorem respond_operations (framework : Framework) (settings : Settings) {operation : Operation}
    {request : HttpRequest} (listed : operation ∈ framework.operations settings)
    (takes : request.method = operation.method) (isThere : request.path = operation.path) :
    respond (framework.operations settings) request = operation.answer request.body := by
  -- No two operations share a path, so the path alone tells which one is meant.
  have found : ((framework.operations settings).filter fun other =>
      other.path = plainPath request.path) = [operation] := by
    rw [isThere]
    rcases List.mem_pair.mp listed with rfl | rfl <;> rfl
  simp only [respond, found, takes, decide_true, List.find?_cons_of_pos]

/-- What no operation says, the router does not say either. -/
theorem isSilent_respond {operations : List Operation}
    (silent : ∀ operation ∈ operations, ∀ body, (operation.answer body).IsSilent)
    (request : HttpRequest) : (respond operations request).IsSilent := by
  unfold respond
  dsimp only
  split
  · -- What is found at the path of the request is one of the operations.
    next operation found =>
    have listed := List.mem_of_mem_filter (List.mem_of_find?_eq_some found)
    exact silent operation listed request.body
  · -- Unknown paths and wrong methods are refused with an explanation.
    split <;> exact isSilent_explained _ _

/-- The deployed libraries find operations as they should. -/
theorem routesRequests_deployed : Framework.deployed.RoutesRequests where
  answers := by
    intro settings operation request listed takes isThere response
    have answered : response = operation.answer request.body :=
      respond_operations _ settings listed takes isThere
    rw [answered]
    exact ⟨rfl, rfl⟩
  route_isSilent := isSilent_respond

end Operation

namespace Preflight

variable {request : HttpRequest}

/-- The deployed libraries take exactly the preflights for such, with their origins. -/
theorem exists_ofRequest?_iff {origin : Text} :
    (∃ preflight, ofRequest? request = some preflight ∧ preflight.origin = origin)
      ↔ request.IsPreflight origin := by
  constructor
  · rintro ⟨preflight, asked, rfl⟩
    unfold ofRequest? at asked
    dsimp only at asked
    -- There is a preflight only where the method and both headers are those of one.
    split at asked
    · next origin method named asks isOptions =>
      cases asked
      exact ⟨of_decide_eq_true isOptions, named, by rw [asks]; rfl⟩
    · cases asked
  · intro ⟨isOptions, named, asks⟩
    obtain ⟨method, asked⟩ := Option.isSome_iff_exists.mp asks
    -- All three conditions of a preflight are met, and nothing else matters.
    simp only [ofRequest?, named, asked, isOptions, decide_true]
    exact ⟨_, rfl, rfl⟩

end Preflight

namespace CrossOriginPolicy

variable {policy : CrossOriginPolicy} {header : Text × Text}

/-- Whoever is named as a reader may call, and is named by their origin or as everyone. -/
theorem of_mem_originHeaders {origin : Text} (listed : header ∈ policy.originHeaders origin) :
    headerKey header.1 = originHeaderName ∧ policy.allows origin
      ∧ (header.2 = origin ∨ policy.allowsAll ∧ header.2 = "*".toList) := by
  unfold originHeaders at listed
  split at listed
  · -- Where everyone may call, whoever asks may.
    next everyone =>
    have allowsAll : policy.allowsAll = true := (Bool.and_eq_true_iff.mp everyone).1
    obtain rfl := List.mem_singleton.mp listed
    exact ⟨rfl, by rw [allows, allowsAll, Bool.true_or], .inr ⟨allowsAll, rfl⟩⟩
  · split at listed
    · next allowed =>
      obtain rfl := List.mem_singleton.mp listed
      exact ⟨rfl, allowed, .inl rfl⟩
    · exact absurd listed List.not_mem_nil

/-- Where credentials are admitted, the policy says so. -/
theorem of_mem_credentialHeaders (listed : header ∈ policy.credentialHeaders) :
    headerKey header.1 = credentialsHeaderName ∧ policy.allowCredentials = true := by
  unfold credentialHeaders at listed
  -- There is one such header or none, as the policy says.
  split at listed
  · next admitted =>
    obtain rfl := List.mem_singleton.mp listed
    exact ⟨rfl, admitted⟩
  · exact absurd listed List.not_mem_nil

/-- What a preflight is told about methods and headers is neutral. -/
theorem isNeutral_of_mem_preflightHeaders (listed : header ∈ policy.preflightHeaders) :
    IsNeutral header.1 := by
  -- The values depend on the policy, and the names do not.
  have neutral : ∀ name ∈ ["vary".toList, "access-control-allow-methods".toList,
      "access-control-max-age".toList, "access-control-allow-headers".toList],
      IsNeutral name := by decide
  exact neutral header.1 (List.mem_map_of_mem listed)

/-- The answer to a preflight has the headers that the policy makes, whatever it refuses. -/
theorem headers_answer (policy : CrossOriginPolicy) (preflight : Preflight) :
    (policy.answer preflight).headers = policy.preflightHeaders
      ++ policy.originHeaders preflight.origin ++ policy.credentialHeaders := by
  -- The status and the text differ with what is refused, and the headers do not.
  unfold answer
  dsimp only
  split <;> rfl

/--
Where the headers of a guarded response come from: the handler, the policy, or neither.

What the policy makes is for the origin that the request names, so a request without one gets none.
-/
theorem of_mem_guard {handler : Handler} {request : HttpRequest}
    (listed : header ∈ (policy.guard handler request).headers) :
    header ∈ (handler request).headers ∨ IsNeutral header.1
      ∨ ∃ origin, request.headers.get? "origin".toList = some origin
        ∧ (header ∈ policy.originHeaders origin ∨ header ∈ policy.credentialHeaders) := by
  unfold guard at listed
  split at listed
  · -- A preflight is answered without the handler, and names its origin.
    next preflight asked =>
    have preflights := Preflight.exists_ofRequest?_iff.mp ⟨preflight, asked, rfl⟩
    rw [headers_answer, List.append_assoc, List.mem_append, List.mem_append] at listed
    rcases listed with told | made
    · exact .inr (.inl (isNeutral_of_mem_preflightHeaders told))
    · exact .inr (.inr ⟨preflight.origin, preflights.fromOrigin, made⟩)
  · rcases List.mem_append.mp listed with added | given
    · -- What varies and what may be read stand around what the policy makes.
      rcases List.mem_cons.mp added with rfl | added
      · exact .inr (.inl (show IsNeutral "vary".toList by decide))
      · cases named : request.headers.get? "origin".toList with
        | none =>
          rw [named] at added
          exact absurd added List.not_mem_nil
        | some origin =>
          simp only [named, List.mem_append, List.mem_singleton] at added
          rcases added with made | rfl
          · exact .inr (.inr ⟨origin, rfl, made⟩)
          · exact .inr (.inl (show IsNeutral "access-control-expose-headers".toList by decide))
    · exact .inl given

/-- A preflight from an origin that may not call is refused for its origin, whatever it asks. -/
theorem status_guard {handler : Handler} {request : HttpRequest} {origin : Text}
    (asks : request.IsPreflight origin) (refused : ¬ policy.allows origin) :
    (policy.guard handler request).status = 400 := by
  obtain ⟨preflight, asked, rfl⟩ := Preflight.exists_ofRequest?_iff.mpr asks
  have parts : policy.refusedParts preflight ≠ [] := by
    intro none
    -- The origin comes first in the list, and what follows it takes nothing away.
    simp only [refusedParts, if_neg refused, List.append_eq_nil_iff] at none
    exact List.cons_ne_nil _ _ none.1.1.1
  simp only [guard, asked]
  -- The answer succeeds for an empty list of refused parts alone.
  unfold answer
  dsimp only
  split
  · next none => exact absurd none parts
  · rfl

/-- A request that is no preflight is answered by the handler, with more headers at most. -/
theorem guard_eq {handler : Handler} {request : HttpRequest}
    (noPreflight : ∀ origin, ¬ request.IsPreflight origin) :
    policy.guard handler request = { handler request with
      headers := policy.simpleHeaders request.headers ++ (handler request).headers } := by
  -- The handler is not asked for preflights alone.
  cases asked : Preflight.ofRequest? request with
  | none => simp only [guard, asked]
  | some preflight =>
    exact absurd (Preflight.exists_ofRequest?_iff.mp ⟨preflight, asked, rfl⟩) (noPreflight _)

/-- The deployed libraries hold pages to policies as they should. -/
theorem guardsOrigins_deployed : Framework.deployed.GuardsOrigins where
  passes := by
    intro policy handler request noPreflight response
    have answered : response = _ := guard_eq noPreflight
    rw [answered]
    exact ⟨rfl, rfl⟩
  refuses := status_guard
  names := by
    intro policy handler request header listed isName
    -- A neutral header has another name, and so has one that admits credentials.
    rcases of_mem_guard listed with given | neutral | ⟨origin, named, made | made⟩
    · exact .inl given
    · exact absurd isName neutral.1
    · exact .inr ⟨origin, named, (of_mem_originHeaders made).2⟩
    · rw [(of_mem_credentialHeaders made).1] at isName
      exact absurd isName (by decide)
  admits := by
    intro policy handler request header listed isName
    rcases of_mem_guard listed with given | neutral | ⟨origin, named, made | made⟩
    · exact .inl given
    · exact absurd isName neutral.2
    · rw [(of_mem_originHeaders made).1] at isName
      exact absurd isName (by decide)
    · exact .inr (of_mem_credentialHeaders made).2

end CrossOriginPolicy

/-- The deployed libraries keep all the laws. -/
theorem lawful_deployed : Framework.deployed.Lawful where
  toReadsBodies := ConvertRequest.readsBodies_deployed
  toRoutesRequests := Operation.routesRequests_deployed
  toGuardsOrigins := CrossOriginPolicy.guardsOrigins_deployed

end EntityDto
