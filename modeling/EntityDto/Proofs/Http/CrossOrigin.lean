import EntityDto.Proofs.Http.Framework

/-!
Which pages may call a deployment: a production deployment names its client alone and refuses the
preflights of all others, and no other deployment admits credentials.
-/

namespace EntityDto

open Text

namespace Settings

/-- A reader takes texts among the settings as they are given, and else as they are declared. -/
structure Reader.ReadsTexts (reader : Reader) : Prop where
  appEnv {environment : Environment} {dotenv : Option Text} {settings : Settings} :
    reader.read environment dotenv = .ok settings →
    settings.appEnv = (reader.sources environment dotenv).text "app_env".toList "dev".toList
  clientUrl {environment : Environment} {dotenv : Option Text} {settings : Settings} :
    reader.read environment dotenv = .ok settings →
    settings.clientUrl = (reader.sources environment dotenv).text "client_url".toList
      "http://localhost:3333".toList

/-- Settings that can be read have the texts of their sources. -/
theorem texts_of_ofSources {sources : Sources} {settings : Settings}
    (valid : ofSources sources = .ok settings) :
    settings.appEnv = sources.text "app_env".toList "dev".toList
    ∧ settings.clientUrl = sources.text "client_url".toList "http://localhost:3333".toList := by
  -- Of the values that have to be read first, none enters into these texts.
  simp only [ofSources] at valid
  split at valid
  · cases valid
    exact ⟨rfl, rfl⟩
  · cases valid

/-- The reader of the deployment takes texts as they are given. -/
theorem readsTexts_reader : reader.ReadsTexts where
  appEnv valid := (texts_of_ofSources valid).1
  clientUrl valid := (texts_of_ofSources valid).2

variable {reader : Reader} {environment : Environment} {dotenv : Option Text}
  {settings : Settings}

/-- A deployment is a production deployment where it is called so, and only there. -/
theorem isProduction_iff (readsTexts : reader.ReadsTexts)
    (valid : reader.read environment dotenv = .ok settings) :
    settings.isProduction = true
      ↔ (reader.sources environment dotenv).given? "app_env".toList
        = some "production".toList := by
  rw [isProduction, decide_eq_true_iff, readsTexts.appEnv valid, Sources.text]
  cases (reader.sources environment dotenv).given? "app_env".toList with
  -- By default a deployment is none.
  | none => exact iff_of_false (by decide) (by decide)
  | some value => rw [Option.getD_some, Option.some.injEq]

/-- The client is everyone where it is given so, and only there. -/
theorem clientUrl_eq_iff (readsTexts : reader.ReadsTexts)
    (valid : reader.read environment dotenv = .ok settings) :
    settings.clientUrl = "*".toList
      ↔ (reader.sources environment dotenv).given? "client_url".toList = some "*".toList := by
  rw [readsTexts.clientUrl valid, Sources.text]
  cases (reader.sources environment dotenv).given? "client_url".toList with
  -- The default is one client.
  | none => exact iff_of_false (by decide) (by decide)
  | some value => rw [Option.getD_some, Option.some.injEq]

end Settings

section Production

variable {settings : Settings} (production : settings.isProduction = true)
  (oneClient : settings.clientUrl ≠ "*".toList)

include production oneClient

/-- In production, an asterisk stands for nobody. -/
theorem allowsAll_of_production : settings.crossOriginPolicy.allowsAll = false := by
  -- The list holds the client alone, who is one.
  rw [CrossOriginPolicy.allowsAll, Settings.crossOriginPolicy, if_pos production]
  simpa using Ne.symm oneClient

/-- In production, an origin may call exactly where it is the client's. -/
theorem allows_iff_of_production (origin : Text) :
    settings.crossOriginPolicy.allows origin = true ↔ origin = settings.clientUrl := by
  rw [CrossOriginPolicy.allows, allowsAll_of_production production oneClient, Bool.false_or,
    Settings.crossOriginPolicy, if_pos production]
  simp

end Production

namespace Framework

variable {framework : Framework}

/-- The operations of the server say nothing to pages of other origins. -/
theorem isSilent_operations (readsBodies : framework.ReadsBodies) (settings : Settings) :
    ∀ operation ∈ framework.operations settings, ∀ body, (operation.answer body).IsSilent := by
  -- A conversion that fails has another body and no more headers.
  have converted (asked : ConvertRequest) : (convertResponse settings asked).IsSilent := by
    unfold convertResponse
    dsimp only
    split
    · exact isSilent_explained _ _
    · exact List.forall_mem_nil _
  intro operation listed body
  rcases List.mem_pair.mp listed with rfl | rfl
  · exact List.forall_mem_nil _
  · simp only [convertOperation]
    cases read : framework.readBody body with
    | ok asked => exact converted asked
    | error refusal => exact readsBodies.refusal_isSilent read

/-- Behind the policy, nothing says who may read a response or admits credentials. -/
theorem isSilent_route (lawful : framework.Lawful) (settings : Settings) (request : HttpRequest) :
    (framework.route (framework.operations settings) request).IsSilent :=
  lawful.route_isSilent (isSilent_operations lawful.toReadsBodies settings) request

/-- In production, a response names the client to the client and nobody to anyone else. -/
theorem named_of_production (lawful : framework.Lawful) {settings : Settings}
    (production : settings.isProduction = true) (oneClient : settings.clientUrl ≠ "*".toList)
    {request : HttpRequest} {header : Text × Text}
    (listed : header ∈ (framework.serve settings request).headers)
    (isName : headerKey header.1 = originHeaderName) :
    request.headers.get? "origin".toList = some settings.clientUrl
    ∧ header.2 = settings.clientUrl := by
  rcases lawful.names listed isName with routed | ⟨origin, fromOrigin, allowed, value⟩
  · exact absurd isName (isSilent_route lawful settings request header routed).1
  · -- Only the client may call, and everyone is not among those who may.
    have isClient := (allows_iff_of_production production oneClient origin).mp allowed
    subst isClient
    refine ⟨fromOrigin, value.resolve_right fun everyone => ?_⟩
    rw [allowsAll_of_production production oneClient] at everyone
    exact absurd everyone.1 Bool.false_ne_true

/-- Outside production, no response admits credentials. -/
theorem not_admitted_of_not_production (lawful : framework.Lawful) {settings : Settings}
    (elsewhere : settings.isProduction = false) {request : HttpRequest} {header : Text × Text}
    (listed : header ∈ (framework.serve settings request).headers) :
    headerKey header.1 ≠ credentialsHeaderName := by
  intro isName
  rcases lawful.admits listed isName with routed | admitted
  · exact (isSilent_route lawful settings request header routed).2 isName
  · -- Whether credentials are admitted and whether this is production are one value.
    have production : settings.isProduction = true := admitted
    rw [elsewhere] at production
    exact Bool.false_ne_true production

end Framework

/--
Only the configured client may call a production deployment, and no other deployment admits
credentials, whatever lawful libraries the server stands on.

In production with a client other than everyone, a response names a reader only if the request comes
from the client, and then names the client; a preflight from anywhere else is refused. Outside
production, no response to any request admits credentials.
-/
theorem serve_crossOrigin {framework : Framework} (lawful : framework.Lawful)
    {reader : Settings.Reader} (readsTexts : reader.ReadsTexts) {environment : Environment}
    {dotenv : Option Text} {settings : Settings}
    (valid : reader.read environment dotenv = .ok settings) (request : HttpRequest) :
    let given := (reader.sources environment dotenv).given?
    let response := framework.serve settings request
    (given "app_env".toList = some "production".toList →
      given "client_url".toList ≠ some "*".toList →
      let client := (given "client_url".toList).getD "http://localhost:3333".toList
      (∀ header ∈ response.headers, headerKey header.1 = "access-control-allow-origin".toList →
        request.headers.get? "origin".toList = some client ∧ header.2 = client)
      ∧ ∀ origin, request.headers.get? "origin".toList = some origin → origin ≠ client →
        request.method = "OPTIONS".toList →
        (request.headers.get? "access-control-request-method".toList).isSome = true →
        response.status = 400)
    ∧ (given "app_env".toList ≠ some "production".toList →
      ∀ header ∈ response.headers,
        headerKey header.1 ≠ "access-control-allow-credentials".toList) := by
  intro given response
  have isProduction := Settings.isProduction_iff readsTexts valid
  constructor
  · intro inProduction notEveryone client
    have production := isProduction.mpr inProduction
    have oneClient := mt (Settings.clientUrl_eq_iff readsTexts valid).mp notEveryone
    have isClient : settings.clientUrl = client := readsTexts.clientUrl valid
    rw [← isClient]
    -- The policy allows the client alone, so a named reader is the client.
    refine ⟨fun header listed isName =>
      Framework.named_of_production lawful production oneClient listed isName, ?_⟩
    intro origin fromOrigin other isOptions asks
    have foreign := mt (allows_iff_of_production production oneClient origin).mp other
    exact lawful.refuses ⟨isOptions, fromOrigin, asks⟩ foreign
  · intro elsewhere header listed
    -- Credentials are tied to production, whatever origin is asked from.
    have noProduction : settings.isProduction = false := by
      simpa using mt isProduction.mp elsewhere
    exact Framework.not_admitted_of_not_production lawful noProduction listed

/-- The environment of a production deployment with one client. -/
def clientEnvironment : Environment :=
  [("APP_ENV".toList, "production".toList), ("CLIENT_URL".toList, "https://c.example".toList)]

/-- A preflight from a page of another origin. -/
def foreignPreflight : HttpRequest where
  method := "OPTIONS".toList
  path := "/v1/convert".toList
  headers := [("Origin".toList, "https://o.example".toList),
    ("Access-Control-Request-Method".toList, "POST".toList)]

/-- A request of the client to a path that is not there. -/
def clientRequest : HttpRequest where
  method := "GET".toList
  path := "/nope".toList
  headers := [("origin".toList, "https://c.example".toList), ("Cookie".toList, "a=b".toList)]

/--
On the deployed libraries the preflight is refused and names no reader, and the client may read that
nothing is there. Where nothing is set, the client's cookie does not admit credentials.
-/
theorem serve_crossOrigin_foreign :
    (∃ settings, Settings.reader.read clientEnvironment none = .ok settings
      ∧ (serve settings foreignPreflight).status = 400
      ∧ (∀ header ∈ (serve settings foreignPreflight).headers,
        headerKey header.1 ≠ "access-control-allow-origin".toList)
      ∧ ("access-control-allow-origin".toList, "https://c.example".toList)
        ∈ (serve settings clientRequest).headers
      ∧ ∀ header ∈ (serve settings clientRequest).headers,
        headerKey header.1 = "access-control-allow-origin".toList →
          header.2 = "https://c.example".toList)
    ∧ Settings.reader.read [] none = .ok {}
    ∧ ∀ header ∈ (serve {} clientRequest).headers,
      headerKey header.1 ≠ "access-control-allow-credentials".toList := by
  let settings : Settings :=
    { appEnv := "production".toList, clientUrl := "https://c.example".toList }
  have valid : Settings.reader.read clientEnvironment none = .ok settings := rfl
  have isProduction : (Settings.reader.sources clientEnvironment none).given? "app_env".toList
      = some "production".toList := by decide +kernel
  have client : (Settings.reader.sources clientEnvironment none).given? "client_url".toList
      = some "https://c.example".toList := by decide +kernel
  have oneClient : (Settings.reader.sources clientEnvironment none).given? "client_url".toList
      ≠ some "*".toList := by
    rw [client]
    decide
  -- Both requests meet the same deployment, and what it says depends on where they come from.
  obtain ⟨names, refuses⟩ := (serve_crossOrigin lawful_deployed Settings.readsTexts_reader valid
    foreignPreflight).1 isProduction oneClient
  obtain ⟨toClient, -⟩ := (serve_crossOrigin lawful_deployed Settings.readsTexts_reader valid
    clientRequest).1 isProduction oneClient
  rw [client] at names refuses toClient
  have refused := refuses "https://o.example".toList (by decide +kernel) (by decide) (by decide)
    (by decide +kernel)
  have toNobody : ∀ header ∈ (serve settings foreignPreflight).headers,
      headerKey header.1 ≠ "access-control-allow-origin".toList := by
    intro header listed isName
    exact absurd (names header listed isName).1 (by decide +kernel)
  have named : ("access-control-allow-origin".toList, "https://c.example".toList)
      ∈ (serve settings clientRequest).headers := by decide +kernel
  have unset : Settings.reader.read [] none = .ok {} := rfl
  have noCredentials := (serve_crossOrigin lawful_deployed Settings.readsTexts_reader unset
    clientRequest).2 (by decide +kernel)
  exact ⟨⟨settings, valid, refused, toNobody, named,
    fun header listed isName => (toClient header listed isName).2⟩, unset, noCredentials⟩

/-- The environment of a production deployment whose client is everyone. -/
def openEnvironment : Environment :=
  [("APP_ENV".toList, "production".toList), ("CLIENT_URL".toList, "*".toList)]

/-- A request of some page to the health route. -/
def pageRequest : HttpRequest where
  method := "GET".toList
  path := "/v1/health".toList
  headers := [("Origin".toList, "https://o.example".toList)]

/--
A production deployment whose client is everyone admits the credentials of every page.

The libraries are lawful and the client is not one, so this is another environment than those in
which the client alone may call.
-/
theorem exists_credentials_admitted :
    Framework.deployed.Lawful ∧ Settings.reader.ReadsTexts
    ∧ (Settings.reader.sources openEnvironment none).given? "client_url".toList = some "*".toList
    ∧ ∃ settings, Settings.reader.read openEnvironment none = .ok settings
      ∧ ("access-control-allow-credentials".toList, "true".toList)
        ∈ (Framework.deployed.serve settings pageRequest).headers := by
  refine ⟨lawful_deployed, Settings.readsTexts_reader, by decide +kernel,
    { appEnv := "production".toList, clientUrl := "*".toList }, rfl, ?_⟩
  -- The page is named as a reader and may call with credentials.
  decide +kernel

end EntityDto
