import EntityDto.Options
import EntityDto.Settings.Dotenv
import EntityDto.Text.Lower
import EntityDto.Validation

/-! Settings of a deployment, read from environment values and a file of bindings. -/

namespace EntityDto

open Text

/-- Settings of a deployment. -/
structure Settings where
  appEnv : Text := "dev".toList
  appName : Text := "entity-dto-converter".toList
  apiHost : Text := "0.0.0.0".toList
  apiPort : Int := 5555
  clientUrl : Text := "http://localhost:3333".toList
  logLevel : Text := "INFO".toList
  defaultForceOptional : Bool := true
  defaultStripAudit : Bool := true
  commonDtoImport : Text := "src/common/dto/common.dto".toList
  transformerImport : Text := "src/common/util/transformer".toList
  deriving DecidableEq

namespace Settings

/-- The names of all settings, in order. -/
def names : List Text :=
  ["app_env".toList, "app_name".toList, "api_host".toList, "api_port".toList, "client_url".toList,
    "log_level".toList, "default_force_optional".toList, "default_strip_audit".toList,
    "common_dto_import".toList, "transformer_import".toList]

/-- The last entry whose name, in small letters, is the wanted one. -/
def lastNamed? (name : Text) (entries : List (Text × α)) : Option α :=
  (entries.reverse.find? fun entry => entry.1.lower = name).map Prod.snd

/-- Where settings are read from. -/
structure Sources where
  environment : Environment
  bindings : Dotenv.Bindings

/-- The text given for a setting: the environment's, or else the file's. -/
def Sources.given? (sources : Sources) (name : Text) : Option Text :=
  match lastNamed? name sources.environment with
  | some value => some value
  -- A name that the file leaves without a value is as good as absent.
  | none => (lastNamed? name sources.bindings).join

/-- The text given for a setting, or its default. -/
def Sources.text (sources : Sources) (name default : Text) : Text :=
  (sources.given? name).getD default

/-- The value given for a setting, or its default; a text that cannot be read is a problem. -/
def Sources.value (sources : Sources) (name : Text) (read : Text → Except Fault α) (default : α) :
    Except Problem α :=
  match sources.given? name with
  | none => .ok default
  | some text => (read text).mapError fun fault => ⟨fault, [name], .text text⟩

/-- Reads all settings, or tells every problem in the order of the settings. -/
def ofSources (sources : Sources) : Except (List Problem) Settings :=
  let defaults : Settings := {}
  let port := sources.value "api_port".toList readInteger defaults.apiPort
  let forceOptional :=
    sources.value "default_force_optional".toList readBoolean defaults.defaultForceOptional
  let stripAudit :=
    sources.value "default_strip_audit".toList readBoolean defaults.defaultStripAudit
  match port, forceOptional, stripAudit with
  | .ok port, .ok forceOptional, .ok stripAudit =>
    .ok {
      appEnv := sources.text "app_env".toList defaults.appEnv
      appName := sources.text "app_name".toList defaults.appName
      apiHost := sources.text "api_host".toList defaults.apiHost
      apiPort := port
      clientUrl := sources.text "client_url".toList defaults.clientUrl
      logLevel := sources.text "log_level".toList defaults.logLevel
      defaultForceOptional := forceOptional
      defaultStripAudit := stripAudit
      commonDtoImport := sources.text "common_dto_import".toList defaults.commonDtoImport
      transformerImport := sources.text "transformer_import".toList defaults.transformerImport }
  | port, forceOptional, stripAudit =>
    .error ((Problem.of? port).toList ++ (Problem.of? forceOptional).toList
      ++ (Problem.of? stripAudit).toList)

/-- What reads settings from an environment and, if there is one, the text of a file. -/
structure Reader where
  /-- What the file says about names, given the environment. -/
  bindings : Environment → Text → Dotenv.Bindings
  /-- Reads all settings, or tells the problems that they have. -/
  read : Environment → Option Text → Except (List Problem) Settings

/-- Where a reader reads settings from. -/
def Reader.sources (reader : Reader) (environment : Environment) (dotenv : Option Text) :
    Sources :=
  ⟨environment, (dotenv.map (reader.bindings environment)).getD []⟩

/-- Reads settings from an environment and, if there is one, the text of a file of bindings. -/
def read (environment : Environment) (dotenv : Option Text) : Except (List Problem) Settings :=
  ofSources ⟨environment, (dotenv.map (Dotenv.read environment)).getD []⟩

/-- The reader of the deployment. -/
def reader : Reader where
  bindings := Dotenv.read
  read := read

/-- The options of one conversion: what is given for it, and the settings for the rest. -/
def options (settings : Settings) (forceOptional stripAudit : Option Bool) : Options where
  forceOptional := forceOptional.getD settings.defaultForceOptional
  stripAudit := stripAudit.getD settings.defaultStripAudit
  commonDtoImport := settings.commonDtoImport
  transformerImport := settings.transformerImport

/-- Whether this is a production deployment. -/
def isProduction (settings : Settings) : Bool :=
  settings.appEnv = "production".toList

end Settings

end EntityDto
