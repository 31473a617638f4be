import EntityDto.Command.Arguments
import EntityDto.Generation
import EntityDto.Settings.Basic

/-! The command: generates the files of one entity file, as its arguments and settings say. -/

namespace EntityDto

open Text

/-- How the command ends when it can say so itself. -/
structure Exit where
  code : Nat
  output : Text := []
  errorOutput : Text := []
  deriving DecidableEq

/-- Failures that the command passes on. -/
inductive CommandError where
  | settings (problems : List Problem)
  | unknownLevel (name : Text)
  | generation (error : GenerationError)

/-- The wording of an unknown log level. -/
def unknownLevelMessage (name : Text) : Text :=
  "Unknown level: ".toList ++ inQuotes name

/-- What running the command leaves behind. -/
structure CommandRun where
  workspace : Workspace
  result : Except CommandError Exit
  /-- What was logged while files were generated. -/
  generationLog : Text := []

/-- The exit code of a run: the command's own, or that of a failure which it passes on. -/
def CommandRun.exitCode (run : CommandRun) : Nat :=
  match run.result with
  | .ok exit => exit.code
  | .error _ => 1

/-- The standard output of a run. -/
def CommandRun.output (run : CommandRun) : Text :=
  match run.result with
  | .ok exit => exit.output
  -- A failure is passed on behind what was logged before it.
  | .error _ => run.generationLog

namespace Command

/-- The file in the working directory that settings are read from besides the environment. -/
def settingsPath : Path := Path.ofText ".env".toList

/-- Reads the settings under which the command runs. -/
def readSettings (workspace : Workspace) (environment : Environment) :
    Except CommandError Settings :=
  match workspace.readBytes settingsPath with
  | .error _ => (Settings.read environment none).mapError .settings
  | .ok bytes =>
    match Utf8.decode bytes with
    | .error bad => .error (.generation (.undecodable bad))
    | .ok text => (Settings.read environment (some text)).mapError .settings

/-- What is printed about a generated file that is not written. -/
def shown (file : GeneratedFile) : Text :=
  "// ".toList ++ file.path ++ ['\n'] ++ file.content ++ ['\n', '\n']

/-- What is printed about a written file. -/
def listed (directory : Path) (file : GeneratedFile) : Text :=
  "  ".toList ++ (directory.append (Path.ofText file.path)).text ++ ['\n']

/-- What is printed about generated files. -/
def report (out : Option Path) (files : List GeneratedFile) : Text :=
  match out with
  | none => files.flatMap shown
  | some directory => files.flatMap (listed directory)

/-- How a finished generation ends the command, which logs events from a rank on. -/
def exitOf (rank : Nat) (arguments : Arguments) (generation : Generation) :
    Except CommandError Exit :=
  match generation.result with
  | .ok files =>
    .ok { code := 0, output := logText rank generation.events ++ report arguments.out files }
  | .error (.file error) =>
    if error.cause = .notFound then
      .ok {
        code := 2
        output := logText rank (generation.events ++ [.entityFileMissing arguments.entity.text]) }
    else .error (.generation (.file error))
  | .error (.classMissing path) =>
    let reason := (GenerationError.classMissing path).message
    .ok { code := 1, output := logText rank (generation.events ++ [.commandFailed reason]) }
  | .error error => .error (.generation error)

/-- The options that the arguments and the settings give. -/
def options (settings : Settings) (arguments : Arguments) : Options :=
  settings.options (if arguments.noForceOptional then some false else none)
    (if arguments.keepAudit then some false else none)

/-- The paths at which a run writes or makes directories. -/
def outputPaths (workspace : Workspace) (arguments : Arguments) : List Path :=
  match arguments.out, (workspace.generate arguments.entity none {}).result with
  | some directory, .ok files =>
    directory :: files.map fun file => directory.append (Path.ofText file.path)
  | _, _ => []

/-- Runs the command once its arguments are read. -/
def runWith (workspace : Workspace) (settings : Settings) (arguments : Arguments) : CommandRun :=
  match levelRank? settings.logLevel with
  | none => { workspace, result := .error (.unknownLevel settings.logLevel) }
  | some rank =>
    let generation :=
      workspace.generate arguments.entity arguments.out (options settings arguments)
    { workspace := generation.workspace
      result := exitOf rank arguments generation
      generationLog := logText rank generation.events }

/-- How the command comes by the settings under which it runs, in a workspace and environment. -/
abbrev SettingsReading := Workspace → Environment → Except CommandError Settings

/--
Runs the command: settings first, then arguments, then the log level, then the work.

How the settings are read is left open.
-/
def runReading (reads : SettingsReading) (workspace : Workspace) (environment : Environment)
    (arguments : List Text) : CommandRun :=
  match reads workspace environment with
  | .error error => { workspace, result := .error error }
  | .ok settings =>
    match Arguments.read arguments with
    | .error .helpAsked =>
      { workspace, result := .ok { code := 0, output := Arguments.help } }
    | .error (.refused error) =>
      { workspace, result := .ok { code := 2, errorOutput := Arguments.refusal error } }
    | .ok arguments => runWith workspace settings arguments

/-- Runs the command with the settings of the deployment. -/
def run (workspace : Workspace) (environment : Environment) (arguments : List Text) :
    CommandRun :=
  runReading readSettings workspace environment arguments

end Command

end EntityDto
