import EntityDto.File.Path
import EntityDto.Text.Digit
import EntityDto.Text.Quoted

/-! The arguments of the command, its options, and how wrong arguments are refused. -/

namespace EntityDto

open Text

/-- What the command is asked to do. -/
structure Arguments where
  entity : Path
  out : Option Path
  noForceOptional : Bool
  keepAudit : Bool
  deriving DecidableEq

namespace Arguments

/-- The options of the command. -/
inductive Flag where
  | help
  | out
  | noForceOptional
  | keepAudit
  deriving DecidableEq

/-- The options by their spellings, in the order in which messages list them. -/
def spellings : List (Text × Flag) :=
  [("-h".toList, .help), ("--help".toList, .help), ("--out".toList, .out),
    ("--no-force-optional".toList, .noForceOptional), ("--keep-audit".toList, .keepAudit)]

/-- The name of an option in messages. -/
def Flag.name : Flag → Text
  | .help => "-h/--help".toList
  | .out => "--out".toList
  | .noForceOptional => "--no-force-optional".toList
  | .keepAudit => "--keep-audit".toList

/-- Why arguments are refused. -/
inductive UsageError where
  | entityRequired
  | unrecognized (arguments : List Text)
  /-- An option lacks the argument that it takes. -/
  | argumentExpected (flag : Flag)
  /-- An option is given an argument that it does not take. -/
  | argumentIgnored (flag : Flag) (argument : Text)
  | ambiguous (argument : Text) (candidates : List Text)
  deriving DecidableEq

/-- The wording of a usage error. -/
def UsageError.message : UsageError → Text
  | .entityRequired => "the following arguments are required: entity".toList
  | .unrecognized arguments =>
    "unrecognized arguments: ".toList ++ join [' '] arguments
  | .argumentExpected flag =>
    "argument ".toList ++ flag.name ++ ": expected one argument".toList
  | .argumentIgnored flag argument =>
    "argument ".toList ++ flag.name ++ ": ignored explicit argument ".toList ++ inQuotes argument
  | .ambiguous argument candidates =>
    "ambiguous option: ".toList ++ argument ++ " could match ".toList
      ++ join ", ".toList candidates

/-- What one argument is. -/
inductive Kind where
  /-- The two dashes behind which no argument is an option. -/
  | separator
  | positional
  /-- An option; a single dash may stand for several letters run together. -/
  | option (flag : Flag) (long : Bool) (explicit : Option Text)
  | unknownOption
  deriving DecidableEq

/-- An argument with its kind. -/
abbrev Classified := Kind × Text

/-- An argument cut at its first equals sign. -/
def atEquals (argument : Text) : Text × Option Text :=
  let (front, back) := argument.spanOf (· ≠ '=')
  (front, if back.isEmpty then none else some (back.drop 1))

/-- The option with exactly this spelling. -/
def spelled? (spelling : Text) : Option Flag :=
  (spellings.find? fun entry => entry.1 = spelling).map Prod.snd

/-- Whether a spelling starts with two dashes. -/
def isLong (spelling : Text) : Bool :=
  spelling.startsWith "--".toList

/--
Whether an argument is a negative number, with or without a point.

Its digits may be those of any script, and one line feed may end it.
-/
def isNegativeNumber (argument : Text) : Bool :=
  match (before? ['\n'] argument).getD argument with
  | '-' :: number =>
    match spanOf isDecimalDigit number with
    | (digits, []) => !digits.isEmpty
    | (_, '.' :: fraction) => !fraction.isEmpty && fraction.all isDecimalDigit
    | _ => false
  | _ => false

/-- What an argument is that starts with a dash but spells no option. -/
def unspelled (argument : Text) : Kind :=
  if isNegativeNumber argument || argument.elem ' ' then .positional else .unknownOption

/-- The options that a shortened long option may stand for. -/
def completions (front : Text) : List (Text × Flag) :=
  spellings.filter fun entry => isLong entry.1 && entry.1.startsWith front

/-- The kind of an argument before the separator. -/
def kindOf (argument : Text) : Except UsageError Kind :=
  if argument.head? ≠ some '-' || argument = ['-'] then .ok .positional
  else
    let (front, explicit) := atEquals argument
    match spelled? argument, explicit.bind fun _ => spelled? front with
    | some flag, _ => .ok (.option flag (isLong argument) none)
    | none, some flag => .ok (.option flag (isLong front) explicit)
    | none, none =>
      -- A long option may be shortened as long as it stays the only one that fits.
      if isLong argument then
        match completions front with
        | [] => .ok (unspelled argument)
        | [(_, flag)] => .ok (.option flag true explicit)
        | several => .error (.ambiguous argument (several.map Prod.fst))
      else
        match after? "-h".toList argument with
        | some letters => .ok (.option .help false (some letters))
        | none => .ok (unspelled argument)

/-- Finds the kind of every argument. -/
def classify : List Text → Except UsageError (List Classified)
  | [] => .ok []
  | argument :: rest =>
    if argument = "--".toList then
      .ok ((.separator, argument) :: rest.map fun later => (.positional, later))
    else
      match kindOf argument with
      | .error error => .error error
      | .ok kind => (classify rest).map ((kind, argument) :: ·)

/-- What has been read so far. -/
structure Progress where
  entity : Option Text := none
  out : Option Text := none
  noForceOptional : Bool := false
  keepAudit : Bool := false
  /-- Arguments that nothing takes. -/
  extras : List Text := []
  deriving DecidableEq

/-- Why the reading of arguments ends early. -/
inductive Stop where
  | helpAsked
  | refused (error : UsageError)
  deriving DecidableEq

/-- Takes an option without an argument. -/
def Progress.set (progress : Progress) : Flag → Except Stop Progress
  | .help => .error .helpAsked
  | .noForceOptional => .ok { progress with noForceOptional := true }
  | .keepAudit => .ok { progress with keepAudit := true }
  | .out => .error (.refused (.argumentExpected .out))

/-- Letters run together behind one dash: each must be the letter that asks for help. -/
def onlyHelpLetters : Text → Except Stop Unit
  | [] => .ok ()
  | 'h' :: rest => onlyHelpLetters rest
  | letters => .error (.refused (.argumentIgnored .help letters))

/-- Takes an option whose argument is attached to it. -/
def Progress.setExplicit (progress : Progress) (flag : Flag) (long : Bool) (argument : Text) :
    Except Stop Progress :=
  if flag = .out then .ok { progress with out := some argument }
  else if long || argument.isEmpty then .error (.refused (.argumentIgnored flag argument))
  else
    match onlyHelpLetters argument with
    | .ok () => progress.set flag
    | .error stop => .error stop

/-- Adds an argument that nothing takes. -/
def Progress.addExtra (progress : Progress) (argument : Text) : Progress :=
  { progress with extras := progress.extras ++ [argument] }

/--
Reads classified arguments from left to right.

The first positional argument is the entity; a separator right before or behind it belongs to it.
An option that takes an argument wants a positional one next to it.
-/
def readFrom (progress : Progress) : List Classified → Except Stop Progress
  | [] => .ok progress
  | (.unknownOption, argument) :: rest => readFrom (progress.addExtra argument) rest
  | (.option .out _ none, _) :: (.positional, argument) :: rest =>
    readFrom { progress with out := some argument } rest
  | (.option .out _ none, _) :: _ => .error (.refused (.argumentExpected .out))
  | (.option flag _ none, _) :: rest =>
    match progress.set flag with
    | .ok progress => readFrom progress rest
    | .error stop => .error stop
  | (.option flag long (some argument), _) :: rest =>
    match progress.setExplicit flag long argument with
    | .ok progress => readFrom progress rest
    | .error stop => .error stop
  -- A separator is consumed together with the entity and is left over anywhere else.
  | (.separator, argument) :: rest =>
    match progress.entity, rest with
    | none, (.positional, entity) :: rest => readFrom { progress with entity := some entity } rest
    | _, rest => readFrom (progress.addExtra argument) rest
  | (.positional, argument) :: rest =>
    match progress.entity, rest with
    | some _, rest => readFrom (progress.addExtra argument) rest
    | none, (.separator, _) :: rest => readFrom { progress with entity := some argument } rest
    | none, rest => readFrom { progress with entity := some argument } rest

/-- The arguments that were read, if the entity is there and nothing is left over. -/
def Progress.finish (progress : Progress) : Except Stop Arguments :=
  match progress.entity, progress.extras with
  -- What is missing is told before what is too much.
  | none, _ => .error (.refused .entityRequired)
  | some _, first :: others => .error (.refused (.unrecognized (first :: others)))
  | some entity, [] =>
    .ok ⟨Path.ofText entity, progress.out.map Path.ofText, progress.noForceOptional,
      progress.keepAudit⟩

/-- Reads the arguments of the command. -/
def read (arguments : List Text) : Except Stop Arguments :=
  match classify arguments with
  | .error error => .error (.refused error)
  | .ok classified =>
    match readFrom {} classified with
    | .error stop => .error stop
    | .ok progress => progress.finish

/-- Lines, each ended by a line feed. -/
def endedLines (lines : List String) : Text :=
  lines.flatMap fun line => line.toList ++ ['\n']

/-- How the command is used, on two lines. -/
def usage : Text :=
  endedLines
    ["usage: convert_entity.py [-h] [--out OUT] [--no-force-optional] [--keep-audit]",
      "                         entity"]

/-- The help text. -/
def help : Text :=
  usage ++ endedLines
    ["",
      "Generate DTOs from a TypeORM entity file",
      "",
      "positional arguments:",
      "  entity               Path to the entity .ts file",
      "",
      "options:",
      "  -h, --help           show this help message and exit",
      "  --out OUT            Output directory (prints to stdout when omitted)",
      "  --no-force-optional  Keep required fields required",
      "  --keep-audit         Clear the strip-audit option"]

/-- What is printed about a usage error. -/
def refusal (error : UsageError) : Text :=
  usage ++ "convert_entity.py: error: ".toList ++ error.message ++ ['\n']

end Arguments

end EntityDto
