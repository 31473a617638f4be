import EntityDto.Text.Lines

/-! Files of `NAME=value` bindings, one on a line unless a quoted value runs over several. -/

namespace EntityDto

open Text

/-- Names with their values, in order. -/
abbrev Environment := List (Text × Text)

/-- The last value given to a name. -/
def Environment.get? (environment : Environment) (name : Text) : Option Text :=
  (environment.reverse.find? fun entry => entry.1 = name).map Prod.snd

namespace Dotenv

/-- What a file says about a name; a name without an equals sign has no value. -/
abbrev Bindings := List (Text × Option Text)

/-- A blank that does not end the line. -/
def isLineBlank (char : Char) : Bool :=
  isBlank char && char ≠ '\n'

/-- Skips blanks up to the end of the line. -/
def skipLineBlanks (text : Text) : Text :=
  text.dropWhile isLineBlank

/-- Skips to the end of the line. -/
def skipToLineEnd (text : Text) : Text :=
  text.dropWhile (· ≠ '\n')

/-- Skips the word `export` where blanks follow it on its line. -/
def skipExport (text : Text) : Text :=
  match after? "export".toList text with
  | some (char :: rest) => if isLineBlank char then skipLineBlanks rest else text
  | _ => text

/--
What stands before the closing quote and what follows it.

A character behind a backslash closes nothing, and a backslash there escapes nothing.
-/
def closeQuote? (quote : Char) : Text → Option (Text × Text)
  | [] => none
  | '\\' :: char :: rest =>
    (closeQuote? quote rest).map fun (inside, behind) => ('\\' :: char :: inside, behind)
  | char :: rest =>
    if char = quote then some ([], rest)
    else (closeQuote? quote rest).map fun (inside, behind) => (char :: inside, behind)

/-- Replaces backslash escapes by what they stand for; other backslashes stay. -/
def unescape (meaning : Char → Option Char) : Text → Text
  | [] => []
  | [last] => [last]
  | char :: next :: rest =>
    match if char = '\\' then meaning next else none with
    | some value => value :: unescape meaning rest
    | none => char :: unescape meaning (next :: rest)

/-- The escapes between single quotes. -/
def singleQuoteEscape : Char → Option Char
  | '\\' => some '\\'
  | '\'' => some '\''
  | _ => none

/-- The escapes between double quotes. -/
def doubleQuoteEscape : Char → Option Char
  | '\\' => some '\\'
  | '\'' => some '\''
  | '"' => some '"'
  | 'a' => some '\x07'
  | 'b' => some '\x08'
  | 'f' => some '\x0c'
  | 'n' => some '\n'
  | 'r' => some '\r'
  | 't' => some '\t'
  | 'v' => some '\x0b'
  | _ => none

/-- Cuts off a comment, which starts at a hash behind a blank. -/
def withoutComment : Text → Text
  | [] => []
  | char :: rest =>
    if isBlank char && (trimStart rest).head? = some '#' then [] else char :: withoutComment rest

/-- Reads what follows an equals sign: a quoted value, or the rest of the line without comment. -/
def readValue? (text : Text) : Option (Text × Text) :=
  match skipLineBlanks text with
  | '\'' :: rest =>
    (closeQuote? '\'' rest).map fun (inside, behind) =>
      (unescape singleQuoteEscape inside, behind)
  | '"' :: rest =>
    (closeQuote? '"' rest).map fun (inside, behind) =>
      (unescape doubleQuoteEscape inside, behind)
  | _ =>
    -- The blanks in front stay until the comment is gone, which may start right behind them.
    let (line, behind) := text.spanOf (· ≠ '\n')
    some (trim (withoutComment line), behind)

/-- A name that is being read: there is none on a comment line. -/
inductive Name where
  | comment
  | named (name : Text)

/-- Reads a name, in single quotes or up to a blank, an equals sign or a hash. -/
def readName? : Text → Option (Name × Text)
  | [] => none
  | '#' :: rest => some (.comment, '#' :: rest)
  | '\'' :: rest =>
    let (name, behind) := spanOf (· ≠ '\'') rest
    if name.isEmpty || behind.isEmpty then none else some (.named name, behind.drop 1)
  | text =>
    let (name, behind) := text.spanOf fun char => char ≠ '=' && char ≠ '#' && !isBlank char
    if name.isEmpty then none else some (.named name, behind)

/-- What follows the end of the line, when only blanks and a comment stand before it. -/
def lineEnd? (text : Text) : Option Text :=
  let text := skipLineBlanks text
  match if text.head? = some '#' then skipToLineEnd text else text with
  | [] => some []
  | char :: rest => if char = '\n' then some rest else none

/-- Skips the rest of a line that cannot be read. -/
def dropLine (text : Text) : Text :=
  (skipToLineEnd text).drop 1

/-- Reads one binding, if the text has one here, and tells where the next may start. -/
def readBinding (text : Text) : Option (Text × Option Text) × Text :=
  let text := skipExport (trimStart text)
  match readName? text with
  | none => (none, dropLine text)
  | some (name, rest) =>
    let rest := skipLineBlanks rest
    let valued :=
      match rest with
      | '=' :: rest =>
        match readValue? rest with
        | some (value, rest) => Except.ok (some value, rest)
        | none => .error rest
      | rest => .ok (none, rest)
    match valued with
    | .error rest => (none, dropLine rest)
    | .ok (value, rest) =>
      match lineEnd? rest, name with
      | none, _ => (none, dropLine rest)
      | some rest, .comment => (none, rest)
      | some rest, .named name => (some (name, value), rest)

/-- Reads all bindings; a reading that consumes nothing ends the file. -/
def readBindings (text : Text) : Bindings :=
  let (binding, rest) := readBinding text
  if rest.length < text.length then binding.toList ++ readBindings rest else binding.toList
  termination_by text.length

/-- Fills in one reference `name` or `name:-default` whose braces start here. -/
def reference? (values : Environment) (text : Text) : Option (Text × Text) :=
  match after? ['$', '\x7b'] text with
  | none => none
  | some inside =>
    let (name, rest) := inside.spanOf fun char => char ≠ ':' && char ≠ '\x7d'
    match rest with
    | '\x7d' :: behind => some ((values.get? name).getD [], behind)
    | ':' :: '-' :: rest =>
      let (fallback, rest) := spanOf (· ≠ '\x7d') rest
      if rest.isEmpty then none else some ((values.get? name).getD fallback, rest.drop 1)
    | _ => none

/-- Fills in every reference; a name with neither a value nor a default leaves nothing. -/
def fillIn (values : Environment) : Text → Text
  | [] => []
  | char :: rest =>
    match reference? values (char :: rest) with
    -- What is filled in is not searched again.
    | some (value, behind) =>
      if behind.length < rest.length + 1 then value ++ fillIn values behind else value
    | none => char :: fillIn values rest
  termination_by text => text.length

/-- Replaces the value of a name where it was first given, or adds the name at the end. -/
def assign (bindings : Bindings) (name : Text) (value : Option Text) : Bindings :=
  if bindings.any fun entry => entry.1 = name then
    bindings.map fun entry => if entry.1 = name then (name, value) else entry
  else bindings ++ [(name, value)]

/-- The value that a binding takes, given those before it and the environment they hide. -/
def resolveFrom (environment : Environment) (known : Bindings) : Bindings → Bindings
  | [] => known
  | (name, value) :: rest =>
    -- The last value of a name counts, so earlier bindings hide the environment.
    let visible := environment ++ known.map fun entry => (entry.1, entry.2.getD [])
    resolveFrom environment (assign known name (value.map (fillIn visible))) rest

/-- A text without the byte order mark that may stand at its very start. -/
def withoutByteOrderMark : Text → Text
  | '\uFEFF' :: rest => rest
  | text => text

/-- Reads a file; its references see earlier bindings first and then the environment. -/
def read (environment : Environment) (text : Text) : Bindings :=
  resolveFrom environment [] (readBindings (unifyBreaks (withoutByteOrderMark text)))

end Dotenv

end EntityDto
