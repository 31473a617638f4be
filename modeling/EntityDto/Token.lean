import EntityDto.ColumnBlock

/-! Source lines classified into decorators, column blocks, property declarations and the rest. -/

namespace EntityDto

open Text

/-- What a property line declares. -/
structure Declaration where
  name : Text
  /-- Whether the name carries the optional mark. -/
  optionalMark : Bool
  /-- The declared type without surrounding blanks. -/
  type : Text
  deriving DecidableEq

namespace Declaration

/-- The words that may stand before a property name. -/
def modifiers : List Text :=
  ["public".toList, "private".toList, "protected".toList, "readonly".toList]

/-- Whether a character can start a property name. -/
def startsName (char : Char) : Bool :=
  isCapital char || isSmall char || char = '_'

/-- Whether a character can stand inside a property name. -/
def continuesName (char : Char) : Bool :=
  startsName char || isDigit char

/-- What follows one modifier and the blanks behind it. -/
def afterModifier? (text : Text) : Option Text :=
  modifiers.findSome? fun modifier => (after? modifier text).bind afterBlanks?

/-- A name splits off the front when the text starts with one. -/
def splitName? : Text → Option (Text × Text)
  | [] => none
  | char :: rest =>
    if startsName char then
      some (char :: rest.takeWhile continuesName, rest.dropWhile continuesName)
    else none

/-- What stands between a colon and the first semicolon, which must be there and not at once. -/
def typeText? (text : Text) : Option Text :=
  match after? [':'] text with
  | none => none
  | some rest =>
    let written := rest.takeWhile (· ≠ ';')
    -- Text that runs to the very end met no semicolon.
    if written.isEmpty || written.length = rest.length then none else some written

/-- Reads a declaration that starts with its name. -/
def unmodified? (text : Text) : Option Declaration :=
  match splitName? text with
  | none => none
  | some (name, rest) =>
    -- Either mark is skipped, but only the question mark makes the property optional.
    let afterMark :=
      match rest with
      | '?' :: unmarked | '!' :: unmarked => unmarked
      | unmarked => unmarked
    (typeText? (trimStart afterMark)).map fun written =>
      ⟨name, rest.head? = some '?', trim written⟩

/-- A modifier and its blanks take up room. -/
theorem length_afterModifier?_lt {text rest : Text} (found : afterModifier? text = some rest) :
    rest.length < text.length := by
  -- Whichever modifier it was, at least one blank behind it was skipped.
  obtain ⟨modifier, -, found⟩ := List.exists_of_findSome?_eq_some found
  obtain ⟨behind, isAfter, skipped⟩ := Option.bind_eq_some_iff.mp found
  have shorter := length_afterBlanks?_lt skipped
  rw [eq_append_of_after? isAfter, List.length_append]
  omega

/--
Reads a declaration from a trimmed line.

Any number of modifiers may come first. A modifier word is itself the name when no declaration can
be read behind it.
-/
def read? (text : Text) : Option Declaration :=
  match _found : afterModifier? text with
  | none => unmodified? text
  | some rest =>
    match read? rest with
    | some declaration => some declaration
    -- Nothing is declared behind the modifier, so the word itself may be the name.
    | none => unmodified? text
  termination_by text.length
  decreasing_by exact length_afterModifier?_lt _found

end Declaration

/-- What a line, or a run of lines, is. -/
inductive Token.Kind where
  | decorator
  /-- A column decorator with its raw text, and whether its parentheses balance. -/
  | columnBlock (text : Text) (closed : Bool)
  | property (declaration : Declaration)
  | other
  deriving DecidableEq

/-- One classified line, or the lines of one column block. -/
structure Token where
  kind : Token.Kind
  /-- Number of the first line, counted from one. -/
  lineNumber : Nat
  /-- The first line without surrounding blanks. -/
  text : Text
  deriving DecidableEq

namespace Token

/-- Whether a trimmed line opens a column decorator that holds an object. -/
def opensColumnBlock (text : Text) : Bool :=
  text.startsWith "@Column(".toList && text.elem '\x7b'

/-- The kind of a trimmed line that stands by itself. -/
def singleKind (text : Text) : Kind :=
  if text.startsWith ['@'] then .decorator
  else
    match Declaration.read? text with
    | some declaration => .property declaration
    | none => .other

/--
Classifies lines, the first of which has the given number.

A column block takes all its lines. One that never closes keeps the text to the end of the lines,
but the scan goes on right below its first line.
-/
def ofLinesFrom (lineNumber : Nat) : List Text → List Token
  | [] => []
  | line :: rest =>
    let text := trim line
    if opensColumnBlock text then
      match closingIndex? 0 (line :: rest) with
      | some index =>
        ⟨.columnBlock (joinLines (line :: rest.take index)) true, lineNumber, text⟩
          :: ofLinesFrom (lineNumber + index + 1) (rest.drop index)
      | none =>
        -- The lines below are not swallowed, for they may declare properties of their own.
        ⟨.columnBlock (joinLines (line :: rest)) false, lineNumber, text⟩
          :: ofLinesFrom (lineNumber + 1) rest
    else ⟨singleKind text, lineNumber, text⟩ :: ofLinesFrom (lineNumber + 1) rest
  termination_by lines => lines.length
  decreasing_by all_goals simp only [List.length_drop, List.length_cons]; omega

/-- Classifies the lines of a source. -/
def ofLines (lines : List Text) : List Token :=
  ofLinesFrom 1 lines

/-- The warning a token gives rise to. -/
def warning? (token : Token) : Option Event :=
  match token.kind with
  | .columnBlock _ false => some (.unterminatedBlock token.lineNumber)
  | _ => none

end Token

end EntityDto
