import EntityDto.Attribute
import EntityDto.Field.Basic
import EntityDto.Token

/-! Entity classes read from source text. -/

namespace EntityDto

open Text

/-- One entity class. -/
structure Entity where
  className : Text
  /-- The class name without its entity suffix. -/
  baseName : Text
  fields : List Field
  deriving DecidableEq

/-- The suffix that marks an entity class. -/
def entitySuffix : Text := "Entity".toList

/-- Removes an entity suffix from the end of a name, or from right before its last line feed. -/
def withoutEntitySuffix (name : Text) : Text :=
  match before? entitySuffix name with
  | some base => base
  | none =>
    -- A name that was cut out of lines may carry the line feed that ended its line.
    match before? (entitySuffix ++ ['\n']) name with
    | some base => base ++ ['\n']
    | none => name

/-- The class name of a declaration that starts right here. -/
def classNameHere? (text : Text) : Option Text :=
  match ((after? "export".toList text).bind afterBlanks?).bind (after? "class".toList) with
  | none => none
  | some rest =>
    match afterBlanks? rest with
    | none => none
    | some rest =>
      let name := rest.takeWhile isWord
      if name.isEmpty then none else some name

/-- The class name of the leftmost exported class declaration. -/
def className? (source : Text) : Option Text :=
  findFrom? classNameHere? source

/-- Decorators and column block that wait for the next property. -/
structure Pending where
  decorators : List Text
  columnMeta : Option Text
  deriving DecidableEq

namespace Pending

/-- Nothing waits. -/
def none : Pending := ⟨[], .none⟩

/-- The column block and the decorators as one text. -/
def searchText (pending : Pending) : Text :=
  pending.columnMeta.getD [] ++ '\n' :: joinLines pending.decorators

/-- The field that a declaration makes of what waits for it. -/
def field (pending : Pending) (declaration : Declaration) : Field where
  name := declaration.name
  type := declaration.type
  optional := declaration.optionalMark || pending.searchText.holdsSomewhere Attribute.nullableHere
  decorators := pending.decorators
  columnMeta := pending.columnMeta

end Pending

/-- Folds tokens into fields: decorators wait for the next property and go to it alone. -/
def fieldsFrom (pending : Pending) : List Token → List Field
  | [] => []
  | token :: rest =>
    match token.kind with
    | .decorator => fieldsFrom ⟨pending.decorators ++ [token.text], pending.columnMeta⟩ rest
    | .columnBlock text _ => fieldsFrom ⟨pending.decorators ++ [token.text], some text⟩ rest
    -- The property takes all that waits, so the next one starts with nothing.
    | .property declaration => pending.field declaration :: fieldsFrom .none rest
    | .other => fieldsFrom pending rest

namespace Entity

/-- The tokens of a source. -/
def tokens (source : Text) : List Token :=
  Token.ofLines (sourceLines source)

/-- Reads an entity from source text; there is none without an exported class declaration. -/
def ofSource? (source : Text) : Option Entity :=
  (className? source).map fun className =>
    ⟨className, withoutEntitySuffix className, fieldsFrom .none (tokens source)⟩

/-- Reads an entity and reports unterminated column blocks and the number of fields. -/
def read (source : Text) : Logged (Option Entity) :=
  match ofSource? source with
  | none => ⟨none, []⟩
  | some entity =>
    ⟨some entity,
      (tokens source).filterMap Token.warning? ++ [.parsed entity.className entity.fields.length]⟩

end Entity

end EntityDto
