import EntityDto.Field.Traits
import EntityDto.Text.Lines

/-! Import lines that carry the enumerations of an entity over to what is generated from it. -/

namespace EntityDto

open Text

/-- The enumeration names that some fields use, each once, in the order of first use. -/
def enumNamesOf (fields : List Field) : List Text :=
  (fields.flatMap Field.enumNames).eraseDups

/-- Whether a line is an import that mentions one of the names. -/
def importsSome (names : List Text) (line : Text) : Bool :=
  (trim line).startsWith "import".toList && names.any fun name => line.contains name

/-- The import lines of a source that mention an enumeration of the fields, each once. -/
def enumImports (source : Text) (fields : List Field) : List Text :=
  ((brokenLines source).filter (importsSome (enumNamesOf fields))).eraseDups

end EntityDto
