import EntityDto.Text.Basic

/-! Fields of an entity class. -/

namespace EntityDto

/-- One declared property of an entity class. -/
structure Field where
  name : Text
  /-- The declared type as written. -/
  type : Text
  optional : Bool
  /-- The decorator lines above the declaration, in order. -/
  decorators : List Text
  /-- The raw text of the column block above the declaration. -/
  columnMeta : Option Text
  deriving DecidableEq

end EntityDto
