import EntityDto.Text.Basic

/-! Options for what is generated from an entity. -/

namespace EntityDto

/-- Options for what is generated from an entity. -/
structure Options where
  /-- Marks every request field as optional. -/
  forceOptional : Bool := true
  /-- Kept and shown, but without effect: audit fields never enter a request. -/
  stripAudit : Bool := true
  /-- Where the base class of requests is imported from. -/
  commonDtoImport : Text := "src/common/dto/common.dto".toList
  /-- Where the value transformers are imported from. -/
  transformerImport : Text := "src/common/util/transformer".toList
  deriving DecidableEq

end EntityDto
