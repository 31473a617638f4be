import EntityDto.ResponseDto

/-! Whole conversions: from source text to both generated texts, with a report of the stages. -/

namespace EntityDto

open Text

/-- Why a source cannot be converted. -/
inductive ConversionError where
  /-- The source is not blank, yet declares no exported class. -/
  | classMissing
  deriving DecidableEq

/-- The wording of a conversion error. -/
def ConversionError.message : ConversionError → Text
  | .classMissing =>
    "Could not parse entity class name. Ensure it uses \x60export class NameEntity\x60.".toList

/-- What becomes of a source. -/
inductive Conversion where
  /-- A blank source converts to nothing, which is no error. -/
  | blank
  | failed (error : ConversionError)
  | converted (entity : Entity) (request response : Text)
  deriving DecidableEq

namespace Conversion

/-- The error of a failed conversion. -/
def error? : Conversion → Option ConversionError
  | .failed error => some error
  | _ => none

/-- The entity of a conversion that found one. -/
def entity? : Conversion → Option Entity
  | .converted entity _ _ => some entity
  | _ => none

/-- The request text, empty unless an entity was found. -/
def request : Conversion → Text
  | .converted _ request _ => request
  | _ => []

/-- The response text, empty unless an entity was found. -/
def response : Conversion → Text
  | .converted _ _ response => response
  | _ => []

end Conversion

/-- Whether a text holds nothing but blanks. -/
def isBlankText (text : Text) : Bool :=
  text.trim.isEmpty

/-- Both generated texts of an entity. -/
def Entity.converted (source : Text) (entity : Entity) (options : Options) : Conversion :=
  .converted entity (entity.requestDto source options) (entity.responseDto source options)

/-- The reports of rendering an entity. -/
def Entity.renderEvents (entity : Entity) : List Event :=
  [.stageStarted (some entity.className) .renderRequest,
    .stageStarted (some entity.className) .renderResponse,
    .converted entity.className entity.fields.length]

/-- Converts a source: parse, request text, response text. -/
def convert (source : Text) (options : Options) : Logged Conversion :=
  -- Nothing was asked for, so nothing is reported either.
  if isBlankText source then ⟨.blank, []⟩
  else
    let parsed := Entity.read source
    match parsed.value with
    | none => ⟨.failed .classMissing,
        .stageStarted none .parse :: parsed.events ++ [.classMissing]⟩
    | some entity => ⟨entity.converted source options,
        .stageStarted none .parse :: parsed.events ++ entity.renderEvents⟩

end EntityDto
