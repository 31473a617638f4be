import EntityDto.RequestDto
import EntityDto.ResponseType

/-! The response class of an entity, as source text. -/

namespace EntityDto

open Text

namespace Field

/-- The transformer lines of the field in a response; relations have none, nor have audit dates. -/
def responseTransforms (field : Field) : List Text :=
  if field.isRelation then []
  else
    (if field.isTinyintBoolean then [transformLine "boolTransformer.from".toList] else [])
      ++ if field.isDateColumn && !field.isAudit then
        [transformLine "dateTransformer.from".toList] else []

/-- The lines of the field in a response class. -/
def responseLines (field : Field) : List Text :=
  field.responseTransforms
    ++ [member "@Expose()".toList, propertyLine field.name field.responseType, blankLine]

end Field

namespace Entity

/-- The name of the response class. -/
def responseClass (entity : Entity) : Text :=
  entity.baseName ++ responseSuffix

/-- The lines of the response class and its imports; it exposes every field, relations included. -/
def responseDtoLines (source : Text) (entity : Entity) (options : Options) : List Text :=
  [importLine "Expose, Transform".toList "class-transformer".toList,
    importLine "boolTransformer, dateTransformer".toList options.transformerImport]
    ++ enumImports source entity.fields
    ++ [blankLine, "export class ".toList ++ entity.responseClass ++ " \x7b".toList]
    ++ entity.fields.flatMap Field.responseLines
    ++ [closingBrace]

/-- The source text of the response class. -/
def responseDto (source : Text) (entity : Entity) (options : Options) : Text :=
  joinLines (entity.responseDtoLines source options)

end Entity

end EntityDto
