import EntityDto.Entity
import EntityDto.EnumImport
import EntityDto.Options

/-! The request class of an entity and its variant for partial updates, as source text. -/

namespace EntityDto

open Text

/-- A blank line. -/
def blankLine : Text := []

/-- The closing brace of a class. -/
def closingBrace : Text := ['\x7d']

/-- A line inside a class body. -/
def member (content : Text) : Text :=
  "  ".toList ++ content

/-- The declaration line of a property. -/
def propertyLine (name type : Text) : Text :=
  member (name ++ ": ".toList ++ type ++ ";".toList)

/-- An import of some names from a module. -/
def importLine (names source : Text) : Text :=
  "import \x7b ".toList ++ names ++ " \x7d from '".toList ++ source ++ "';".toList

/-- A decorator line that passes a property's value through a transformer. -/
def transformLine (transformer : Text) : Text :=
  member ("@Transform((\x7b value \x7d) => ".toList ++ transformer ++ "(value))".toList)

namespace Field

/-- Whether a request must give the field a value. -/
def isRequired (field : Field) (options : Options) : Bool :=
  !options.forceOptional && !field.optional && !field.isGeneratedKey

/-- The decorator that checks a value's type, chosen by the declared type without its blanks. -/
def typeValidator? (field : Field) : Option Text :=
  -- Blanks inside a type do not change what it is, but they are kept where it is written out.
  let type := field.type.withoutBlanks
  if isEnumType type then some ("@IsEnum(".toList ++ field.plainType ++ ")".toList)
  else if type = "string".toList then some "@IsString()".toList
  else if type = "Date".toList then some "@IsDate()".toList
  else if type = "number".toList then some "@IsInt()".toList
  else none

/-- The decorator that says whether a value must be there; of required types only text has one. -/
def presenceValidator? (field : Field) (required : Bool) : Option Text :=
  if !required then some "@IsOptional()".toList
  else if field.type.withoutBlanks = "string".toList then some "@IsNotEmpty()".toList
  else none

/-- The decorators that check a request's value. -/
def validators (field : Field) (required : Bool) : List Text :=
  field.typeValidator?.toList ++ (field.presenceValidator? required).toList

/-- The type of the field in a request; a tiny integer keeps its stored number. -/
def requestType (field : Field) : Text :=
  if field.isTinyintBoolean then "number".toList else field.plainType

/-- The transformer lines of the field in a request. -/
def requestTransforms (field : Field) : List Text :=
  (if field.isTinyintBoolean then [transformLine "boolTransformer.to".toList] else [])
    ++ if field.isDateColumn then [transformLine "dateTransformer.to".toList] else []

/-- The lines of the field in a request class. -/
def requestLines (field : Field) (options : Options) : List Text :=
  field.requestTransforms ++ (field.validators (field.isRequired options)).map member
    ++ [propertyLine field.name field.requestType, blankLine]

end Field

namespace Entity

/-- The fields a request may set: no relations and no audit timestamps. -/
def requestFields (entity : Entity) : List Field :=
  entity.fields.filter fun field => !field.isRelation && !field.isAudit

/-- The name of the request class. -/
def requestClass (entity : Entity) : Text :=
  entity.baseName ++ "Dto".toList

/-- The lines of the request class, its imports before it and its partial variant behind. -/
def requestDtoLines (source : Text) (entity : Entity) (options : Options) : List Text :=
  [importLine "IsString, IsOptional, IsInt, IsNotEmpty, IsDate, IsEnum".toList
      "class-validator".toList,
    importLine "Transform".toList "class-transformer".toList,
    importLine "PartialType".toList "@nestjs/mapped-types".toList,
    importLine "CommonDto".toList options.commonDtoImport,
    importLine "boolTransformer, dateTransformer".toList options.transformerImport]
    ++ enumImports source entity.requestFields
    ++ [blankLine,
      "export class ".toList ++ entity.requestClass ++ " extends CommonDto \x7b".toList]
    ++ entity.requestFields.flatMap (fun field => field.requestLines options)
    ++ [closingBrace,
      blankLine,
      "export class ".toList ++ entity.baseName ++ "ReqDto extends PartialType(".toList
        ++ entity.requestClass ++ ") \x7b\x7d".toList]

/-- The source text of the request class and its partial variant. -/
def requestDto (source : Text) (entity : Entity) (options : Options) : Text :=
  joinLines (entity.requestDtoLines source options)

end Entity

end EntityDto
