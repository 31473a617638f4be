import EntityDto.Proofs.Conversion.ImportLines
import EntityDto.Proofs.Field.TypeText
import EntityDto.ResponseDto

/-!
Members of generated classes: whatever decorators, name and type a field gets, its lines are read as
one field that has just these.
-/

namespace EntityDto

open Text

/-- What stands before a member of a class is blank. -/
theorem allBlank_indent : AllBlank "  ".toList := by
  decide

/-- A property line does not start as a decorator does, for no name starts with the sign. -/
theorem startsWith_propertyLine {name : Text} (isName : Declaration.IsName name)
    (type front : Text) : (propertyLine name type).startsWith (member ('@' :: front)) = false := by
  obtain ⟨first, rest, rfl⟩ := List.exists_cons_of_ne_nil isName.ne_nil
  -- Both lines are indented alike, and the characters behind the indent differ.
  have different : '@' ≠ first := by
    rintro rfl
    exact absurd isName.1 (by decide)
  unfold propertyLine member startsWith
  simp [after?, different]

/-- A property line ends in a semicolon. -/
theorem getLast?_propertyLine (name type : Text) : (propertyLine name type).getLast? = some ';' := by
  unfold propertyLine member
  rw [← List.append_assoc]
  exact List.getLast?_concat

/-- Decorators, a name and a type of which a member of a generated class can be made. -/
structure IsMember (decorators : List Text) (name type : Text) : Prop where
  areDecorators : ∀ line ∈ decorators, IsDecorator line ∧ IsLine line
  isName : Declaration.IsName name
  isType : IsTypeText type

/-- The lines of a member of a generated class. -/
def memberLines (decorators : List Text) (name type : Text) : List Text :=
  decorators ++ [propertyLine name type, blankLine]

/-- The field as which a member of a generated class is read. -/
def memberField (decorators : List Text) (name type : Text) : Field where
  name := name
  type := type
  optional := (decorators.map trim).any (holdsSomewhere Attribute.nullableHere)
  decorators := decorators.map trim
  columnMeta := none

namespace IsMember

variable {decorators : List Text} {name type : Text}

/-- The declaration of a member: no modifier, no mark, and one blank before the type. -/
def spelling (isMember : IsMember decorators name type) : Declaration.Spelling where
  modifiers := []
  name := name
  mark := .plain
  gap := []
  written := ' ' :: type
  rest := []
  isName := isMember.isName
  gapBlank := allBlank_nil
  writtenNonempty := by simp
  writtenOpen := by simp [isMember.isType.noStop]

/-- A property line is spelled that way. -/
theorem propertyLine_eq (isMember : IsMember decorators name type) :
    propertyLine name type = "  ".toList ++ isMember.spelling.text := by
  -- The colon comes with its blank, which the spelling counts to the type.
  unfold propertyLine member
  rw [List.append_assoc, List.append_assoc]
  rfl

/-- A property line stays one line. -/
theorem isLine_propertyLine (isMember : IsMember decorators name type) :
    IsLine (propertyLine name type) := by
  -- A name has no blanks in it, and the semicolon stands at the end.
  have nameNoFeed : '\n' ∉ name := fun held =>
    absurd (isMember.isName.solid '\n' held) (by decide)
  have noFeed : '\n' ∉ propertyLine name type := by
    unfold propertyLine member
    simp only [List.mem_append, not_or]
    exact ⟨by decide, ⟨⟨nameNoFeed, by decide⟩, isMember.isType.noFeed⟩, by decide⟩
  exact .of_endsSolid noFeed (EndsSolid.append (endsSolid_concat (by decide) _) (by simp) _)

/-- A member is written as a field without a block. -/
def source (isMember : IsMember decorators name type) : FieldSource where
  decorators := decorators
  block := none
  indent := "  ".toList
  spelling := isMember.spelling
  areDecorators := isMember.areDecorators
  indentBlank := allBlank_indent
  isLine := isMember.propertyLine_eq ▸ isMember.isLine_propertyLine

/-- What is written is read as the member's field. -/
theorem source_field (isMember : IsMember decorators name type) :
    isMember.source.field = memberField decorators name type := by
  -- The blank behind the colon is no part of the type.
  have typed : trim (' ' :: type) = type := by
    rw [show ' ' :: type = [' '] ++ type from rfl, trim_append_left (by decide),
      isMember.isType.trimmed]
  simp only [FieldSource.field, FieldSource.pending, FieldSource.blockHead, source, spelling,
    memberField, typed, List.append_nil, Option.map_none, Option.getD_none]
  rfl

/-- The lines of a member are read as its field, wherever they stand. -/
theorem fieldsOfLines_memberLines (isMember : IsMember decorators name type) (rest : List Text) :
    fieldsOfLines .none (memberLines decorators name type ++ rest)
      = memberField decorators name type :: fieldsOfLines .none rest := by
  -- The blank line that closes a member is passed over before what stands behind it is read.
  have lines : memberLines decorators name type ++ rest
      = isMember.source.lines ++ blankLine :: rest := by
    simp only [memberLines, FieldSource.lines, FieldSource.blockLines, source,
      isMember.propertyLine_eq, List.append_assoc, List.nil_append, List.cons_append]
  rw [lines, FieldSource.fieldsOfLines_lines, fieldsOfLines_skipped isPassed_blankLine.isSkipped,
    isMember.source_field]

/-- Every line of a member stays one line. -/
theorem isLine_of_mem_memberLines (isMember : IsMember decorators name type) {line : Text}
    (listed : line ∈ memberLines decorators name type) : IsLine line := by
  -- A block is made of its decorators, its property and a blank line.
  rcases List.mem_append.mp listed with isDecorator | listed
  · exact (isMember.areDecorators line isDecorator).2
  · rcases List.mem_cons.mp listed with rfl | isBlank
    · exact isMember.isLine_propertyLine
    · rw [List.mem_singleton.mp isBlank]
      exact isPassed_blankLine.isLine

end IsMember

/-- A decorator that is not a column's stays one when it is put on a line of its own. -/
theorem isDecorator_member {first : Char} {rest : Text} (notColumn : first ≠ 'C')
    (solid : EndsSolid ('@' :: first :: rest)) : IsDecorator (member ('@' :: first :: rest)) := by
  have trimmed : trim (member ('@' :: first :: rest)) = '@' :: first :: rest := by
    unfold member
    rw [trim_append_left allBlank_indent, trim_eq_self (startsSolid_cons (by decide) _) solid]
  -- A column decorator would differ from it in the character behind the sign.
  have noColumn : startsWith ('@' :: first :: rest) "@Column(".toList = false := by
    rw [← Bool.not_eq_true, startsWith_iff]
    rintro ⟨behind, split⟩
    exact notColumn (List.cons.inj (List.cons.inj split).2).1
  constructor
  · rw [trimmed]
    rfl
  · rw [trimmed, Token.opensColumnBlock, noColumn, Bool.false_and]

namespace Field

/-- The decorator lines of the field in a response. -/
def responseDecorators (field : Field) : List Text :=
  field.responseTransforms ++ [member "@Expose()".toList]

/-- The decorator lines of the field in a request. -/
def requestDecorators (field : Field) (options : Options) : List Text :=
  field.requestTransforms ++ (field.validators (field.isRequired options)).map member

/-- The field as a response shows it. -/
def inResponse (field : Field) : Field where
  name := field.name
  type := field.responseType
  optional := false
  decorators := field.responseDecorators.map trim
  columnMeta := none

/-- The field as a request takes it. -/
def inRequest (options : Options) (field : Field) : Field where
  name := field.name
  type := if field.isTinyintBoolean then "number".toList else field.type.trim
  -- An enumeration's type text may itself hold the attribute.
  optional := ((field.requestDecorators options).map trim).any
    (holdsSomewhere Attribute.nullableHere)
  decorators := (field.requestDecorators options).map trim
  columnMeta := none

/-- The decorator lines that responses are made of. -/
def responseDecoratorLines : List Text :=
  [transformLine "boolTransformer.from".toList, transformLine "dateTransformer.from".toList,
    member "@Expose()".toList]

/-- The transformer lines that requests are made of. -/
def requestTransformLines : List Text :=
  [transformLine "boolTransformer.to".toList, transformLine "dateTransformer.to".toList]

/-- The validators that do not depend on the type they check. -/
def fixedValidators : List Text :=
  ["@IsString()".toList, "@IsDate()".toList, "@IsInt()".toList, "@IsOptional()".toList,
    "@IsNotEmpty()".toList]

/-- Whatever a field is, its response has no decorator lines but these. -/
theorem responseDecorators_subset (field : Field) :
    field.responseDecorators ⊆ responseDecoratorLines := by
  unfold responseDecorators responseTransforms responseDecoratorLines
  split
  · -- A relation is only exposed.
    exact List.subset_cons_of_subset _ (List.subset_cons_self _ _)
  · split <;> split <;> simp

/-- A member of a response can be made of every field that was read. -/
theorem WellFormed.isMember_inResponse {field : Field} (wellFormed : field.WellFormed) :
    IsMember field.responseDecorators field.name field.responseType where
  areDecorators := fun line listed => by
    have each : ∀ line ∈ responseDecoratorLines, IsDecorator line ∧ IsLine line := by decide
    exact each line (field.responseDecorators_subset listed)
  isName := wellFormed.isName
  isType := wellFormed.isTypeText_responseType

/-- No decorator line of a response makes its field optional. -/
theorem memberField_inResponse (field : Field) :
    memberField field.responseDecorators field.name field.responseType = field.inResponse := by
  -- None of the lines that can be there holds the attribute.
  have each : ∀ line ∈ responseDecoratorLines,
      holdsSomewhere Attribute.nullableHere (trim line) = false := by decide
  have required : (field.responseDecorators.map trim).any (holdsSomewhere Attribute.nullableHere)
      = false := by
    rw [List.any_map, List.any_eq_false]
    intro line listed
    exact Bool.not_eq_true _ ▸ each line (field.responseDecorators_subset listed)
  rw [memberField, required]
  rfl

/-- A validator is a fixed one, or it names the declared type, which names an enumeration. -/
theorem of_mem_validators {field : Field} {required : Bool} {content : Text}
    (listed : content ∈ field.validators required) :
    isEnumType field.type.withoutBlanks = true
      ∧ content = "@IsEnum(".toList ++ field.plainType ++ ")".toList
    ∨ content ∈ fixedValidators := by
  unfold fixedValidators
  simp only [validators, List.mem_append, Option.mem_toList] at listed
  rcases listed with checksType | checksPresence
  · -- Only the check of an enumeration is made from the type.
    unfold typeValidator? at checksType
    dsimp only at checksType
    split at checksType
    · next isEnum => exact .inl ⟨isEnum, (Option.some.inj checksType).symm⟩
    · -- Every other type has its own fixed check, or none.
      right
      repeat' split at checksType
      all_goals cases checksType
      all_goals simp only [List.mem_cons, true_or, or_true]
  · unfold presenceValidator? at checksPresence
    right
    repeat' split at checksPresence
    all_goals cases checksPresence
    all_goals simp only [List.mem_cons, true_or, or_true]

/-- Every validator makes a decorator line. -/
theorem WellFormed.isDecorator_of_mem_validators {field : Field} (wellFormed : field.WellFormed)
    {required : Bool} {content : Text} (listed : content ∈ field.validators required) :
    IsDecorator (member content) ∧ IsLine (member content) := by
  rcases of_mem_validators listed with ⟨-, rfl⟩ | fixed
  · -- The closing parenthesis is the end, so only what stands inside could break the line.
    have solid : EndsSolid ("@IsEnum(".toList ++ field.plainType ++ ")".toList) :=
      EndsSolid.append (by decide) (by decide) _
    have noFeed : '\n' ∉ member ("@IsEnum(".toList ++ field.plainType ++ ")".toList) := by
      rw [wellFormed.plainType_eq]
      unfold member
      simp only [List.mem_append, not_or]
      exact ⟨by decide, ⟨by decide, wellFormed.isType.noFeed⟩, by decide⟩
    exact ⟨isDecorator_member (by decide) solid, .of_endsSolid noFeed (solid.append (by simp) _)⟩
  · have each : ∀ content ∈ fixedValidators,
        IsDecorator (member content) ∧ IsLine (member content) := by decide
    exact each content fixed

/-- Whatever a field is, its request has no transformer lines but these. -/
theorem requestTransforms_subset (field : Field) :
    field.requestTransforms ⊆ requestTransformLines := by
  unfold requestTransforms requestTransformLines
  split <;> split <;> simp

/-- A member of a request can be made of every field that was read. -/
theorem WellFormed.isMember_inRequest {field : Field} (wellFormed : field.WellFormed)
    (options : Options) :
    IsMember (field.requestDecorators options) field.name field.requestType where
  areDecorators := fun line listed => by
    -- Transformers come first, validators behind them.
    rcases List.mem_append.mp listed with transforms | validates
    · have each : ∀ line ∈ requestTransformLines, IsDecorator line ∧ IsLine line := by decide
      exact each line (field.requestTransforms_subset transforms)
    · obtain ⟨content, isValidator, rfl⟩ := List.mem_map.mp validates
      exact wellFormed.isDecorator_of_mem_validators isValidator
  isName := wellFormed.isName
  isType := by
    unfold requestType
    split
    · exact ⟨by decide, by decide, by decide⟩
    · rw [wellFormed.plainType_eq]
      exact wellFormed.isType

end Field

end EntityDto
