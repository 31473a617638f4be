import EntityDto.Proofs.Conversion.Body
import EntityDto.Proofs.Field.EnumNames

/-!
What a request checks values of enumerations against: the declared type as it is written, which
stands for one enumeration only where it is a single word.
-/

namespace EntityDto

open Text

/-- The line that checks a value against the enumeration that a text stands for. -/
def enumCheckLine (named : Text) : Text :=
  member ("@IsEnum(".toList ++ named ++ ")".toList)

/-- How every such line starts. -/
def enumCheckFront : Text :=
  member "@IsEnum(".toList

/-- A line that checks against an enumeration starts as all of them do. -/
theorem startsWith_enumCheckLine (named : Text) :
    (enumCheckLine named).startsWith enumCheckFront = true :=
  startsWith_iff.mpr ⟨named ++ ")".toList, rfl⟩

namespace Field

variable {field : Field}

/-- A decorator in a request checks against an enumeration by the declared type alone. -/
theorem of_startsWith_of_mem_requestDecorators {options : Options} {line : Text}
    (listed : line ∈ field.requestDecorators options)
    (starts : line.startsWith enumCheckFront = true) :
    isEnumType field.type = true ∧ line = enumCheckLine field.plainType := by
  -- Neither transformers nor the other validators start with this check.
  have transforms : ∀ line ∈ requestTransformLines, line.startsWith enumCheckFront = false := by
    decide
  have fixed : ∀ content ∈ fixedValidators,
      (member content).startsWith enumCheckFront = false := by decide
  rw [requestDecorators, List.mem_append, List.mem_map] at listed
  rcases listed with isTransform | ⟨content, isValidator, rfl⟩
  · rw [transforms line (field.requestTransforms_subset isTransform)] at starts
    cases starts
  · -- Of the validators only this check starts so, and it names the declared type.
    rcases of_mem_validators isValidator with ⟨isEnum, rfl⟩ | isFixed
    · rw [isEnumType_withoutBlanks] at isEnum
      exact ⟨isEnum, rfl⟩
    · rw [fixed content isFixed] at starts
      cases starts

/-- The block of a field in a request checks against an enumeration by the declared type alone. -/
theorem WellFormed.of_startsWith_of_mem_requestLines (wellFormed : field.WellFormed)
    {options : Options} {line : Text} (listed : line ∈ field.requestLines options)
    (starts : line.startsWith enumCheckFront = true) :
    isEnumType field.type = true ∧ line = enumCheckLine field.plainType := by
  -- No property starts with this check, for no name starts as a decorator.
  have property : (propertyLine field.name field.requestType).startsWith enumCheckFront = false :=
    startsWith_propertyLine wellFormed.isName field.requestType "IsEnum(".toList
  rw [requestLines_eq, memberLines] at listed
  simp only [List.mem_append, List.mem_cons, List.not_mem_nil, or_false] at listed
  rcases listed with isDecorator | rfl | rfl
  · exact of_startsWith_of_mem_requestDecorators isDecorator starts
  · rw [property] at starts
    cases starts
  · exact absurd starts (by decide)

/-- What a check against an enumeration names is one of the field's where it is a word. -/
theorem WellFormed.enumNames_of_enumCheckLine (wellFormed : field.WellFormed) {options : Options}
    {named : Text} (listed : enumCheckLine named ∈ field.requestLines options) :
    named = trim field.type ∧ (named ∈ field.enumNames ↔ AllWord named)
      ∧ (AllWord named → field.enumNames = [named]) := by
  obtain ⟨isEnum, same⟩ :=
    wellFormed.of_startsWith_of_mem_requestLines listed (startsWith_enumCheckLine named)
  -- Two checks that are one line agree between the parentheses.
  have isType : named = field.plainType := by
    simp only [enumCheckLine, member, List.append_assoc, List.append_cancel_left_eq,
      List.append_cancel_right_eq] at same
    exact same
  have alone (word : AllWord named) : field.enumNames = [named] := by
    rw [isType, wellFormed.plainType_eq] at word ⊢
    exact enumNames_of_allWord word isEnum
  refine ⟨isType, ⟨fun used => ?_, fun word => ?_⟩, alone⟩
  · -- What a field names is always a word of its type.
    exact allWord_of_mem_words (List.mem_of_mem_filter used)
  · rw [alone word]
    exact List.mem_singleton.mpr rfl

end Field

/-- A line that is carried over does not check anything, for it starts with the import word. -/
theorem startsWith_of_mem_enumImports {source line : Text} {fields : List Field}
    (carried : line ∈ enumImports source fields) : line.startsWith enumCheckFront = false := by
  rw [← Bool.not_eq_true, startsWith_iff]
  rintro ⟨rest, rfl⟩
  obtain ⟨-, ⟨behind, isImport⟩, -⟩ := mem_enumImports_iff.mp carried
  -- Behind the blanks stands the sign, where the import word would have to start.
  have trimmed : trimStart (enumCheckFront ++ rest) = "@IsEnum(".toList ++ rest := rfl
  obtain ⟨back, split⟩ := trim_prefix_trimStart (enumCheckFront ++ rest)
  rw [trimmed, ← isImport] at split
  exact absurd (List.cons.inj split).1 (by decide)

namespace Entity

variable {source : Text} {entity : Entity} {options : Options}

/-- Unless a path brings in further lines, none above a request class checks anything. -/
theorem startsWith_of_mem_requestAbove {line : Text}
    (listed : line ∈ requestAbove source entity options) :
    line.startsWith enumCheckFront = false := by
  simp only [requestAbove, List.mem_append, List.mem_cons, List.not_mem_nil, or_false] at listed
  rcases listed with ((rfl | rfl | rfl | rfl | rfl) | carried) | rfl
  -- Each written import starts with its word.
  · rfl
  · rfl
  · rfl
  · rfl
  · rfl
  · exact startsWith_of_mem_enumImports carried
  · rfl

/-- Where both paths are on one line, so is each line above a request class. -/
theorem requestAbove_noFeed (commonNoFeed : '\n' ∉ options.commonDtoImport)
    (transformerNoFeed : '\n' ∉ options.transformerImport) :
    ∀ line ∈ requestAbove source entity options, '\n' ∉ line := by
  intro line listed
  simp only [requestAbove, List.mem_append, List.mem_cons, List.not_mem_nil, or_false] at listed
  rcases listed with ((rfl | rfl | rfl | rfl | rfl) | carried) | rfl
  -- Three imports have fixed paths, and two have those of the options.
  · exact importLine_noFeed (by decide) (by decide)
  · exact importLine_noFeed (by decide) (by decide)
  · exact importLine_noFeed (by decide) (by decide)
  · exact importLine_noFeed (by decide) commonNoFeed
  · exact importLine_noFeed (by decide) transformerNoFeed
  · exact (isLine_of_mem_brokenLines (mem_enumImports_iff.mp carried).1).noFeed
  · decide

/-- A line of a request that checks against an enumeration stands in the block of a field. -/
theorem exists_field_of_enumCheckLine (found : ofSource? source = some entity)
    (commonNoFeed : '\n' ∉ options.commonDtoImport)
    (transformerNoFeed : '\n' ∉ options.transformerImport) {line : Text}
    (listed : line ∈ feedLines (entity.requestDto source options))
    (starts : line.startsWith enumCheckFront = true) :
    ∃ field ∈ entity.requestFields, line ∈ field.requestLines options := by
  -- What stands above the class is the listed lines, none of which falls into several.
  have above : (requestAbove source entity options).flatMap feedLines
      = requestAbove source entity options :=
    flatMap_feedLines (requestAbove_noFeed commonNoFeed transformerNoFeed)
  simp only [feedLines_requestDto found, above, requestBelow, List.mem_append, List.mem_cons,
    List.not_mem_nil, or_false] at listed
  rcases listed with isAbove | rfl | inBlock | rfl | rfl | rfl
  · rw [startsWith_of_mem_requestAbove isAbove] at starts
    cases starts
  -- Around the blocks stand the lines of two classes, a brace and a blank line.
  · cases starts
  · exact List.mem_flatMap.mp inBlock
  · cases starts
  · cases starts
  · cases starts

/--
What a request checks the values of an enumeration against is the declared type as it is written.

Every line of a field's block that makes such a check names that field's type. It names one of the
enumerations that the type mentions exactly where the type is a single word, and then there is no
other. Where both import paths are on one line, there are no such lines but those of the blocks.
-/
theorem requestDto_enumChecks (found : ofSource? source = some entity) (options : Options) :
    HasBody (entity.requestDto source options) entity.requestOpening
      (entity.requestFields.map fun field => field.requestLines options)
    ∧ (∀ field ∈ entity.requestFields, ∀ named,
      enumCheckLine named ∈ field.requestLines options →
        named = trim field.type ∧ (named ∈ field.enumNames ↔ AllWord named)
          ∧ (AllWord named → field.enumNames = [named]))
    ∧ ('\n' ∉ options.commonDtoImport → '\n' ∉ options.transformerImport →
      ∀ named, enumCheckLine named ∈ feedLines (entity.requestDto source options) →
        ∃ field ∈ entity.requestFields, enumCheckLine named ∈ field.requestLines options) := by
  refine ⟨hasBody_requestDto found options, fun field kept named listed => ?_,
    fun commonNoFeed transformerNoFeed named listed => ?_⟩
  · -- A check of a kept field names its type, and no other line of the class looks like one.
    have wellFormed := wellFormed_of_ofSource? found field (List.mem_of_mem_filter kept)
    exact wellFormed.enumNames_of_enumCheckLine listed
  · exact exists_field_of_enumCheckLine found commonNoFeed transformerNoFeed listed
      (startsWith_enumCheckLine named)

/-- A class with a field of an enumeration and a field of a list of it. -/
def kindsSource : Text :=
  joinLines ["export class AEntity \x7b".toList, "  kind: KindEnum;".toList,
    "  kinds: KindEnum[];".toList, "\x7d".toList]

/-- The field of the enumeration. -/
def kindField : Field := ⟨"kind".toList, "KindEnum".toList, false, [], none⟩

/-- The field of the list. -/
def kindsField : Field := ⟨"kinds".toList, "KindEnum[]".toList, false, [], none⟩

/-- The entity of that class. -/
def kindsEntity : Entity := ⟨"AEntity".toList, "A".toList, [kindField, kindsField]⟩

/-- The check of the one field names its enumeration, and that of the list names none. -/
theorem requestDto_enumChecks_kinds :
    ofSource? kindsSource = some kindsEntity
    ∧ enumCheckLine "KindEnum".toList ∈ kindField.requestLines {}
    ∧ "KindEnum".toList ∈ kindField.enumNames
    ∧ enumCheckLine "KindEnum[]".toList ∈ kindsField.requestLines {}
    ∧ "KindEnum[]".toList ∉ kindsField.enumNames := by
  -- Either field is checked against its type as declared, and only one of the types is a word.
  have found : ofSource? kindsSource = some kindsEntity := by decide +kernel
  have kept : kindField ∈ kindsEntity.requestFields
      ∧ kindsField ∈ kindsEntity.requestFields := by decide +kernel
  have checks : enumCheckLine "KindEnum".toList ∈ kindField.requestLines {}
      ∧ enumCheckLine "KindEnum[]".toList ∈ kindsField.requestLines {} := by decide +kernel
  obtain ⟨-, named, -⟩ := requestDto_enumChecks found {}
  have kind := (named kindField kept.1 _ checks.1).2.1
  have kinds := (named kindsField kept.2 _ checks.2).2.1
  exact ⟨found, checks.1, kind.mpr (by decide), checks.2, mt kinds.mp (by decide)⟩

/-- A request may check against a type expression that no field names as an enumeration. -/
theorem exists_enumCheck_of_expression :
    ofSource? kindsSource = some kindsEntity
    ∧ enumCheckLine "KindEnum[]".toList ∈ feedLines (kindsEntity.requestDto kindsSource {})
    ∧ ¬ AllWord "KindEnum[]".toList
    ∧ ∀ field ∈ kindsEntity.fields, "KindEnum[]".toList ∉ field.enumNames := by
  decide +kernel

end Entity

end EntityDto
