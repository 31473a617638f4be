import EntityDto.Proofs.Conversion.EnumChecks

/-!
Two readings of types agree: a request checks a value against an enumeration exactly where the type
of the field gives the search for imports a name, unless there are blanks in the type.
-/

namespace EntityDto

open Text

namespace Field

variable {field : Field}

/-- A type that names an enumeration is checked as one, whatever else it is. -/
theorem enumCheckLine_mem_requestLines (isEnum : isEnumType field.type = true) (options : Options) :
    enumCheckLine field.plainType ∈ field.requestLines options := by
  have chosen : field.typeValidator?
      = some ("@IsEnum(".toList ++ field.plainType ++ ")".toList) := by
    unfold typeValidator?
    dsimp only
    rw [isEnumType_withoutBlanks, if_pos isEnum]
  have listed : "@IsEnum(".toList ++ field.plainType ++ ")".toList
      ∈ field.validators (field.isRequired options) :=
    List.mem_append_left _ (Option.mem_toList.mpr chosen)
  -- The validators stand between the transformers and the property.
  exact List.mem_append_left _ (List.mem_append_right _ (List.mem_map.mpr ⟨_, listed, rfl⟩))

/-- A request checks a field as an enumeration exactly where its type names one. -/
theorem exists_enumCheckLine_iff (field : Field) (options : Options) :
    (∃ named, enumCheckLine named ∈ field.requestLines options)
      ↔ isEnumType field.type = true := by
  constructor
  · rintro ⟨named, listed⟩
    rw [requestLines_eq, memberLines] at listed
    simp only [List.mem_append, List.mem_cons, List.not_mem_nil, or_false] at listed
    rcases listed with isDecorator | isProperty | isBlank
    · exact (of_startsWith_of_mem_requestDecorators isDecorator (startsWith_enumCheckLine named)).1
    · -- The check ends in a parenthesis, whatever the name of the field is.
      have ends : (enumCheckLine named).getLast? = some ')' := by
        unfold enumCheckLine member
        rw [← List.append_assoc]
        exact List.getLast?_concat
      rw [isProperty, getLast?_propertyLine] at ends
      cases ends
    · cases isBlank
  · intro isEnum
    exact ⟨field.plainType, enumCheckLine_mem_requestLines isEnum options⟩

end Field

/-- The lines of a kept field stand together in the request. -/
theorem Entity.requestLines_infix {entity : Entity} {field : Field}
    (kept : field ∈ entity.requestFields) (source : Text) (options : Options) :
    field.requestLines options <:+: entity.requestDtoLines source options := by
  -- The blocks of the fields stand one behind the other inside the class.
  have inBlocks : field.requestLines options
      <:+: (entity.requestFields.map fun field => field.requestLines options).flatten :=
    List.infix_of_mem_flatten (List.mem_map.mpr ⟨field, kept, rfl⟩)
  rw [← List.flatMap_def] at inBlocks
  unfold requestDtoLines
  exact inBlocks.trans (List.infix_append _ _ _)

/--
The enumerations that a field names are the maximal runs of word characters in its type that end as
such names do, and a type is taken for an enumeration exactly where there is one among those of the
type without its blanks.

So a request checks a field whose type holds no blanks as an enumeration exactly where the field
gives the search for imports a name.
-/
theorem Field.enumNames_agree (field : Field) :
    ((∃! runs, MaximalRuns field.type runs)
      ∧ ∀ runs, MaximalRuns field.type runs →
        field.enumNames = runs.filter fun run => run.endsWith enumSuffix)
    ∧ (isEnumType field.type = true
      ↔ { field with type := field.type.withoutBlanks }.enumNames ≠ [])
    ∧ (AllSolid field.type → ∀ source options, ∀ entity : Entity, field ∈ entity.requestFields →
      field.requestLines options <:+: entity.requestDtoLines source options
      ∧ ((∃ named, enumCheckLine named ∈ field.requestLines options)
        ↔ ∃ name ∈ enumNamesOf entity.requestFields, name ∈ field.enumNames)) := by
  -- Both readings look at the words of the type, once with its blanks and once without.
  have recognised : isEnumType field.type = true
      ↔ { field with type := field.type.withoutBlanks }.enumNames ≠ [] := by
    rw [isEnumType_iff, enumNames_ne_nil_iff]
  refine ⟨⟨?_, ?_⟩, recognised, ?_⟩
  · exact ⟨_, maximalRuns_iff.mpr rfl, fun runs isRuns => maximalRuns_iff.mp isRuns⟩
  · intro runs isRuns
    rw [maximalRuns_iff.mp isRuns, enumNames]
  · intro solid source options entity kept
    refine ⟨Entity.requestLines_infix kept source options, ?_⟩
    rw [exists_enumCheckLine_iff, recognised, withoutBlanks_of_allSolid solid]
    constructor
    · intro nonempty
      obtain ⟨name, used⟩ := List.exists_mem_of_ne_nil _ nonempty
      exact ⟨name, mem_enumNamesOf_iff.mpr ⟨field, kept, used⟩, used⟩
    · rintro ⟨name, -, used⟩
      exact List.ne_nil_of_mem used

/-- A field whose type names two enumerations, one of them twice. -/
def rolesField : Field :=
  ⟨"roles".toList, "Map<KindEnum,RoleEnum|KindEnum>".toList, false, [], none⟩

/-- A field whose type has the name of an enumeration inside another word. -/
def labelsField : Field := ⟨"labels".toList, "KindEnums[]".toList, false, [], none⟩

/-- An entity of the two fields. -/
def labelledEntity : Entity := ⟨"AEntity".toList, "A".toList, [rolesField, labelsField]⟩

/-- The first field is checked as an enumeration, and the second gives no name to look for. -/
theorem Field.enumNames_agree_roles :
    rolesField.enumNames = ["KindEnum".toList, "RoleEnum".toList, "KindEnum".toList]
    ∧ (∃ named, enumCheckLine named ∈ rolesField.requestLines {})
    ∧ labelsField.enumNames = []
    ∧ ¬ ∃ named, enumCheckLine named ∈ labelsField.requestLines {} := by
  -- The first field has two names, one of them twice; the second holds the suffix inside a word.
  have kept : rolesField ∈ labelledEntity.requestFields
      ∧ labelsField ∈ labelledEntity.requestFields := by decide
  obtain ⟨⟨-, roleNames⟩, -, roles⟩ := Field.enumNames_agree rolesField
  obtain ⟨⟨-, labelNames⟩, -, labels⟩ := Field.enumNames_agree labelsField
  have named : rolesField.enumNames
      = ["KindEnum".toList, "RoleEnum".toList, "KindEnum".toList] := by
    rw [roleNames _ (maximalRuns_iff.mpr rfl)]
    decide
  have unnamed : labelsField.enumNames = [] := by
    rw [labelNames _ (maximalRuns_iff.mpr rfl)]
    decide
  have checked := (roles (by decide) [] {} labelledEntity kept.1).2
  have unchecked := (labels (by decide) [] {} labelledEntity kept.2).2
  refine ⟨named, checked.mpr ⟨"KindEnum".toList, by decide, by decide⟩, unnamed, ?_⟩
  rw [unchecked, unnamed]
  rintro ⟨name, -, used⟩
  exact List.not_mem_nil used

end EntityDto
