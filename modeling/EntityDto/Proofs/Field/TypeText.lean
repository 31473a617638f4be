import EntityDto.Proofs.Text.Lines
import EntityDto.Proofs.Token.Runs
import EntityDto.ResponseType

/-! The types of fields, as declared and in responses, can each stand in a declaration again. -/

namespace EntityDto

open Text

/-- A type text that a declaration gives back as it was put there. -/
structure IsTypeText (type : Text) : Prop where
  trimmed : trim type = type
  /-- A semicolon would end the declaration. -/
  noStop : ';' ∉ type
  noFeed : '\n' ∉ type

/-- A field that can be declared again. -/
structure Field.WellFormed (field : Field) : Prop where
  isName : Declaration.IsName field.name
  isType : IsTypeText field.type

/-- Each field is made of a property token's declaration. -/
theorem exists_declaration_of_mem_fieldsFrom {pending : Pending} {tokens : List Token}
    {field : Field} (member : field ∈ fieldsFrom pending tokens) :
    ∃ token ∈ tokens, ∃ declaration, token.declaration? = some declaration
      ∧ field.name = declaration.name ∧ field.type = declaration.type := by
  -- Fields and declarations go in pairs.
  obtain ⟨index, within, rfl⟩ := List.getElem_of_mem member
  have paired := fieldsFrom_forall₂ pending tokens
  have declared : index < (tokens.filterMap Token.declaration?).length := by
    rw [← paired.length_eq]
    exact within
  obtain ⟨token, listed, declares⟩ := List.mem_filterMap.mp (List.getElem_mem declared)
  exact ⟨token, listed, _, declares, paired.get within declared⟩

/-- Every field of an entity that was read can be declared again. -/
theorem Entity.wellFormed_of_ofSource? {source : Text} {entity : Entity}
    (found : ofSource? source = some entity) : ∀ field ∈ entity.fields, field.WellFormed := by
  simp only [ofSource?, Option.map_eq_some_iff] at found
  obtain ⟨className, -, rfl⟩ := found
  intro field member
  obtain ⟨token, listed, declaration, declares, sameName, sameType⟩ :=
    exists_declaration_of_mem_fieldsFrom member
  obtain ⟨line, isLine, -, carried⟩ := Token.of_mem_ofLinesFrom listed
  have isRead := carried declaration declares
  have wellFormed := Declaration.wellFormed_of_read? isRead
  -- The declaration stands in one line of the source, so no feed gets into its type.
  have noFeed : '\n' ∉ declaration.type := fun inType =>
    feed_not_mem_of_mem_sourceLines isLine
      (mem_of_mem_trim (Declaration.mem_of_mem_type isRead inType))
  -- The field has the name and the type of the declaration it is made of.
  constructor
  · rw [sameName]
    exact wellFormed.isName
  · rw [sameType]
    exact ⟨wellFormed.typeTrimmed, wellFormed.typeOpen, noFeed⟩

/-- An item type is part of its list type. -/
theorem mem_of_mem_listItem? {type item : Text} (found : listItem? type = some item)
    {char : Char} (member : char ∈ item) : char ∈ type := by
  -- In either notation the brackets stand around the item.
  rcases listItem?_eq_some_iff.mp found with generic | rfl
  · obtain ⟨rfl, -⟩ := genericItem?_eq_some_iff.mp generic
    exact List.mem_append_left _ (List.mem_append_right _ member)
  · exact List.mem_append_left _ member

/-- Mapping a type adds no characters but those of the response suffix and the list brackets. -/
theorem mem_of_mem_responseTypeOf {type : Text} {char : Char}
    (member : char ∈ responseTypeOf type) :
    char ∈ type ∨ char ∈ responseSuffix ++ listBrackets := by
  -- Each level of a list adds brackets, and the innermost type may change its suffix.
  fun_induction responseTypeOf type with
  | case1 type item found ih =>
    rcases List.mem_append.mp member with inItem | inBrackets
    · rcases ih inItem with inItem | added
      · exact .inl (mem_of_mem_trim (mem_of_mem_listItem? found inItem))
      · exact .inr added
    · exact .inr (List.mem_append_right _ inBrackets)
  | case2 type found =>
    rcases withResponseSuffix_cases (trim type) with ⟨base, split, replaced⟩ | ⟨-, kept⟩
    · rw [replaced] at member
      rcases List.mem_append.mp member with inBase | inSuffix
      · refine .inl (mem_of_mem_trim ?_)
        rw [split]
        exact List.mem_append_left _ inBase
      · exact .inr (List.mem_append_left _ inSuffix)
    · rw [kept] at member
      exact .inl (mem_of_mem_trim member)

/-- Replacing the suffix of a type leaves its start solid, also where nothing else is in front. -/
theorem startsSolid_withResponseSuffix {type : Text} (solid : StartsSolid type) :
    StartsSolid (withResponseSuffix type) := by
  -- Where the base is empty, the name begins with the suffix instead, which is solid.
  rcases withResponseSuffix_cases type with ⟨base, rfl, replaced⟩ | ⟨-, kept⟩
  · rw [replaced]
    exact solid.of_append.append (by decide)
  · rw [kept]
    exact solid

/-- Replacing the suffix of a type leaves its end solid, for both suffixes end so. -/
theorem endsSolid_withResponseSuffix {type : Text} (solid : EndsSolid type) :
    EndsSolid (withResponseSuffix type) := by
  -- A name that gets another suffix ends with it, and any other name stays.
  rcases withResponseSuffix_cases type with ⟨base, -, replaced⟩ | ⟨-, kept⟩
  · rw [replaced]
    exact EndsSolid.append (by decide) (by decide) base
  · rw [kept]
    exact solid

/-- A mapped type starts solid. -/
theorem startsSolid_responseTypeOf (type : Text) : StartsSolid (responseTypeOf type) := by
  -- The innermost type is trimmed, and brackets start solid where they stand behind nothing.
  fun_induction responseTypeOf type with
  | case1 type item found ih => exact ih.append (by decide)
  | case2 type found => exact startsSolid_withResponseSuffix (startsSolid_trim type)

/-- A mapped type ends solid. -/
theorem endsSolid_responseTypeOf (type : Text) : EndsSolid (responseTypeOf type) := by
  fun_cases responseTypeOf type with
  | case1 item found => exact EndsSolid.append (by decide) (by decide) _
  | case2 found => exact endsSolid_withResponseSuffix (endsSolid_trim type)

/-- A mapped type can stand in a declaration when the type it was mapped from can. -/
theorem isTypeText_responseTypeOf {type : Text} (isType : IsTypeText type) :
    IsTypeText (responseTypeOf type) where
  trimmed := trim_eq_self (startsSolid_responseTypeOf type) (endsSolid_responseTypeOf type)
  noStop := fun member => by
    rcases mem_of_mem_responseTypeOf member with inType | added
    · exact isType.noStop inType
    · exact absurd added (by decide)
  noFeed := fun member => by
    rcases mem_of_mem_responseTypeOf member with inType | added
    · exact isType.noFeed inType
    · exact absurd added (by decide)

/-- The declared type of a field can stand in a declaration without its blanks around. -/
theorem Field.WellFormed.plainType_eq {field : Field} (wellFormed : field.WellFormed) :
    field.plainType = field.type :=
  wellFormed.isType.trimmed

/-- The type of a field in a response can stand in a declaration. -/
theorem Field.WellFormed.isTypeText_responseType {field : Field} (wellFormed : field.WellFormed) :
    IsTypeText field.responseType := by
  -- Beside a mapped or a plain type there are only three fixed ones.
  unfold responseType
  split
  · exact isTypeText_responseTypeOf wellFormed.isType
  · split
    · exact ⟨by decide, by decide, by decide⟩
    · split
      · split
        · exact ⟨by decide, by decide, by decide⟩
        · exact ⟨by decide, by decide, by decide⟩
      · rw [wellFormed.plainType_eq]
        exact wellFormed.isType

end EntityDto
