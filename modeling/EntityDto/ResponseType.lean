import EntityDto.Entity
import EntityDto.Field.Traits

/-! The types that fields have in a response. -/

namespace EntityDto

open Text

/-- The suffix that a response class has in place of the entity suffix. -/
def responseSuffix : Text := "ResDto".toList

/-- The brackets that make a list type. -/
def listBrackets : Text := "[]".toList

/-- What stands between the brackets of a generic list type: something, and all on one line. -/
def genericItem? (type : Text) : Option Text :=
  match (after? "Array<".toList type).bind (before? ['>']) with
  -- Nested lists need no care here: the closing bracket is the last one of the type.
  | some item => if item.isEmpty || item.elem '\n' then none else some item
  | none => none

/-- The item type of a list type in either notation. -/
def listItem? (type : Text) : Option Text :=
  match genericItem? type with
  | some item => some item
  | none => before? listBrackets type

/-- The type of a response class, for a type that ends in the entity suffix. -/
def withResponseSuffix (type : Text) : Text :=
  match before? entitySuffix type with
  | some base => base ++ responseSuffix
  | none => type

/-- The suffix of an entity is replaced, and any other type is kept. -/
theorem withResponseSuffix_cases (type : Text) :
    (∃ base, type = base ++ entitySuffix ∧ withResponseSuffix type = base ++ responseSuffix)
      ∨ (¬ entitySuffix <:+ type ∧ withResponseSuffix type = type) := by
  unfold withResponseSuffix
  -- The suffix is cut off exactly where the name ends with it.
  split
  · next base isBefore => exact .inl ⟨base, eq_append_of_before? isBefore, rfl⟩
  · next noSuffix =>
    right
    refine ⟨?_, rfl⟩
    rintro ⟨base, rfl⟩
    rw [before?_append] at noSuffix
    cases noSuffix

/-- A list type in generic notation is an item, not empty and on one line, between the brackets. -/
theorem genericItem?_eq_some_iff {type item : Text} :
    genericItem? type = some item ↔
      type = "Array<".toList ++ item ++ ['>'] ∧ item ≠ [] ∧ '\n' ∉ item := by
  -- What stands between the brackets is taken from both ends of the type.
  have within : (after? "Array<".toList type).bind (before? ['>']) = some item ↔
      type = "Array<".toList ++ item ++ ['>'] := by
    simp only [Option.bind_eq_some_iff, after?_eq_some_iff, before?_eq_some_iff]
    constructor
    · rintro ⟨behind, rfl, rfl⟩
      exact (List.append_assoc ..).symm
    · rintro rfl
      exact ⟨item ++ ['>'], List.append_assoc .., rfl⟩
  unfold genericItem?
  rw [← within]
  cases inside : (after? "Array<".toList type).bind (before? ['>']) with
  | none => simp
  | some between =>
    -- It is given back unless one of the two checks fails.
    simp only [Bool.or_eq_true, List.isEmpty_iff, List.elem_eq_mem, decide_eq_true_eq,
      Option.ite_none_left_eq_some, not_or, Option.some.injEq]
    constructor
    · rintro ⟨kept, rfl⟩
      exact ⟨rfl, kept⟩
    · rintro ⟨rfl, kept⟩
      exact ⟨kept, rfl⟩

/-- A list type is written in one of the two notations. -/
theorem listItem?_eq_some_iff {type item : Text} :
    listItem? type = some item ↔
      genericItem? type = some item ∨ type = item ++ listBrackets := by
  unfold listItem?
  split
  · next other generic =>
    constructor
    · rintro ⟨⟩
      exact .inl generic
    · rintro (sameItem | brackets)
      · exact generic.symm.trans sameItem
      · -- No type ends in both notations at once.
        obtain ⟨isGeneric, -⟩ := genericItem?_eq_some_iff.mp generic
        have ends := congrArg List.getLast? (isGeneric.symm.trans brackets)
        rw [List.getLast?_concat, listBrackets] at ends
        simp at ends
  · next generic =>
    simp [generic, before?_eq_some_iff]

/-- An item type is shorter than its list type. -/
theorem length_listItem?_lt {type item : Text} (found : listItem? type = some item) :
    item.length < type.length := by
  rcases listItem?_eq_some_iff.mp found with generic | rfl
  · -- The item lost the generic name in front and the closing bracket behind.
    obtain ⟨rfl, -⟩ := genericItem?_eq_some_iff.mp generic
    simp only [List.length_append, List.length_singleton]
    omega
  · -- The item lost the two brackets behind it.
    simp [listBrackets]

/--
Maps a type that refers to entities to the matching response type.

Lists in either notation become lists of the mapped item type in bracket notation, level by level.
-/
def responseTypeOf (type : Text) : Text :=
  match _found : listItem? type.trim with
  | some item => responseTypeOf item ++ listBrackets
  | none => withResponseSuffix type.trim
  termination_by type.length
  decreasing_by exact Nat.lt_of_lt_of_le (length_listItem?_lt _found) (length_trim_le type)

/--
The type with which a field appears in a response.

Audit timestamps stay dates, while any other date is sent as text.
-/
def Field.responseType (field : Field) : Text :=
  if field.isRelation then responseTypeOf field.type
  else if field.isTinyintBoolean then "boolean".toList
  else if field.isDateColumn then
    if field.isAudit then "Date".toList else "string".toList
  else field.plainType

end EntityDto
