import EntityDto.Proofs.Field.TypeText

/-!
Response types of lists. A type is taken apart level by level, down to one that is no list, and gets
one pair of brackets back for each level. So a list of a class becomes a list of its response class,
however the two notations are nested, and a type that was mapped is mapped to itself.
-/

namespace EntityDto

open Text

/-- A list is mapped to a list of what its item type is mapped to. -/
theorem responseTypeOf_of_item {type item : Text} (found : listItem? (trim type) = some item) :
    responseTypeOf type = responseTypeOf item ++ listBrackets := by
  -- The recursion asks for an item again, and gets the one that was found.
  rw [responseTypeOf]
  split
  · next other isItem =>
    rw [found] at isItem
    rw [Option.some.inj isItem]
  · next noItem =>
    rw [found] at noItem
    cases noItem

/-- A type that is no list loses the blanks around it, and its suffix may be replaced. -/
theorem responseTypeOf_of_no_item {type : Text} (noList : listItem? (trim type) = none) :
    responseTypeOf type = withResponseSuffix (trim type) := by
  -- The recursion asks for an item, and there is none.
  rw [responseTypeOf]
  split
  · next item isItem =>
    rw [noList] at isItem
    cases isItem
  · rfl

/-- Types that differ in the blanks around them are mapped to the same. -/
theorem responseTypeOf_congr {type other : Text} (same : trim type = trim other) :
    responseTypeOf type = responseTypeOf other := by
  -- Each level looks at the trimmed type alone.
  cases found : listItem? (trim type) with
  | some item =>
    rw [responseTypeOf_of_item found]
    rw [same] at found
    rw [responseTypeOf_of_item found]
  | none =>
    rw [responseTypeOf_of_no_item found]
    rw [same] at found
    rw [responseTypeOf_of_no_item found, same]

/-- Blanks around a type do not matter to what it is mapped to. -/
theorem responseTypeOf_spaced {before after : Text} (beforeBlank : AllBlank before)
    (afterBlank : AllBlank after) (type : Text) :
    responseTypeOf (before ++ type ++ after) = responseTypeOf type := by
  apply responseTypeOf_congr
  rw [trim_append_right afterBlank, trim_append_left beforeBlank]

/-- A type that ends in no closing bracket is no list. -/
theorem listItem?_eq_none {type : Text} (ends : ∀ last ∈ type.getLast?, last ≠ '>' ∧ last ≠ ']') :
    listItem? type = none := by
  -- Both notations end in a closing bracket.
  rw [Option.eq_none_iff_forall_ne_some]
  intro item found
  rcases listItem?_eq_some_iff.mp found with generic | rfl
  · obtain ⟨rfl, -⟩ := genericItem?_eq_some_iff.mp generic
    exact (ends '>' List.getLast?_concat).1 rfl
  · exact (ends ']' (List.getLast?_append_of_ne_nil item (by decide))).2 rfl

/-- Brackets behind a type stay behind it, whatever the type is. -/
theorem responseTypeOf_append_brackets (type : Text) :
    responseTypeOf (type ++ listBrackets) = responseTypeOf type ++ listBrackets := by
  -- Trimming only takes the blanks in front of the item, which would be taken off it anyway.
  have trimmed : trim (type ++ listBrackets) = trimStart type ++ listBrackets := by
    have skipped : trimStart (type ++ listBrackets) = trimStart type ++ listBrackets :=
      trimStart_append_cons (by decide) type [']']
    rw [trim, skipped]
    exact dropEndWhile_eq_self (EndsSolid.append (by decide) (by decide) _)
  have found : listItem? (trim (type ++ listBrackets)) = some (trimStart type) :=
    listItem?_eq_some_iff.mpr (.inr trimmed)
  have same : trim (trimStart type) = trim type := by
    rw [trim, trimStart_eq_self (startsSolid_trimStart type), trim]
  rw [responseTypeOf_of_item found, responseTypeOf_congr same]

/-- A type with the response suffix ends as the suffix does. -/
theorem getLast?_append_responseSuffix (base : Text) :
    (base ++ responseSuffix).getLast? = some 'o' :=
  List.getLast?_append_of_ne_nil base (by decide)

/-- The suffix of a type is replaced once, for the response suffix is no entity suffix. -/
theorem withResponseSuffix_withResponseSuffix (type : Text) :
    withResponseSuffix (withResponseSuffix type) = withResponseSuffix type := by
  rcases withResponseSuffix_cases type with ⟨base, -, replaced⟩ | ⟨-, kept⟩
  · rw [replaced]
    rcases withResponseSuffix_cases (base ++ responseSuffix) with ⟨other, same, -⟩ | ⟨-, kept⟩
    · -- The two suffixes differ already in their last characters.
      have ends := congrArg List.getLast? same
      rw [getLast?_append_responseSuffix, List.getLast?_append_of_ne_nil _ (by decide)] at ends
      exact absurd ends (by decide)
    · exact kept
  · rw [kept, kept]

/-- Replacing the suffix of a type makes no list of it. -/
theorem listItem?_withResponseSuffix {type : Text} (noList : listItem? type = none) :
    listItem? (withResponseSuffix type) = none := by
  rcases withResponseSuffix_cases type with ⟨base, -, replaced⟩ | ⟨-, kept⟩
  · rw [replaced]
    apply listItem?_eq_none
    -- The new suffix does not end in a bracket.
    intro last isLast
    rw [getLast?_append_responseSuffix] at isLast
    cases Option.some.inj isLast
    exact ⟨by decide, by decide⟩
  · rw [kept]
    exact noList

/-- A type that was mapped is mapped to itself. -/
theorem responseTypeOf_responseTypeOf (type : Text) :
    responseTypeOf (responseTypeOf type) = responseTypeOf type := by
  -- Level by level the brackets stay behind, down to a type that is no list and becomes none.
  fun_induction responseTypeOf type with
  | case1 type item found ih => rw [responseTypeOf_append_brackets, ih]
  | case2 type noList =>
    have trimmed : trim (withResponseSuffix (trim type)) = withResponseSuffix (trim type) :=
      trim_eq_self (startsSolid_withResponseSuffix (startsSolid_trim type))
        (endsSolid_withResponseSuffix (endsSolid_trim type))
    have still := listItem?_withResponseSuffix noList
    rw [← trimmed] at still
    rw [responseTypeOf_of_no_item still, trimmed, withResponseSuffix_withResponseSuffix]

/-- The brackets of a number of lists, one inside the other. -/
def bracketsOf (depth : Nat) : Text :=
  (List.replicate depth listBrackets).flatten

/-- One more list puts its brackets behind those of the others. -/
theorem bracketsOf_succ (depth : Nat) : bracketsOf (depth + 1) = bracketsOf depth ++ listBrackets := by
  rw [bracketsOf, List.replicate_succ', List.flatten_append, List.flatten_singleton, bracketsOf]

/-- A text stands inside a type, below a number of lists that are taken apart one by one. -/
inductive Unwraps : Nat → Text → Text → Prop
  | whole (type : Text) : Unwraps 0 type type
  | inside {depth : Nat} {type item inner : Text} (found : listItem? (trim type) = some item)
      (below : Unwraps depth item inner) : Unwraps (depth + 1) type inner

/-- Lists inside each other are taken apart one after the other. -/
theorem Unwraps.item {depth : Nat} {type level item : Text} (unwraps : Unwraps depth type level)
    (found : listItem? (trim level) = some item) : Unwraps (depth + 1) type item := by
  induction unwraps with
  | whole type => exact .inside found (.whole item)
  | inside outer below ih => exact .inside outer (ih found)

/-- What stands inside is mapped by itself, and each list puts its brackets behind. -/
theorem Unwraps.responseTypeOf_eq {depth : Nat} {type inner : Text}
    (unwraps : Unwraps depth type inner) :
    responseTypeOf type = responseTypeOf inner ++ bracketsOf depth := by
  induction unwraps with
  | whole type => exact (List.append_nil _).symm
  | inside found below ih => rw [responseTypeOf_of_item found, ih, List.append_assoc, bracketsOf_succ]

/-- Taking lists apart comes to an end, at a type that is no list. -/
theorem exists_unwraps (type : Text) :
    ∃ depth inner, depth ≤ type.length ∧ Unwraps depth type inner
      ∧ listItem? (trim inner) = none := by
  -- The induction is on the calls of the mapping, each of which takes one list apart.
  fun_induction responseTypeOf type with
  | case1 type item found ih =>
    obtain ⟨depth, inner, bounded, unwraps, noList⟩ := ih
    have shorter := length_listItem?_lt found
    have trimmed := length_trim_le type
    exact ⟨depth + 1, inner, by omega, .inside found unwraps, noList⟩
  | case2 type noList => exact ⟨0, type, by omega, .whole type, noList⟩

/--
Mapping a type that was mapped changes nothing, whatever text it is.

The lists of a text are taken apart in no more steps than it has characters, and what is left in the
end is no list. The result has no blanks around it, and blanks around the text do not matter.
-/
theorem responseTypeOf_idempotent (type : Text) :
    (∃ depth inner, depth ≤ type.length ∧ Unwraps depth type inner
      ∧ listItem? (trim inner) = none
      ∧ responseTypeOf type = withResponseSuffix (trim inner) ++ bracketsOf depth)
    ∧ responseTypeOf (responseTypeOf type) = responseTypeOf type
    ∧ StartsSolid (responseTypeOf type) ∧ EndsSolid (responseTypeOf type)
    ∧ ∀ before after, AllBlank before → AllBlank after →
      responseTypeOf (before ++ type ++ after) = responseTypeOf type := by
  refine ⟨?_, responseTypeOf_responseTypeOf type, startsSolid_responseTypeOf type,
    endsSolid_responseTypeOf type, ?_⟩
  · -- Unwrapping goes down to the name, and the brackets count its steps.
    obtain ⟨depth, inner, bounded, unwraps, noList⟩ := exists_unwraps type
    refine ⟨depth, inner, bounded, unwraps, noList, ?_⟩
    rw [unwraps.responseTypeOf_eq, responseTypeOf_of_no_item noList]
  · intro before after beforeBlank afterBlank
    exact responseTypeOf_spaced beforeBlank afterBlank type

/-- A list in one notation inside a list in the other, with and without blanks around it. -/
theorem responseTypeOf_idempotent_twoNotations :
    let type := "Array< DocEntity [] >".toList
    let mapped := "DocResDto[][]".toList
    responseTypeOf type = mapped ∧ responseTypeOf mapped = mapped
      ∧ responseTypeOf ("\n ".toList ++ type ++ "\t".toList) = mapped := by
  intro type mapped
  -- Either notation is unwrapped once, whatever blanks it has inside.
  have outer : listItem? (trim type) = some " DocEntity [] ".toList := by decide
  have inner : listItem? (trim " DocEntity [] ".toList) = some "DocEntity ".toList := by decide
  have unwraps : Unwraps 2 type "DocEntity ".toList := .inside outer (.inside inner (.whole _))
  have isMapped : responseTypeOf type = mapped := by
    rw [unwraps.responseTypeOf_eq, responseTypeOf_of_no_item (by decide)]
    decide
  obtain ⟨-, again, -, -, spaced⟩ := responseTypeOf_idempotent type
  rw [isMapped] at again
  refine ⟨isMapped, again, ?_⟩
  rw [spaced "\n ".toList "\t".toList (by decide) (by decide), isMapped]

/-- A list type in generic notation. -/
def genericList (item : Text) : Text :=
  "Array<".toList ++ item ++ ['>']

/-- A list type in generic notation is taken apart, unless it is empty or on several lines. -/
theorem genericItem?_genericList {item : Text} (nonempty : item ≠ []) (oneLine : '\n' ∉ item) :
    genericItem? (genericList item) = some item :=
  genericItem?_eq_some_iff.mpr ⟨rfl, nonempty, oneLine⟩

/-- A list type in generic notation has no blanks around it. -/
theorem trim_genericList (item : Text) : trim (genericList item) = genericList item :=
  trim_eq_self (startsSolid_cons (by decide) _) (endsSolid_concat (by decide) _)

/--
The name of a class in any number of lists, as it may be written: each list in either notation, and
blanks around any part.
-/
inductive ListType where
  | named (name : Text) (isName : Declaration.IsName name)
  | generic (item : ListType)
  | bracketed (item : ListType)
  /-- The blanks stay on the line, for a list in generic notation does. -/
  | spaced (before : Text) (type : ListType) (after : Text)
    (blank : AllBlank before ∧ AllBlank after) (oneLine : '\n' ∉ before ∧ '\n' ∉ after)

namespace ListType

/-- The type as it is written. -/
def text : ListType → Text
  | named name _ => name
  | generic item => genericList item.text
  | bracketed item => item.text ++ listBrackets
  | spaced before type after _ _ => before ++ type.text ++ after

/-- The class at the bottom of the lists. -/
def className : ListType → Text
  | named name _ => name
  | generic item => item.className
  | bracketed item => item.className
  | spaced _ type _ _ _ => type.className

/-- The number of lists. -/
def depth : ListType → Nat
  | named _ _ => 0
  | generic item => item.depth + 1
  | bracketed item => item.depth + 1
  | spaced _ type _ _ _ => type.depth

/-- A list type is not empty. -/
theorem text_ne_nil (type : ListType) : type.text ≠ [] := by
  -- There is a name at the bottom, whatever stands around it.
  induction type with
  | named name isName => exact isName.ne_nil
  | generic item ih => exact List.append_ne_nil_of_right_ne_nil _ (List.cons_ne_nil _ _)
  | bracketed item ih => exact List.append_ne_nil_of_left_ne_nil ih _
  | spaced before type after blank oneLine ih =>
    exact List.append_ne_nil_of_left_ne_nil (List.append_ne_nil_of_right_ne_nil _ ih) _

/-- A list type stays on one line. -/
theorem text_noFeed (type : ListType) : '\n' ∉ type.text := by
  -- Over the spelling: no part of any notation holds a line feed, nor do the blanks in it.
  induction type with
  | named name isName =>
    intro held
    exact absurd (isName.solid '\n' held) (by decide)
  | generic item ih =>
    unfold text genericList
    rw [List.mem_append, List.mem_append, not_or, not_or]
    exact ⟨⟨by decide, ih⟩, by decide⟩
  | bracketed item ih =>
    rw [text, List.mem_append, not_or]
    exact ⟨ih, by decide⟩
  | spaced before type after blank oneLine ih =>
    rw [text, List.mem_append, List.mem_append, not_or, not_or]
    exact ⟨⟨oneLine.1, ih⟩, oneLine.2⟩

end ListType

/-- The class that stands for a class in a response. -/
structure IsResponseName (name mapped : Text) : Prop where
  ofEntity : ∀ base, name = base ++ entitySuffix → mapped = base ++ responseSuffix
  ofOther : ¬ entitySuffix <:+ name → mapped = name

/-- Replacing the suffix of a class gives the one that stands for it. -/
theorem isResponseName_withResponseSuffix (name : Text) :
    IsResponseName name (withResponseSuffix name) := by
  -- The suffix is exchanged where there is one, and there is none in any other name.
  rcases withResponseSuffix_cases name with ⟨base, rfl, replaced⟩ | ⟨noSuffix, kept⟩
  · constructor
    · intro other same
      rw [replaced, List.append_cancel_right same]
    · intro noSuffix
      exact absurd (List.suffix_append base entitySuffix) noSuffix
  · constructor
    · rintro base rfl
      exact absurd (List.suffix_append base entitySuffix) noSuffix
    · intro
      exact kept

namespace ListType

/-- A name is no list, and has no blanks that would be taken off it. -/
theorem responseTypeOf_named {name : Text} (isName : Declaration.IsName name) :
    responseTypeOf name = withResponseSuffix name := by
  have trimmed : trim name = name := trim_of_allSolid isName.solid
  have noList : listItem? (trim name) = none := by
    rw [trimmed]
    apply listItem?_eq_none
    -- No bracket can stand in a name.
    intro last isLast
    have continues := isName.continues last (List.mem_of_getLast? isLast)
    constructor
    · rintro rfl
      exact absurd continues (by decide)
    · rintro rfl
      exact absurd continues (by decide)
  rw [responseTypeOf_of_no_item noList, trimmed]

/--
A list of a class is mapped to a list of the class that stands for it in responses: its name is
followed by one pair of brackets for each list, however the two notations are nested.
-/
theorem responseTypeOf_text (type : ListType) :
    ∃ mapped, IsResponseName type.className mapped
      ∧ responseTypeOf type.text = mapped ++ bracketsOf type.depth := by
  refine ⟨withResponseSuffix type.className, isResponseName_withResponseSuffix _, ?_⟩
  -- Over the spelling: each list adds one pair of brackets, and blanks add nothing.
  induction type with
  | named name isName => exact (responseTypeOf_named isName).trans (List.append_nil _).symm
  | generic item ih =>
    have isGeneric : genericItem? (trim (genericList item.text)) = some item.text := by
      rw [trim_genericList]
      exact genericItem?_genericList item.text_ne_nil item.text_noFeed
    have found := listItem?_eq_some_iff.mpr (.inl isGeneric)
    rw [text, responseTypeOf_of_item found, ih, List.append_assoc, ← bracketsOf_succ]
    rfl
  | bracketed item ih =>
    rw [text, responseTypeOf_append_brackets, ih, List.append_assoc, ← bracketsOf_succ]
    rfl
  | spaced before type after blank oneLine ih =>
    rw [text, responseTypeOf_spaced blank.1 blank.2, ih]
    rfl

end ListType

end EntityDto
