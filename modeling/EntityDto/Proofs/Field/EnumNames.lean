import EntityDto.Field.Traits
import EntityDto.Proofs.Text.Words

/-!
Enumerations that types name. A type names one, apart from the blanks in it, exactly where one of
its words ends as the names of enumerations do.
-/

namespace EntityDto

open Text

/-- A text without blanks has none to lose. -/
theorem withoutBlanks_of_allSolid {text : Text} (solid : AllSolid text) :
    text.withoutBlanks = text := by
  -- Where no character is a blank, none is filtered out.
  apply List.filter_eq_self.mpr
  intro char held
  rw [solid char held]
  rfl

/-- Blanks in a type do not matter to whether it names an enumeration. -/
theorem isEnumType_withoutBlanks (type : Text) : isEnumType type.withoutBlanks = isEnumType type := by
  -- Removing the blanks once more removes nothing.
  have solid : AllSolid type.withoutBlanks := by
    intro char held
    simpa using List.of_mem_filter held
  rw [isEnumType, withoutBlanks_of_allSolid solid, isEnumType]

/-- A type names an enumeration where a word of it does, once the blanks are gone. -/
theorem isEnumType_iff {type : Text} :
    isEnumType type = true ↔
      ∃ word ∈ words type.withoutBlanks, word.endsWith enumSuffix = true :=
  holdsSomewhere_startsWithWordEnd_iff (by decide) (by decide)

namespace Field

variable {field : Field}

/-- A field has a name of an enumeration where a word of its type ends as such names do. -/
theorem enumNames_ne_nil_iff :
    field.enumNames ≠ [] ↔ ∃ word ∈ words field.type, word.endsWith enumSuffix = true := by
  -- The names are those words that pass the test, so there is one where a word passes.
  constructor
  · intro nonempty
    obtain ⟨name, listed⟩ := List.exists_mem_of_ne_nil _ nonempty
    exact ⟨name, List.mem_filter.mp listed⟩
  · rintro ⟨name, isEnum⟩
    exact List.ne_nil_of_mem (List.mem_filter.mpr isEnum)

/-- A type that is a word and names an enumeration is the one name that it holds. -/
theorem enumNames_of_allWord (word : AllWord field.type) (isEnum : isEnumType field.type = true) :
    field.enumNames = [field.type] := by
  have solid : AllSolid field.type := fun char held => isBlank_eq_false_of_isWord (word char held)
  obtain ⟨name, listed, ends⟩ := isEnumType_iff.mp isEnum
  rw [withoutBlanks_of_allSolid solid] at listed
  -- It is the only word of itself, so it is this word that ends as an enumeration does.
  have nonempty : field.type ≠ [] := by
    intro empty
    rw [empty] at listed
    exact absurd listed List.not_mem_nil
  rw [words_of_allWord nonempty word, List.mem_singleton] at listed
  subst listed
  simp only [enumNames, words_of_allWord nonempty word, List.filter_cons, ends, if_true,
    List.filter_nil]

end Field

end EntityDto
