import EntityDto.Proofs.Conversion.Outcome
import EntityDto.Proofs.Entity.Printing

/-!
Which class is found in a source, and what becomes of the sources that have none: the search is told
by where class declarations stand in the text, and the error of a conversion by nothing else.
-/

namespace EntityDto

open Text

/-- The names of an entity are those of the leftmost declaration, with and without its suffix. -/
theorem Entity.names_iff {source className baseName : Text} :
    (ofSource? source).map (fun entity => (entity.className, entity.baseName))
        = some (className, baseName)
      ↔ DeclaresFirst className source
        ∧ (className = baseName ++ entitySuffix
          ∨ ¬ entitySuffix <:+ className ∧ className = baseName) := by
  -- A class name is one word, so the suffix is cut at its end and not before a line feed.
  have noFeed {name : Text} (declares : DeclaresFirst name source) : '\n' ∉ name :=
    (allWord_of_className?_eq_some (className?_eq_some_iff.mpr declares)).2.not_mem (by decide)
  simp only [ofSource?, Option.map_map, Option.map_eq_some_iff, Function.comp, Prod.mk.injEq,
    className?_eq_some_iff]
  constructor
  · rintro ⟨name, declares, rfl, isBase⟩
    exact ⟨declares, (withoutEntitySuffix_eq_iff (noFeed declares)).mp isBase⟩
  · rintro ⟨declares, isBase⟩
    exact ⟨className, declares, rfl, (withoutEntitySuffix_eq_iff (noFeed declares)).mpr isBase⟩

/-- A conversion that fails has nothing but its error to show. -/
theorem Conversion.eq_failed_iff {conversion : Conversion} {error : ConversionError} :
    conversion = .failed error ↔
      conversion.error? = some error ∧ conversion.request = [] ∧ conversion.response = []
        ∧ conversion.entity? = none := by
  cases conversion <;> simp [error?, request, response, entity?]

/-- There is only one error that a conversion can report. -/
theorem Conversion.isSome_error?_iff {conversion : Conversion} :
    conversion.error?.isSome = true ↔ conversion = .failed .classMissing := by
  -- There is one kind of outcome with an error, and one error that it may have.
  cases conversion with
  | blank => simp [error?]
  | failed error =>
    cases error
    simp [error?]
  | converted entity request response => simp [error?]

/-- The error of a conversion is reported exactly for sources that are not blank and have no class. -/
theorem convert_eq_failed_iff {source : Text} {options : Options} :
    (convert source options).value = .failed .classMissing ↔
      ¬ AllBlank source ∧ ¬ DeclaresClass source := by
  -- The three outcomes differ in whether the source is blank and declares a class.
  rcases convert_cases source options with
    ⟨blank, undeclared, outcome⟩ | ⟨notBlank, undeclared, outcome⟩
      | ⟨notBlank, declares, entity, -, outcome⟩ <;> rw [outcome]
  · simp [blank]
  · simp [notBlank, undeclared]
  · simp [declares, Entity.converted]

/--
Class detection is exact, over all sources.

There is no entity exactly where no class is declared: where nowhere an export word, blanks, a class
word, blanks and a word character stand in a row. Otherwise the class has the name of the leftmost
declaration, which is the whole word there, and the base name is that name without one entity suffix
at its end, if it has one. So a conversion fails exactly for the sources that are not blank and
declare no class, and then has no text and no entity.
-/
theorem class_detected_iff (source : Text) :
    (Entity.ofSource? source = none ↔ ¬ DeclaresClass source)
    ∧ (∀ className baseName,
      (Entity.ofSource? source).map (fun entity => (entity.className, entity.baseName))
          = some (className, baseName)
        ↔ DeclaresFirst className source
          ∧ (className = baseName ++ entitySuffix
            ∨ ¬ entitySuffix <:+ className ∧ className = baseName))
    ∧ ∀ options,
      ((convert source options).value.error?.isSome = true
        ↔ ¬ AllBlank source ∧ ¬ DeclaresClass source)
      ∧ (¬ AllBlank source ∧ ¬ DeclaresClass source
        ↔ (convert source options).value.error? = some .classMissing
          ∧ (convert source options).value.request = []
          ∧ (convert source options).value.response = []
          ∧ (convert source options).value.entity? = none) := by
  -- What converting says about a missing class is what reading says, unless the source is blank.
  refine ⟨?_, fun _ _ => Entity.names_iff, fun options => ⟨?_, ?_⟩⟩
  · rw [← Entity.isSome_ofSource?_iff, Bool.not_eq_true, Option.isSome_eq_false_iff,
      Option.isNone_iff_eq_none]
  · rw [Conversion.isSome_error?_iff, convert_eq_failed_iff]
  · rw [← convert_eq_failed_iff, Conversion.eq_failed_iff]

/-- Of two export words the one counts that a class word follows, and the suffix goes once. -/
example : (Entity.ofSource? "export export\n class EntityEntity\x7b".toList).map
      (fun entity => (entity.className, entity.baseName))
    = some ("EntityEntity".toList, "Entity".toList) := by
  decide +kernel

end EntityDto
