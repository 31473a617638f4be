import EntityDto.Conversion
import EntityDto.Proofs.Entity.ClassSearch

/-!
What a source converts to: nothing where it is blank, an error where it is not and declares no class,
and the texts of its entity where it does.
-/

namespace EntityDto

open Text

/-- A text is blank to the conversion if all its characters are. -/
theorem isBlankText_iff {source : Text} : isBlankText source = true ↔ AllBlank source := by
  rw [isBlankText, List.isEmpty_iff, trim_eq_nil_iff]

/-- A blank text declares no class. -/
theorem not_declaresClass_of_allBlank {source : Text} (blank : AllBlank source) :
    ¬ DeclaresClass source := by
  rintro ⟨above, blanks, gap, char, rest, -, -, -, -, -, rfl⟩
  -- A declaration would spell its first word, whose letters are not blank.
  have letter : isBlank 'e' = true := blank 'e' (by simp)
  exact absurd letter (by decide)

/-- So the class search finds nothing in a blank text. -/
theorem className?_eq_none_of_allBlank {source : Text} (blank : AllBlank source) :
    className? source = none := by
  rw [← Option.not_isSome_iff_eq_none, isSome_className?_iff]
  exact not_declaresClass_of_allBlank blank

/-- An entity is read exactly from the sources that declare a class. -/
theorem Entity.isSome_ofSource?_iff {source : Text} :
    (ofSource? source).isSome = true ↔ DeclaresClass source := by
  rw [ofSource?, Option.isSome_map, isSome_className?_iff]

/-- None is read from the others. -/
theorem Entity.ofSource?_eq_none_iff {source : Text} :
    ofSource? source = none ↔ ¬ DeclaresClass source := by
  rw [← Option.not_isSome_iff_eq_none, isSome_ofSource?_iff]

/-- Reading a source with its reports finds the same entity. -/
theorem Entity.read_value (source : Text) : (read source).value = ofSource? source := by
  unfold read
  cases ofSource? source <;> rfl

/-- The outcome of a conversion, by whether the source is blank and what is read from it. -/
theorem convert_value (source : Text) (options : Options) :
    (convert source options).value
      = if isBlankText source then .blank
        else
          match Entity.ofSource? source with
          | none => .failed .classMissing
          | some entity => entity.converted source options := by
  unfold convert
  -- A blank source is told apart before it is read.
  split
  · rfl
  · simp only [Entity.read_value]
    cases Entity.ofSource? source <;> rfl

/-- A source with an entity is not blank. -/
theorem isBlankText_of_ofSource? {source : Text} {entity : Entity}
    (found : Entity.ofSource? source = some entity) : isBlankText source = false := by
  rw [← Bool.not_eq_true, isBlankText_iff]
  intro blank
  -- A blank source declares no class, so no entity is read from it.
  refine not_declaresClass_of_allBlank blank (Entity.isSome_ofSource?_iff.mp ?_)
  rw [found]
  rfl

/-- A source with an entity is converted to both of its texts. -/
theorem convert_of_ofSource? {source : Text} {entity : Entity}
    (found : Entity.ofSource? source = some entity) (options : Options) :
    (convert source options).value = entity.converted source options := by
  simp only [convert_value, isBlankText_of_ofSource? found, Bool.false_eq_true, if_false, found]

/-- A source converts to the entity that is read from it, blank sources included. -/
theorem entity?_convert (source : Text) (options : Options) :
    (convert source options).value.entity? = Entity.ofSource? source := by
  cases found : Entity.ofSource? source with
  | some entity =>
    rw [convert_of_ofSource? found]
    rfl
  | none =>
    -- Neither of the two ways to fail holds an entity.
    simp only [convert_value, found]
    split <;> rfl

/-- The outcomes of a conversion are three, told apart by the source alone. -/
theorem convert_cases (source : Text) (options : Options) :
    AllBlank source ∧ ¬ DeclaresClass source ∧ (convert source options).value = .blank
    ∨ ¬ AllBlank source ∧ ¬ DeclaresClass source
      ∧ (convert source options).value = .failed .classMissing
    ∨ ¬ AllBlank source ∧ DeclaresClass source ∧ ∃ entity, Entity.ofSource? source = some entity
      ∧ (convert source options).value = entity.converted source options := by
  -- Whether an entity is found decides between success and the rest, and blanks decide the rest.
  cases found : Entity.ofSource? source with
  | some entity =>
    have declares : DeclaresClass source := Entity.isSome_ofSource?_iff.mp (by rw [found]; rfl)
    have notBlank : ¬ AllBlank source := fun blank => not_declaresClass_of_allBlank blank declares
    exact .inr (.inr ⟨notBlank, declares, entity, rfl, convert_of_ofSource? found options⟩)
  | none =>
    have undeclared := Entity.ofSource?_eq_none_iff.mp found
    by_cases blank : AllBlank source
    · refine .inl ⟨blank, undeclared, ?_⟩
      rw [convert_value, if_pos (isBlankText_iff.mpr blank)]
    · refine .inr (.inl ⟨blank, undeclared, ?_⟩)
      rw [convert_value, if_neg (mt isBlankText_iff.mp blank), found]

end EntityDto
