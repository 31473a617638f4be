import EntityDto.Proofs.Conversion.ImportOrder
import EntityDto.Proofs.Entity.Printing

/-! Import lines above a generated class, written or carried over, have no part in reading it. -/

namespace EntityDto

open Text

/-- An import is cut at the quotes around its source. -/
theorem importLine_eq (names source : Text) :
    importLine names source =
      ("import \x7b ".toList ++ names ++ " \x7d from ".toList)
        ++ '\'' :: (source ++ '\'' :: [';']) := by
  -- The opening quote ends one piece and the closing quote starts another.
  unfold importLine
  rw [List.append_assoc _ source, List.append_assoc, List.append_assoc _ " \x7d from ".toList]
  rfl

/-- An import from a path on one line stays on one line. -/
theorem importLine_noFeed {names source : Text} (namesNoFeed : '\n' ∉ names)
    (sourceNoFeed : '\n' ∉ source) : '\n' ∉ importLine names source := by
  unfold importLine
  simp only [List.mem_append, not_or]
  exact ⟨⟨⟨⟨by decide, namesNoFeed⟩, by decide⟩, sourceNoFeed⟩, by decide⟩

/-- An import is passed over when neither its names nor its source could declare a class. -/
theorem isPassed_importLine {names source : Text} (namesNoFeed : '\n' ∉ names)
    (namesNoClass : 'c' ∉ names) (sourceNoFeed : '\n' ∉ source)
    (sourceNoClass : ¬ ExportsClass source) : IsPassed (importLine names source) := by
  have noFeed := importLine_noFeed namesNoFeed sourceNoFeed
  rw [importLine_eq] at noFeed ⊢
  -- Everything behind the import word, which no colon follows.
  have solid : EndsSolid ("\x7b ".toList ++ names ++ " \x7d from ".toList
      ++ '\'' :: (source ++ '\'' :: [';'])) := by
    have ends : EndsSolid ('\'' :: (source ++ '\'' :: [';'])) :=
      EndsSolid.append (by decide : EndsSolid ('\'' :: [';'])) (by simp) ('\'' :: source)
    exact ends.append (by simp) _
  constructor
  · exact .of_endsSolid noFeed (solid.append (by simp) "import ".toList)
  · exact isSkipped_of_word (by decide : Declaration.IsName "import".toList) (by decide) (by simp)
      (startsSolid_cons (by decide) _) solid
      (fun isColon => absurd (Option.some.inj isColon) (by decide))
  · -- No quote stands in a class declaration, so one would have to be between two of them.
    intro exported
    rcases exported.of_append_cons (by decide) (by decide) (by decide) with inFront | behind
    · have spelled := inFront.mem
      simp only [List.mem_append, namesNoClass, or_false] at spelled
      exact absurd spelled (by decide)
    · rcases behind.of_append_cons (by decide) (by decide) (by decide) with inSource | inEnd
      · exact sourceNoClass inSource
      · exact absurd inEnd (by decide)
  · rfl

/-- A blank line is passed over. -/
theorem isPassed_blankLine : IsPassed blankLine where
  isLine := by decide
  isSkipped := isSkipped_of_head? fun char isHead => by cases isHead
  noClass := by decide
  opensNoClass := rfl

/-- A line that is carried over without declaring anything is passed over. -/
theorem isPassed_of_mem_enumImports {source line : Text} {fields : List Field}
    (carried : line ∈ enumImports source fields) (noClass : ¬ ExportsClass line)
    (silent : ∀ token ∈ Token.ofLines [line], token.declaration? = none) : IsPassed line := by
  obtain ⟨listed, ⟨behind, trimmed⟩, -⟩ := mem_enumImports_iff.mp carried
  -- The line starts with the import word, so neither with a sign nor with a class word.
  have plain : (trim line).startsWith ['@'] = false := by
    rw [← trimmed]
    rfl
  have opensNoClass : OpensNoClass line := by
    obtain ⟨back, split⟩ := trim_prefix_trimStart line
    rw [← trimmed] at split
    rw [OpensNoClass, ← split]
    rfl
  exact ⟨isLine_of_mem_brokenLines listed, isSkipped_of_ofLines plain silent, noClass, opensNoClass⟩

end EntityDto
