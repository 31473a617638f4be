import EntityDto.Field.Traits
import EntityDto.Proofs.Token.Extent

/-!
How far above a field its decorators may stand: lines that neither decorate nor declare anything are
skipped without a trace, so decorators wait across them.
-/

namespace EntityDto

open Text

/--
The token stands above the property, and so does every line between them that is not crossed.

A line between them either belongs to a token that waits along with this one or may be crossed.
-/
structure StandsAbove (crossed : Text → Prop) (lines : List Text) (waiting : List Token)
    (property token : Token) : Prop where
  decorates : ∃ line, lines[token.lineNumber - 1]? = some line ∧ token.text = trim line
    ∧ (trim line).startsWith ['@'] = true
  above : token.lineNumber < property.lineNumber
  between : ∀ number line, token.lineNumber < number → number < property.lineNumber →
    lines[number - 1]? = some line → (∃ other ∈ waiting, other.Covers number) ∨ crossed line

/-- What waits stands above the property it waits for, with no property between them. -/
theorem StandsAbove.of_mem {source : Text} {before between after : List Token}
    {property token : Token}
    (split : Entity.tokens source = before ++ (between ++ property :: after))
    (silent : ∀ token ∈ between, token.declaration? = none) (member : token ∈ between)
    (waiting : token.waits = true) :
    StandsAbove IsSkipped (sourceLines source) (between.filter Token.waits) property token := by
  have isListed : ∀ token ∈ between, token ∈ Token.ofLinesFrom 1 (sourceLines source) := by
    intro token member
    have held : token ∈ Entity.tokens source := by
      rw [split]
      exact List.mem_append_right _ (List.mem_append_left _ member)
    exact held
  -- The tokens between stand for the lines from some line on to right before the property.
  have tile := Entity.tile_tokens source
  rw [split] at tile
  obtain ⟨first, -, lower⟩ := tile.of_append
  obtain ⟨last, inner, isLast, -⟩ := lower.of_append
  have bounds := inner.bounds.2 token member
  obtain ⟨place, line, atPlace, numbered, stands⟩ := Token.exists_standsAt (isListed token member)
  refine ⟨⟨line, ?_, stands.text, stands.signed waiting⟩, by omega, ?_⟩
  · rwa [numbered, Nat.add_sub_cancel_left]
  · intro number other low high atNumber
    have fromFirst : first ≤ number := by omega
    obtain ⟨holder, held, covers⟩ := inner.exists_covers fromFirst (by omega)
    by_cases alsoWaits : holder.waits = true
    · exact .inl ⟨holder, List.mem_filter.mpr ⟨held, alsoWaits⟩, covers⟩
    · -- A token that neither waits nor declares is one line that is skipped.
      obtain ⟨place, line, atPlace, numbered, stands⟩ :=
        Token.exists_standsAt (isListed holder held)
      obtain ⟨skipped, one⟩ := stands.skipped (by simpa using alsoWaits) (silent holder held)
      have sameNumber : number = 1 + place := by
        have fits := covers.2
        have starts := covers.1
        omega
      rw [sameNumber, Nat.add_sub_cancel_left, atPlace] at atNumber
      cases Option.some.inj atNumber
      exact .inr skipped

namespace Entity

/--
Every decorator of a field is a line above its declaration, and only skipped lines come between.

Between the two stand the other decorators and column blocks of the same field, blank lines, and
lines that are not recognised as decorators or declarations, but never a property of another field.
-/
theorem decorators_standAbove {source : Text} {entity : Entity}
    (found : ofSource? source = some entity) {index : Nat} {field : Field}
    (listed : entity.fields[index]? = some field) :
    ∃ property declaration waiting, (declaring source)[index]? = some property
      ∧ property.declaration? = some declaration
      ∧ field.name = declaration.name ∧ field.type = declaration.type
      ∧ waiting.Sublist ((tokens source).filter Token.waits)
      ∧ field.decorators = waiting.map Token.text
      ∧ ∀ token ∈ waiting,
        StandsAbove IsSkipped (sourceLines source) waiting property token := by
  simp only [ofSource?, Option.map_eq_some_iff] at found
  obtain ⟨className, -, rfl⟩ := found
  obtain ⟨before, property, after, declaration, split, declares, rfl, rfl⟩ :=
    exists_of_getElem?_fieldsFrom listed
  -- Only the tokens since the property before this one still wait, and none of them declares.
  obtain ⟨between, sinceLast, silent⟩ := exists_eq_throughLastProperty_append before
  have waits : before.foldl Pending.step .none = between.foldl Pending.step .none := by
    conv_lhs => rw [sinceLast]
    rw [List.foldl_append, foldl_step_eq_none (declares_getLast?_throughLastProperty before)]
  have whole : tokens source = throughLastProperty before ++ (between ++ property :: after) := by
    rw [← List.append_assoc, ← sinceLast]
    exact split
  refine ⟨property, declaration, between.filter Token.waits,
    declaring_getElem? split (by simp [Token.declares, declares]), declares, rfl, rfl, ?_, ?_, ?_⟩
  · rw [whole]
    exact (List.sublist_append_of_sublist_right (List.sublist_append_left _ _)).filter _
  · rw [waits, foldl_step silent]
    rfl
  · intro token member
    obtain ⟨inBetween, waiting⟩ := List.mem_filter.mp member
    exact .of_mem whole silent inBetween waiting

/-- A class in which a declaration without a semicolon stands below a decorator. -/
def strayDecoratorSource : Text :=
  "export class A \x7b\n  @ManyToOne(() => B)\n  owner: B\n  name: string;\n\x7d".toList

/-- The only field of that class. -/
def strayDecoratorField : Field where
  name := "name".toList
  type := "string".toList
  optional := false
  decorators := ["@ManyToOne(() => B)".toList]
  columnMeta := none

/-- The field is read with the decorator above it, which it reaches across a skipped line. -/
theorem decorators_standAbove_stray :
    ofSource? strayDecoratorSource = some ⟨"A".toList, "A".toList, [strayDecoratorField]⟩
    ∧ ∃ property waiting, (declaring strayDecoratorSource)[0]? = some property
      ∧ strayDecoratorField.decorators = waiting.map Token.text
      ∧ ∀ token ∈ waiting,
        StandsAbove IsSkipped (sourceLines strayDecoratorSource) waiting property token := by
  -- The decorator belongs to no line that is read, and passes to the next property.
  have found : ofSource? strayDecoratorSource
      = some ⟨"A".toList, "A".toList, [strayDecoratorField]⟩ := by decide +kernel
  obtain ⟨property, -, waiting, isFirst, -, -, -, -, texts, stand⟩ :=
    decorators_standAbove found (show [strayDecoratorField][0]? = some strayDecoratorField from rfl)
  exact ⟨found, property, waiting, isFirst, texts, stand⟩

/-- Decorators do cross lines that are not blank, and then turn another field into a relation. -/
theorem exists_decorator_crosses :
    ∃ entity, ofSource? strayDecoratorSource = some entity
      ∧ ∃ field property token, entity.fields[0]? = some field
        ∧ (declaring strayDecoratorSource)[0]? = some property
        ∧ (tokens strayDecoratorSource).filter Token.waits = [token]
        ∧ field.decorators = [token.text] ∧ field.isRelation = true
        ∧ ¬ StandsAbove AllBlank (sourceLines strayDecoratorSource) [token] property token := by
  refine ⟨⟨"A".toList, "A".toList, [strayDecoratorField]⟩, by decide +kernel,
    strayDecoratorField,
    ⟨.property ⟨"name".toList, false, "string".toList⟩, 4, "name: string;".toList⟩,
    ⟨.decorator, 2, "@ManyToOne(() => B)".toList⟩, rfl, by decide +kernel, by decide +kernel, rfl,
    by decide +kernel, ?_⟩
  intro stands
  -- The declaration in the third line is neither blank nor part of the decorator above it.
  rcases stands.between 3 "  owner: B".toList (by decide) (by decide) (by decide +kernel) with
    ⟨holder, held, covers⟩ | blank
  · rw [List.mem_singleton] at held
    subst held
    exact absurd covers (by decide)
  · exact absurd blank (by decide)

end Entity

end EntityDto
