import EntityDto.Proofs.Entity.SearchText
import EntityDto.Proofs.Field.Attributes
import EntityDto.Proofs.Token.Extent
import EntityDto.Proofs.Token.Spelling

/-!
Why a field is optional: its mark, its column block or one of its decorators says so, each by itself.
No attribute runs from one of these texts into the next one.
-/

namespace EntityDto

open Text

/-- Somewhere in the text stand a nullable word, a colon and a true word, with blanks between or none. -/
def SpellsNullable (text : Text) : Prop :=
  ∃ blanks gap, AllBlank blanks ∧ AllBlank gap
    ∧ "nullable".toList ++ (blanks ++ ':' :: (gap ++ "true".toList)) <:+: text

/-- The optional attribute is found in the texts that spell it. -/
theorem holdsSomewhere_nullableHere_iff {text : Text} :
    holdsSomewhere Attribute.nullableHere text = true ↔ SpellsNullable text := by
  simp only [holdsSomewhere_iff, Attribute.nullableHere_iff, SpellsNullable]
  -- What stands before the place of the search is the front of the spelling.
  constructor
  · rintro ⟨front, _, rfl, blanks, gap, rest, blank, gapBlank, rfl⟩
    exact ⟨blanks, gap, blank, gapBlank, front, rest, by simp⟩
  · rintro ⟨blanks, gap, blank, gapBlank, front, rest, rfl⟩
    exact ⟨front, _, List.append_assoc .., blanks, gap, rest, blank, gapBlank, by simp⟩

instance (text : Text) : Decidable (SpellsNullable text) :=
  decidable_of_iff _ holdsSomewhere_nullableHere_iff

/-- What waits behind the tokens of some lines are trimmed lines that bear the sign of a decorator. -/
theorem exists_line_of_waits {number : Nat} {lines : List Text} {before : List Token}
    (listed : before ⊆ Token.ofLinesFrom number lines) :
    ∀ text ∈ (before.foldl Pending.step .none).decorators,
      ∃ line ∈ lines, text = trim line ∧ text.startsWith ['@'] = true := by
  intro text waits
  -- Nothing waits but the texts of tokens.
  have taken := fieldsFrom_decorators .none before
  have isText : text ∈ (before.filter Token.waits).map Token.text := by
    rw [Pending.none, List.nil_append] at taken
    rw [← taken]
    exact List.mem_append_right _ waits
  obtain ⟨token, held, rfl⟩ := List.mem_map.mp isText
  obtain ⟨inFront, waiting⟩ := List.mem_filter.mp held
  obtain ⟨index, line, isLine, -, stands⟩ := Token.exists_standsAt (listed inFront)
  exact ⟨line, List.mem_of_getElem? isLine, stands.text, stands.text ▸ stands.signed waiting⟩

/-- The optional attribute is spelled among what waits exactly when one text spells it by itself. -/
theorem spellsNullable_searchText_iff {pending : Pending}
    (signed : ∀ line ∈ pending.decorators, line.startsWith ['@'] = true) :
    SpellsNullable pending.searchText ↔
      (∃ block, pending.columnMeta = some block ∧ SpellsNullable block)
        ∨ ∃ line ∈ pending.decorators, SpellsNullable line := by
  -- Without a block there is an empty text in its place, which spells nothing.
  have inBlock : holdsSomewhere Attribute.nullableHere (pending.columnMeta.getD []) = true ↔
      ∃ block, pending.columnMeta = some block ∧ SpellsNullable block := by
    cases pending.columnMeta with
    | none => simp [show holdsSomewhere Attribute.nullableHere [] = false from rfl]
    | some block => simp [holdsSomewhere_nullableHere_iff]
  rw [← holdsSomewhere_nullableHere_iff, holdsSomewhere_nullableHere_searchText signed,
    Bool.or_eq_true, inBlock, List.any_eq_true]
  simp only [holdsSomewhere_nullableHere_iff]

namespace Entity

/--
Every field is optional for reasons that stand in one text each.

Its declaration carries the question mark, or its column block alone spells the attribute, or one of
its decorators alone does. The attribute is spelled in all these texts joined exactly when one of
them spells it.
-/
theorem optional_iff {source : Text} {entity : Entity} (found : ofSource? source = some entity)
    {index : Nat} {field : Field} (listed : entity.fields[index]? = some field) :
    ∃ property line, ∃ spelling : Declaration.Spelling,
      (declaring source)[index]? = some property
      ∧ (sourceLines source)[property.lineNumber - 1]? = some line ∧ trim line = spelling.text
      ∧ field.name = spelling.name ∧ field.type = trim spelling.written
      ∧ (field.optional = true ↔ spelling.mark = .optional
        ∨ (∃ block, field.columnMeta = some block ∧ SpellsNullable block)
        ∨ ∃ decorator ∈ field.decorators, SpellsNullable decorator)
      ∧ (SpellsNullable (Pending.searchText ⟨field.decorators, field.columnMeta⟩) ↔
        (∃ block, field.columnMeta = some block ∧ SpellsNullable block)
          ∨ ∃ decorator ∈ field.decorators, SpellsNullable decorator) := by
  simp only [ofSource?, Option.map_eq_some_iff] at found
  obtain ⟨className, -, rfl⟩ := found
  obtain ⟨before, property, after, declaration, split, declares, rfl, rfl⟩ :=
    exists_of_getElem?_fieldsFrom listed
  have isListed : before ⊆ tokens source := by
    rw [split]
    exact List.subset_append_left _ _
  have member : property ∈ tokens source := by
    rw [split]
    exact List.mem_append_right _ List.mem_cons_self
  -- The property stands at a line, which spells its declaration.
  obtain ⟨place, line, atPlace, numbered, -⟩ := Token.exists_standsAt member
  have isLine : (sourceLines source)[property.lineNumber - 1]? = some line := by
    rwa [numbered, Nat.add_sub_cancel_left]
  have isRead := (Token.declaration?_of_mem member isLine).2.symm.trans declares
  obtain ⟨spelling, isSpelled, rfl⟩ := Declaration.read?_eq_some_iff.mp isRead
  have signed : ∀ text ∈ (before.foldl Pending.step .none).decorators,
      text.startsWith ['@'] = true := by
    intro text waits
    obtain ⟨-, -, -, isSigned⟩ := exists_line_of_waits isListed text waits
    exact isSigned
  have apart := spellsNullable_searchText_iff signed
  refine ⟨property, line, spelling, declaring_getElem? split (by simp [Token.declares, declares]),
    isLine, isSpelled, rfl, rfl, ?_, apart⟩
  have optional : ((before.foldl Pending.step .none).field spelling.declaration).optional = true ↔
      spelling.mark = .optional ∨ SpellsNullable (before.foldl Pending.step .none).searchText := by
    simp [Pending.field, Declaration.Spelling.declaration, holdsSomewhere_nullableHere_iff]
  rw [optional, apart]
  rfl

/-- A class whose block spells the attribute over two lines, above a decorator that leaves it off. -/
def wrappedSource : Text :=
  "export class A \x7b\n  @Column(\x7b nullable:\n  true \x7d)\n  @Check(nullable:\n  x!: T;\n\x7d".toList

/-- The field of that class, whose decorators end where the attribute would go on. -/
def wrappedField : Field where
  name := "x".toList
  type := "T".toList
  optional := true
  decorators := ["@Column(\x7b nullable:".toList, "@Check(nullable:".toList]
  columnMeta := some "  @Column(\x7b nullable:\n  true \x7d)".toList

/-- The field is optional for its block alone, and not for its mark or for a decorator. -/
theorem optional_iff_wrapped :
    ofSource? wrappedSource = some ⟨"A".toList, "A".toList, [wrappedField]⟩
    ∧ (∀ decorator ∈ wrappedField.decorators, ¬ SpellsNullable decorator)
    ∧ ∃ property line, ∃ spelling : Declaration.Spelling,
      (declaring wrappedSource)[0]? = some property
      ∧ (sourceLines wrappedSource)[property.lineNumber - 1]? = some line
      ∧ trim line = spelling.text
      ∧ (wrappedField.optional = true ↔ spelling.mark = .optional
        ∨ (∃ block, wrappedField.columnMeta = some block ∧ SpellsNullable block)
        ∨ ∃ decorator ∈ wrappedField.decorators, SpellsNullable decorator) := by
  have found : ofSource? wrappedSource
      = some ⟨"A".toList, "A".toList, [wrappedField]⟩ := by decide +kernel
  -- The attribute stands in the block alone, whose first line is all that the decorators hold.
  obtain ⟨property, line, spelling, isFirst, isLine, isSpelled, -, -, optional, -⟩ :=
    optional_iff found (show [wrappedField][0]? = some wrappedField from rfl)
  exact ⟨found, by decide +kernel, property, line, spelling, isFirst, isLine, isSpelled, optional⟩

end Entity

end EntityDto
