import EntityDto.Proofs.Conversion.Body
import EntityDto.Proofs.Conversion.ClassDetection
import EntityDto.Proofs.Entity.Optionality

/-!
The shape of every entity that is read: what its names and its fields are made of, however the
source is written. Generated files are named by it, and their classes are built from it by lines.
-/

namespace EntityDto

open Text

/-- A trimmed line that bears the sign of a decorator. -/
structure IsDecoratorText (text : Text) : Prop where
  trimmed : trim text = text
  signed : ['@'] <+: text
  noFeed : '\n' ∉ text

/-- The first line of a text, up to the line feed that ends it. -/
def firstLine (text : Text) : Text :=
  text.takeWhile (· ≠ '\n')

/-- A block begins with the line of a column decorator that is one of the decorators. -/
structure IsBlockOf (decorators : List Text) (block : Text) : Prop where
  opens : "@Column(".toList <+: trim (firstLine block)
  holdsObject : '\x7b' ∈ trim (firstLine block)
  listed : trim (firstLine block) ∈ decorators

/-- A field that can be declared again, with decorators and a block that belong together. -/
structure Field.Shaped (field : Field) : Prop extends field.WellFormed where
  decorators : ∀ text ∈ field.decorators, IsDecoratorText text
  block : ∀ block ∈ field.columnMeta, IsBlockOf field.decorators block

/-- An entity whose names differ by the entity suffix at most, made of shaped fields. -/
structure Entity.Shaped (entity : Entity) : Prop where
  nonempty : entity.className ≠ []
  word : AllWord entity.className
  names : entity.className = entity.baseName ++ entitySuffix
    ∨ ¬ entitySuffix <:+ entity.className ∧ entity.className = entity.baseName
  fields : ∀ field ∈ entity.fields, field.Shaped

/-- The first of some lines is the first line of the text they make up. -/
theorem firstLine_joinLines {line : Text} (noFeed : '\n' ∉ line) (rest : List Text) :
    firstLine (joinLines (line :: rest)) = line := by
  have inside : ∀ char ∈ line, decide (char ≠ '\n') = true := fun char held =>
    decide_eq_true fun same => noFeed (same ▸ held)
  -- The first line ends with the text or at the first line feed between lines.
  by_cases alone : rest = []
  · rw [alone]
    exact List.takeWhile_eq_self_iff.mpr inside
  · rw [joinLines_cons line alone]
    exact takeWhile_append_of_stop inside (by simp)

/-- More decorators do not part a block from its own. -/
theorem IsBlockOf.mono {decorators others : List Text} {block : Text}
    (isBlock : IsBlockOf decorators block) (more : decorators ⊆ others) : IsBlockOf others block :=
  { isBlock with listed := more isBlock.listed }

/-- A column block begins with the line that opens it. -/
theorem isBlockOf_joinLines {line : Text} (noFeed : '\n' ∉ line)
    (opens : Token.opensColumnBlock (trim line) = true) (rest : List Text) :
    IsBlockOf [trim line] (joinLines (line :: rest)) := by
  simp only [Token.opensColumnBlock, Bool.and_eq_true, startsWith_iff] at opens
  obtain ⟨⟨behind, starts⟩, holds⟩ := opens
  -- All three parts look at the first line, which is the line that opens the block.
  have first := firstLine_joinLines noFeed rest
  constructor
  · rw [first]
    exact ⟨behind, starts.symm⟩
  · rw [first]
    exact List.elem_iff.mp holds
  · rw [first]
    exact List.mem_singleton_self _

/-- The block of a token is one of the token's own line. -/
theorem Token.isBlockOf_of_mem_tokens {source : Text} {token : Token}
    (member : token ∈ Entity.tokens source) :
    ∀ block ∈ token.block?, IsBlockOf [token.text] block := by
  intro block isBlock
  obtain ⟨above, run, below, split, -, made⟩ := exists_run_of_mem member
  have noFeed : ∀ line ∈ run, '\n' ∉ line := by
    intro line held
    have isLine : line ∈ sourceLines source := by
      rw [split]
      exact List.mem_append_right _ (List.mem_append_left _ held)
    exact feed_not_mem_of_mem_sourceLines isLine
  -- Whether or not the block closes, its text begins with the line that opens it.
  cases made with
  | single =>
    rw [block?_singleKind] at isBlock
    cases isBlock
  | @closed line rest number opens closes =>
    cases isBlock
    exact isBlockOf_joinLines (noFeed line List.mem_cons_self) opens rest
  | @unclosed line number opens isOpen =>
    cases isBlock
    exact isBlockOf_joinLines (noFeed line List.mem_cons_self) opens below

namespace Pending

/-- The block that waits, if there is one, is one of the decorators that wait. -/
def OwnsBlock (pending : Pending) : Prop :=
  ∀ block ∈ pending.columnMeta, IsBlockOf pending.decorators block

/-- Where nothing waits, there is no block. -/
theorem ownsBlock_none : none.OwnsBlock :=
  fun _ isBlock => nomatch isBlock

/-- A further token adds its block together with the line that opens it. -/
theorem OwnsBlock.step {pending : Pending} (owns : pending.OwnsBlock) {token : Token}
    (tokenOwns : ∀ block ∈ token.block?, IsBlockOf [token.text] block) :
    (pending.step token).OwnsBlock := by
  cases declares : token.declaration? with
  | some declaration =>
    -- The property takes all that waits.
    rw [step_of_declaration? declares]
    exact ownsBlock_none
  | none =>
    rw [step_of_declaration?_eq_none declares]
    intro block isBlock
    cases own : token.block? with
    | none =>
      -- The block that waited keeps its line among the decorators.
      rw [own, Option.none_or] at isBlock
      exact (owns block isBlock).mono (List.subset_append_left _ _)
    | some other =>
      -- The new block takes its place, and its own line is the last decorator.
      rw [own, Option.some_or] at isBlock
      cases isBlock
      rw [if_pos (Token.waits_of_block? own)]
      exact (tokenOwns block own).mono (List.subset_append_right _ _)

/-- So a block never waits without its line, whatever tokens came before. -/
theorem OwnsBlock.foldl_step {pending : Pending} (owns : pending.OwnsBlock) {tokens : List Token}
    (tokensOwn : ∀ token ∈ tokens, ∀ block ∈ token.block?, IsBlockOf [token.text] block) :
    (tokens.foldl Pending.step pending).OwnsBlock := by
  -- Each token hands on decorators that own the block that waits with them.
  induction tokens generalizing pending with
  | nil => exact owns
  | cons token tokens ih =>
    have next := owns.step (tokensOwn token List.mem_cons_self)
    exact ih next fun other member => tokensOwn other (List.mem_cons_of_mem _ member)

end Pending

namespace Entity

variable {source : Text} {entity : Entity}

/-- Every field that is read is shaped. -/
theorem shaped_of_mem_fields (found : ofSource? source = some entity) {field : Field}
    (member : field ∈ entity.fields) : field.Shaped := by
  have wellFormed := wellFormed_of_ofSource? found field member
  simp only [ofSource?, Option.map_eq_some_iff] at found
  obtain ⟨className, -, rfl⟩ := found
  -- The field takes what waits behind the tokens before its property.
  obtain ⟨index, listed⟩ := List.mem_iff_getElem?.mp member
  obtain ⟨before, property, after, declaration, split, -, -, rfl⟩ :=
    exists_of_getElem?_fieldsFrom listed
  have inFront : before ⊆ tokens source := by
    rw [split]
    exact List.subset_append_left _ _
  refine { wellFormed with decorators := fun text waits => ?_, block := ?_ }
  · obtain ⟨line, isLine, rfl, signed⟩ := exists_line_of_waits inFront text waits
    obtain ⟨behind, starts⟩ := startsWith_iff.mp signed
    exact ⟨trim_trim line, ⟨behind, starts.symm⟩, fun held =>
      feed_not_mem_of_mem_sourceLines isLine (mem_of_mem_trim held)⟩
  · exact Pending.ownsBlock_none.foldl_step fun token held =>
      Token.isBlockOf_of_mem_tokens (inFront held)

/--
Every entity that is read has the shape that everything generated from it rests on.

Its class name is a word, and its base name is that word up to the entity suffix. Each field has a
name and a type that can be declared again. Its decorators are trimmed lines that bear the sign of
one, and a column block begins with a line that is one of them. So each line that a field has in
either class is one line, whatever the options are.
-/
theorem shaped_of_ofSource? (found : ofSource? source = some entity) :
    entity.Shaped
    ∧ ∀ field ∈ entity.fields,
      (∀ options, ∀ line ∈ field.requestLines options, '\n' ∉ line)
      ∧ ∀ line ∈ field.responseLines, '\n' ∉ line := by
  -- The names come from the class search, and the shape of each field from the tokens.
  have isNamed : (ofSource? source).map (fun entity => (entity.className, entity.baseName))
      = some (entity.className, entity.baseName) := by
    rw [found]
    rfl
  obtain ⟨declares, names⟩ := names_iff.mp isNamed
  obtain ⟨nonempty, word⟩ := allWord_of_className?_eq_some (className?_eq_some_iff.mpr declares)
  have shaped {field : Field} (member : field ∈ entity.fields) : field.Shaped :=
    shaped_of_mem_fields found member
  refine ⟨⟨nonempty, word, names, fun field => shaped⟩, fun field member => ⟨fun options => ?_, ?_⟩⟩
  · exact (shaped member).toWellFormed.requestLines_noFeed options
  · exact (shaped member).toWellFormed.responseLines_noFeed

/-- A class with odd blanks around a decorator, above two blocks that never close. -/
def openBlockSource : Text :=
  "export class UserEntity \x7b\n\u00a0@Index()\u2003\r\n  @Column( \x7b\n@Column(\x7b\t\n  kind?:  Kind ;\n".toList

/-- The entity of that class. -/
def openBlockEntity : Entity where
  className := "UserEntity".toList
  baseName := "User".toList
  fields :=
    [⟨"kind".toList, "Kind".toList, true,
      ["@Index()".toList, "@Column( \x7b".toList, "@Column(\x7b".toList],
      some "@Column(\x7b\t\n  kind?:  Kind ;\n".toList⟩]

/-- The field of that class takes all three decorators and the later block, and has single lines. -/
theorem shaped_of_ofSource?_openBlock :
    ofSource? openBlockSource = some openBlockEntity ∧ openBlockEntity.Shaped
    ∧ ∀ field ∈ openBlockEntity.fields, ∀ line ∈ field.responseLines, '\n' ∉ line := by
  have found : ofSource? openBlockSource = some openBlockEntity := by decide +kernel
  obtain ⟨shaped, lines⟩ := shaped_of_ofSource? found
  exact ⟨found, shaped, fun field member => (lines field member).2⟩

end Entity

end EntityDto
