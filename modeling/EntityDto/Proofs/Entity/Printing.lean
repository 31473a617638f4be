import EntityDto.Proofs.Entity.ClassSearch
import EntityDto.Proofs.Entity.SearchText
import EntityDto.Proofs.Token.Lines

/-! Entity sources as they can be written, and the entity that each of them is read as. -/

namespace EntityDto

open Text

/-- A column block as it can be written: one that closes with its last line and not before. -/
structure BlockSource where
  first : Text
  others : List Text
  opens : Token.opensColumnBlock (trim first) = true
  staysOpen : ∀ count, 0 < count → count ≤ others.length →
    0 < linesBalance ((first :: others).take count)
  closes : linesBalance (first :: others) = 0
  areLines : ∀ line ∈ first :: others, IsLine line

namespace BlockSource

/-- The lines of the block. -/
def lines (block : BlockSource) : List Text :=
  block.first :: block.others

/-- The running balance first closes at the last line. -/
theorem closingIndex?_lines (block : BlockSource) :
    closingIndex? 0 block.lines = some block.others.length := by
  rw [closingIndex?_eq_some_iff]
  refine ⟨by simp [lines], ?_, ?_⟩
  · -- All lines together balance.
    have whole : block.lines.take (block.others.length + 1) = block.lines :=
      List.take_of_length_le (by simp [lines])
    have balanced : linesBalance block.lines = 0 := block.closes
    rw [whole]
    omega
  · -- And before the last line the balance is above zero.
    intro earlier before
    have positive := block.staysOpen (earlier + 1) (by omega) (by omega)
    rw [lines]
    omega

end BlockSource

/-- A field as it can be written: decorators, a column block, and the line that declares it. -/
structure FieldSource where
  decorators : List Text
  block : Option BlockSource
  indent : Text
  spelling : Declaration.Spelling
  areDecorators : ∀ line ∈ decorators, IsDecorator line ∧ IsLine line
  indentBlank : AllBlank indent
  isLine : IsLine (indent ++ spelling.text)

namespace FieldSource

/-- The lines of the block, if there is one. -/
def blockLines (source : FieldSource) : List Text :=
  match source.block with
  | none => []
  | some block => block.lines

/-- The first line of the block, if there is one. -/
def blockHead (source : FieldSource) : List Text :=
  match source.block with
  | none => []
  | some block => [block.first]

/-- The lines of the field. -/
def lines (source : FieldSource) : List Text :=
  source.decorators ++ source.blockLines ++ [source.indent ++ source.spelling.text]

/-- What the field waits for: its block decorates it like any other decorator, by its first line. -/
def pending (source : FieldSource) : Pending where
  decorators := (source.decorators ++ source.blockHead).map trim
  columnMeta := source.block.map fun block => joinLines block.lines

/-- The field that is written, which a single text with the attribute makes optional. -/
def field (source : FieldSource) : Field where
  name := source.spelling.name
  type := trim source.spelling.written
  optional := source.spelling.mark = .optional
    || holdsSomewhere Attribute.nullableHere (source.pending.columnMeta.getD [])
    || source.pending.decorators.any (holdsSomewhere Attribute.nullableHere)
  decorators := source.pending.decorators
  columnMeta := source.pending.columnMeta

/-- Every decorator that waits bears its sign, that of the block included. -/
theorem startsWith_of_mem_pending {source : FieldSource} :
    ∀ text ∈ source.pending.decorators, text.startsWith ['@'] = true := by
  intro text member
  simp only [pending, List.mem_map, List.mem_append] at member
  obtain ⟨line, listed, rfl⟩ := member
  rcases listed with listed | listed
  · exact (source.areDecorators line listed).1.decorates
  · -- The head of a block bears the sign of a column decorator.
    cases hasBlock : source.block with
    | none => simp [blockHead, hasBlock] at listed
    | some block =>
      rw [blockHead, hasBlock, List.mem_singleton] at listed
      subst listed
      exact startsWith_of_opensColumnBlock block.opens

/-- The declaration makes the field of what waits for it. -/
theorem pending_field (source : FieldSource) :
    source.pending.field source.spelling.declaration = source.field := by
  -- Whether the attribute is there is decided text by text.
  simp only [Pending.field, field, Declaration.Spelling.declaration,
    holdsSomewhere_nullableHere_searchText source.startsWith_of_mem_pending, Bool.or_assoc]

/-- The lines of a field are read as the field, and leave nothing to wait behind it. -/
theorem fieldsOfLines_lines (source : FieldSource) (rest : List Text) :
    fieldsOfLines .none (source.lines ++ rest) = source.field :: fieldsOfLines .none rest := by
  -- Neither the indent nor anything behind the semicolon matters to the declaration.
  have isRead : Declaration.read? (trim (source.indent ++ source.spelling.text))
      = some source.spelling.declaration := by
    rw [trim_append_left source.indentBlank, source.spelling.read?_trim]
  -- Line by line, what stands above the declaration comes to wait for it.
  have waits : fieldsOfLines .none (source.lines ++ rest)
      = fieldsOfLines source.pending ((source.indent ++ source.spelling.text) :: rest) := by
    simp only [lines, List.append_assoc, List.singleton_append]
    rw [fieldsOfLines_decorators fun line member => (source.areDecorators line member).1]
    cases hasBlock : source.block with
    | none => simp [blockLines, pending, blockHead, hasBlock, Pending.none]
    | some block =>
      simp only [blockLines, hasBlock]
      rw [BlockSource.lines, List.cons_append,
        fieldsOfLines_block block.opens block.closingIndex?_lines]
      simp [pending, blockHead, hasBlock, Pending.none, BlockSource.lines]
  rw [waits, fieldsOfLines_property isRead, source.pending_field]

/-- Every line of a field stays one line. -/
theorem isLine_of_mem_lines {source : FieldSource} {line : Text} (member : line ∈ source.lines) :
    IsLine line := by
  -- A field is printed as its decorators, its block if there is one, and its declaration.
  simp only [lines, List.mem_append, List.mem_singleton] at member
  rcases member with (listed | listed) | rfl
  · exact (source.areDecorators line listed).2
  · cases hasBlock : source.block with
    | none => simp [blockLines, hasBlock] at listed
    | some block =>
      rw [blockLines, hasBlock] at listed
      exact block.areLines line listed
  · exact source.isLine

end FieldSource

/--
What is printed for each of some values is read as their fields, in order.

Nothing waits between two of them, so it is enough that each is read so wherever it stands.
-/
theorem fieldsOfLines_flatMap {α : Type} {values : List α} {print : α → List Text}
    {field : α → Field}
    (each : ∀ value ∈ values, ∀ rest,
      fieldsOfLines .none (print value ++ rest) = field value :: fieldsOfLines .none rest)
    (rest : List Text) :
    fieldsOfLines .none (values.flatMap print ++ rest)
      = values.map field ++ fieldsOfLines .none rest := by
  induction values with
  | nil => rfl
  | cons value values ih =>
    -- The first value is read with the others as its rest.
    rw [List.flatMap_cons, List.append_assoc, each value (by simp),
      ih fun other member => each other (by simp [member])]
    rfl

/-- The line of an exported class as it can be written. -/
structure HeaderSource where
  name : Text
  /-- What stands behind the name. -/
  behind : Text
  nonempty : name ≠ []
  word : AllWord name
  /-- The name ends where it seems to. -/
  ends : EndsWord behind
  behindNonempty : behind ≠ []
  behindNoFeed : '\n' ∉ behind
  behindSolid : EndsSolid behind

namespace HeaderSource

/-- The line of a class that extends nothing. -/
def plain (name : Text) (nonempty : name ≠ []) (word : AllWord name) : HeaderSource where
  name := name
  behind := " \x7b".toList
  nonempty := nonempty
  word := word
  ends := by decide
  behindNonempty := by decide
  behindNoFeed := by decide
  behindSolid := by decide

/-- The line itself. -/
def text (header : HeaderSource) : Text :=
  "export class ".toList ++ (header.name ++ header.behind)

/-- The line ends as what stands behind the name. -/
theorem endsSolid (header : HeaderSource) (front : Text) :
    EndsSolid (front ++ (header.name ++ header.behind)) := by
  rw [← List.append_assoc]
  exact header.behindSolid.append header.behindNonempty _

/-- The line of a class neither decorates nor declares. -/
theorem isSkipped (header : HeaderSource) : IsSkipped header.text :=
  -- The word that opens it is no modifier, and the word behind is no colon.
  isSkipped_of_word (by decide : Declaration.IsName "export".toList) (by decide) (by simp)
    (startsSolid_cons (by decide) _) (header.endsSolid "class ".toList)
    (fun isColon => absurd (Option.some.inj isColon) (by decide))

/-- The line of a class stays one line. -/
theorem isLine (header : HeaderSource) : IsLine header.text := by
  -- Of the parts of a header, the name is a word and the others hold no line feed by assumption.
  have nameNoFeed : '\n' ∉ header.name := header.word.not_mem (show isWord '\n' = false by decide)
  have noFeed : '\n' ∉ header.text := by
    unfold text
    simp only [List.mem_append, not_or]
    exact ⟨by decide, nameNoFeed, header.behindNoFeed⟩
  exact .of_endsSolid noFeed (header.endsSolid _)

/-- Wherever lines go on behind the line of a class, its name is found right there. -/
theorem className?_append (header : HeaderSource) (rest : Text) :
    className? (header.text ++ '\n' :: rest) = some header.name := by
  -- What stands behind the name is no word character, so the name ends there.
  have ends : EndsWord (header.behind ++ '\n' :: rest) := by
    rw [EndsWord, List.head?_append_of_ne_nil _ header.behindNonempty]
    exact header.ends
  unfold text
  rw [List.append_assoc, List.append_assoc]
  exact className?_of_declaration header.nonempty header.word ends

end HeaderSource

/-- A line above a class that has no part in what is read. -/
structure IsPassed (line : Text) : Prop where
  isLine : IsLine line
  isSkipped : IsSkipped line
  noClass : ¬ ExportsClass line
  opensNoClass : OpensNoClass line

/-- A class below passed lines is read as that class with all that follows. -/
theorem Entity.ofSource?_joinLines {front body : List Text} (header : HeaderSource)
    (passed : ∀ line ∈ front, IsPassed line) (bodyLines : ∀ line ∈ body, IsLine line)
    (more : body ≠ []) :
    ofSource? (joinLines (front ++ header.text :: body)) =
      some ⟨header.name, withoutEntitySuffix header.name, fieldsOfLines .none body⟩ := by
  -- The search passes over the lines above and finds the name at the header.
  have named : className? (joinLines (front ++ header.text :: body)) = some header.name := by
    have opens : OpensNoClass (joinLines (header.text :: body)) := by
      rw [joinLines_cons _ more]
      rfl
    rw [className?_joinLines (by simp) (fun line member => (passed line member).noClass)
      (fun line member => (passed line member).opensNoClass) opens, joinLines_cons _ more,
      header.className?_append]
  -- The text is cut into the lines it was joined from.
  have cut : sourceLines (joinLines (front ++ header.text :: body))
      = front ++ header.text :: body := by
    refine sourceLines_joinLines (by simp) ?_
    intro line member
    rcases List.mem_append.mp member with above | below
    · exact (passed line above).isLine
    · rcases List.mem_cons.mp below with rfl | below
      · exact header.isLine
      · exact bodyLines line below
  -- Nothing above the body makes a field or waits for one.
  have fields : fieldsFrom .none (tokens (joinLines (front ++ header.text :: body)))
      = fieldsOfLines .none body := by
    rw [tokens, cut]
    show fieldsOfLines .none (front ++ header.text :: body) = _
    rw [fieldsOfLines_skipped_append fun line member => (passed line member).isSkipped,
      fieldsOfLines_skipped header.isSkipped]
  rw [ofSource?, named, Option.map_some, fields]

/-- A name without a line feed loses an entity suffix at its end alone. -/
theorem withoutEntitySuffix_of_no_feed {name : Text} (noFeed : '\n' ∉ name) :
    withoutEntitySuffix name = (before? entitySuffix name).getD name := by
  -- The other place for the suffix would be right before a line feed.
  unfold withoutEntitySuffix
  cases before? entitySuffix name with
  | some base => rfl
  | none =>
    have noBreak : before? (entitySuffix ++ ['\n']) name = none := by
      rw [Option.eq_none_iff_forall_ne_some]
      intro base found
      rw [before?_eq_some_iff] at found
      subst found
      simp at noFeed
    simp only [noBreak, Option.getD_none]

/-- The base name is what stands before an entity suffix, or the whole name if it has none. -/
theorem withoutEntitySuffix_eq_iff {name base : Text} (noFeed : '\n' ∉ name) :
    withoutEntitySuffix name = base ↔
      name = base ++ entitySuffix ∨ ¬ entitySuffix <:+ name ∧ name = base := by
  rw [withoutEntitySuffix_of_no_feed noFeed]
  cases ends : before? entitySuffix name with
  | some rest =>
    obtain rfl := eq_append_of_before? ends
    -- What stands before the suffix is one text only.
    constructor
    · rintro rfl
      exact .inl rfl
    · rintro (same | ⟨noSuffix, -⟩)
      · exact List.append_cancel_right same
      · exact absurd (List.suffix_append rest entitySuffix) noSuffix
  | none =>
    have noSuffix : ¬ entitySuffix <:+ name := by
      rintro ⟨rest, rfl⟩
      rw [before?_append] at ends
      cases ends
    constructor
    · intro same
      exact .inr ⟨noSuffix, same⟩
    · rintro (rfl | ⟨-, same⟩)
      · exact absurd (List.suffix_append base entitySuffix) noSuffix
      · exact same

/-- An entity class as it can be written. -/
structure ClassSource where
  name : Text
  fields : List FieldSource
  nonempty : name ≠ []
  word : AllWord name

namespace ClassSource

/-- The line that opens the class. -/
def header (source : ClassSource) : HeaderSource :=
  .plain source.name source.nonempty source.word

/-- The source text of the class. -/
def text (source : ClassSource) : Text :=
  joinLines (("export class ".toList ++ (source.name ++ " \x7b".toList))
    :: (source.fields.flatMap FieldSource.lines ++ [['\x7d']]))

/-- The entity that is written. -/
def entity (source : ClassSource) : Entity where
  className := source.name
  baseName := (before? entitySuffix source.name).getD source.name
  fields := source.fields.map FieldSource.field

/-- Reading a class gives back the entity it was written from. -/
theorem ofSource?_text (source : ClassSource) :
    Entity.ofSource? source.text = some source.entity := by
  have feedEnds : isWord '\n' = false := by decide
  -- No line of the body would be cut in two.
  have bodyLines : ∀ line ∈ source.fields.flatMap FieldSource.lines ++ [['\x7d']],
      IsLine line := by
    intro line member
    rcases List.mem_append.mp member with inField | isBrace
    · obtain ⟨field, -, listed⟩ := List.mem_flatMap.mp inField
      exact FieldSource.isLine_of_mem_lines listed
    · rw [List.mem_singleton] at isBrace
      subst isBrace
      exact ⟨by decide, by decide⟩
  have nothingAbove : ∀ line ∈ ([] : List Text), IsPassed line := by simp
  -- Around the fields stand only the header and the brace, which make no field.
  have isRead := Entity.ofSource?_joinLines source.header nothingAbove bodyLines (by simp)
  rw [fieldsOfLines_flatMap fun field _ => field.fieldsOfLines_lines,
    fieldsOfLines_skipped isSkipped_brace, fieldsOfLines_nil, List.append_nil,
    withoutEntitySuffix_of_no_feed (source.header.word.not_mem feedEnds)] at isRead
  exact isRead

/-- A class with one field, which a block decorates and whose name is itself a modifier. -/
def readonlyClass : ClassSource where
  name := "UserEntity".toList
  fields :=
    [{  decorators := ["@Index()".toList]
        block := some
          { first := "  @Column(\x7b".toList
            others := ["nullable: true \x7d)".toList]
            opens := by decide
            staysOpen := fun count positive few => by
              have isOne : count = 1 := Nat.le_antisymm few positive
              subst isOne
              decide
            closes := by decide
            areLines := fun line member => by
              simp only [List.mem_cons, List.not_mem_nil, or_false] at member
              rcases member with rfl | rfl <;> exact ⟨by decide, by decide⟩ }
        indent := "  ".toList
        spelling :=
          { modifiers := [⟨"private".toList, [' '], by decide, by decide, by decide⟩]
            name := "readonly".toList
            mark := .definite
            gap := []
            written := " string ".toList
            rest := []
            isName := by decide
            gapBlank := allBlank_nil
            writtenNonempty := by decide
            writtenOpen := by decide }
        areDecorators := fun line member => by
          rw [List.mem_singleton] at member
          subst member
          exact ⟨⟨by decide, by decide⟩, ⟨by decide, by decide⟩⟩
        indentBlank := by decide
        isLine := ⟨by decide, by decide⟩ }]
  nonempty := by decide
  word := by decide

example : readonlyClass.text =
    "export class UserEntity \x7b\n@Index()\n  @Column(\x7b\nnullable: true \x7d)\n  private readonly!: string ;\n\x7d".toList := by
  decide +kernel

example : readonlyClass.entity =
    ⟨"UserEntity".toList, "User".toList,
      [⟨"readonly".toList, "string".toList, true, ["@Index()".toList, "@Column(\x7b".toList],
        some "  @Column(\x7b\nnullable: true \x7d)".toList⟩]⟩ := by
  decide +kernel

end ClassSource

end EntityDto
