import EntityDto.Proofs.Entity.Layout
import EntityDto.Proofs.Entity.Replacement

/-!
The order of attributes in a column block: where the attributes have whole lines of their own, which
end with a comma, the lines may be put in any order.

No attribute runs across the comma of a line, so the same ones are found; no line opens more
parentheses than it closes, so the block ends where it did.
-/

namespace EntityDto

open Text

/-- A test for an attribute: it ignores gaps and reads across neither braces nor commas. -/
structure IsAttributeTest (test : Text → Bool) : Prop where
  ignoresGaps : IgnoresGaps (asReader test)
  stopsAtBrace : StopsAt '\x7b' test
  stopsAtComma : StopsAt ',' test

namespace Attribute

/-- The optional attribute is found by such a test. -/
theorem isAttributeTest_nullableHere : IsAttributeTest nullableHere where
  ignoresGaps := ignoresGaps_nullableHere
  stopsAtBrace := stopsAt_nullableHere (by decide)
  stopsAtComma := stopsAt_nullableHere (by decide)

/-- The tiny integer type is found by such a test. -/
theorem isAttributeTest_tinyintHere : IsAttributeTest tinyintHere where
  ignoresGaps := ignoresGaps_tinyintHere
  stopsAtBrace := stopsAt_tinyintHere (by decide) (by decide)
  stopsAtComma := stopsAt_tinyintHere (by decide) (by decide)

/-- The width of one is found by such a test. -/
theorem isAttributeTest_widthOneHere : IsAttributeTest widthOneHere where
  ignoresGaps := ignoresGaps_widthOneHere
  stopsAtBrace := stopsAt_widthOneHere (by decide) (by decide)
  stopsAtComma := stopsAt_widthOneHere (by decide) (by decide)

/-- A date type is found by such a test. -/
theorem isAttributeTest_dateHere : IsAttributeTest dateHere where
  ignoresGaps := ignoresGaps_dateHere
  stopsAtBrace := stopsAt_dateHere (by decide)
  stopsAtComma := stopsAt_dateHere (by decide)

end Attribute

/-- A line of attributes: it ends with a comma and opens as many parentheses as it closes. -/
structure IsAttributeLine (line : Text) : Prop where
  balanced : line.count '(' = line.count ')'
  ends : (trim line).endsWith [','] = true

instance (line : Text) : Decidable (IsAttributeLine line) :=
  decidable_of_iff (line.count '(' = line.count ')' ∧ (trim line).endsWith [','] = true)
    ⟨fun ⟨balanced, ends⟩ => ⟨balanced, ends⟩, fun isLine => ⟨isLine.balanced, isLine.ends⟩⟩

/-- Behind the comma of a line of attributes there are only blanks. -/
theorem IsAttributeLine.exists_eq {line : Text} (isLine : IsAttributeLine line) :
    ∃ body blanks, AllBlank blanks ∧ line = body ++ ',' :: blanks := by
  -- The comma ends the trimmed line, and only blanks were trimmed off behind it.
  obtain ⟨before, after, -, blank, split⟩ := exists_trim_eq line
  obtain ⟨body, trimmed⟩ := endsWith_iff.mp isLine.ends
  refine ⟨before ++ body, after, blank, ?_⟩
  rw [trimmed] at split
  simpa using split

/-- A line of attributes leaves the balance as it is. -/
theorem IsAttributeLine.parenBalance_eq {line : Text} (isLine : IsAttributeLine line) :
    parenBalance line = 0 := by
  rw [parenBalance, isLine.balanced, Int.sub_self]

/-- An attribute stands in a line of attributes or below it. -/
theorem IsAttributeLine.holdsSomewhere_append {line : Text} (isLine : IsAttributeLine line)
    {test : Text → Bool} (isTest : IsAttributeTest test) (below : Text) :
    holdsSomewhere test (line ++ '\n' :: below)
      = (holdsSomewhere test line || holdsSomewhere test below) := by
  obtain ⟨body, blanks, blank, rfl⟩ := isLine.exists_eq
  -- The gap behind the comma holds nothing, whether more text follows it or not.
  have atEnd : holdsSomewhere test blanks = false := by
    have nothing := holdsSomewhere_append_blank isTest.ignoresGaps blank []
    rw [List.append_nil] at nothing
    rw [nothing, holdsSomewhere_eq_isSome, findFrom?, isTest.ignoresGaps.atEnd]
    rfl
  calc holdsSomewhere test ((body ++ ',' :: blanks) ++ '\n' :: below)
      = holdsSomewhere test (body ++ ',' :: ((blanks ++ ['\n']) ++ below)) := by simp
    _ = (holdsSomewhere test body || holdsSomewhere test below) := by
      rw [isTest.stopsAtComma.holdsSomewhere_append,
        holdsSomewhere_append_blank isTest.ignoresGaps blank.concat_feed]
    _ = (holdsSomewhere test (body ++ ',' :: blanks) || holdsSomewhere test below) := by
      rw [isTest.stopsAtComma.holdsSomewhere_append, atEnd, Bool.or_false]

/-- An attribute stands in one of several lines of attributes or below them. -/
theorem holdsSomewhere_joinLines_attributes {test : Text → Bool} (isTest : IsAttributeTest test)
    {lines below : List Text} (each : ∀ line ∈ lines, IsAttributeLine line) (more : below ≠ []) :
    holdsSomewhere test (joinLines (lines ++ below))
      = (lines.any (holdsSomewhere test) || holdsSomewhere test (joinLines below)) := by
  -- No attribute goes beyond the comma of its line, so each line is searched by itself.
  induction lines with
  | nil => rfl
  | cons line lines ih =>
    obtain ⟨isLine, others⟩ := List.forall_mem_cons.mp each
    rw [List.cons_append, joinLines_cons line (by simp [more]), isLine.holdsSomewhere_append isTest,
      ih others, List.any_cons, Bool.or_assoc]

/-- Lines of attributes leave an open balance open, and as it is. -/
theorem closingIndex?_attributes {lines : List Text} (each : ∀ line ∈ lines, IsAttributeLine line)
    {depth : Int} (isOpen : 0 < depth) :
    closingIndex? depth lines = none ∧ linesBalance lines = 0 := by
  -- Each line closes as many parentheses as it opens, so the depth stays what it is.
  induction lines with
  | nil => exact ⟨rfl, rfl⟩
  | cons line lines ih =>
    obtain ⟨isLine, others⟩ := List.forall_mem_cons.mp each
    obtain ⟨unclosed, balanced⟩ := ih others
    rw [closingIndex?, linesBalance, isLine.parenBalance_eq, balanced, Int.add_zero,
      if_neg (by omega), unclosed]
    exact ⟨rfl, rfl⟩

/-- A column block over several lines, all but the first and the last of them for attributes. -/
structure AttributeBlock where
  first : Text
  attributes : List Text
  last : Text
  opens : trim first = "@Column(\x7b".toList
  closes : trim last = "\x7d)".toList
  each : ∀ line ∈ attributes, IsAttributeLine line

namespace AttributeBlock

/-- The lines of the block. -/
def lines (block : AttributeBlock) : List Text :=
  block.first :: (block.attributes ++ [block.last])

/-- The block with its lines of attributes in another order. -/
def reorder (block : AttributeBlock) {attributes : List Text}
    (reordered : block.attributes.Perm attributes) : AttributeBlock :=
  { block with
    attributes
    each := fun line member => block.each line (reordered.mem_iff.mpr member) }

variable (block : AttributeBlock)

/-- The block with its lines of attributes between the first and the last, above further lines. -/
theorem lines_append (below : List Text) :
    block.lines ++ below = block.first :: (block.attributes ++ block.last :: below) := by
  simp [lines]

/-- The first line opens a column block. -/
theorem opensColumnBlock_first : Token.opensColumnBlock (trim block.first) = true := by
  rw [block.opens]
  decide

/-- The block takes any open balance through to its last line, one higher than it was. -/
theorem closingIndex?_lines {depth : Int} (isOpen : 0 ≤ depth) (below : List Text) :
    closingIndex? depth (block.lines ++ below)
      = (closingIndex? (depth + 1) (block.last :: below)).map (block.attributes.length + 1 + ·) := by
  have opened : parenBalance block.first = 1 := by
    rw [← parenBalance_trim, block.opens]
    decide
  -- From the first line on the balance is above zero, and the attributes leave it there.
  obtain ⟨unclosed, balanced⟩ := closingIndex?_attributes block.each (Int.lt_add_one_of_le isOpen)
  have front : closingIndex? depth (block.first :: block.attributes) = none := by
    rw [closingIndex?, opened, if_neg (by omega), unclosed]
    rfl
  have frontBalance : linesBalance (block.first :: block.attributes) = 1 := by
    rw [linesBalance, opened, balanced]
    rfl
  rw [lines_append, ← List.cons_append, closingIndex?_append_of_unclosed front, frontBalance,
    List.length_cons]

/-- By itself the block closes with its last line. -/
theorem closingIndex?_lines_zero :
    closingIndex? 0 block.lines = some (block.attributes ++ [block.last]).length := by
  -- The opening line opens one parenthesis, and the last line is the first to close more.
  have closed : parenBalance block.last = -1 := by
    rw [← parenBalance_trim, block.closes]
    decide
  have closes := block.closingIndex?_lines (Int.le_refl 0) []
  rwa [List.append_nil, closingIndex?, closed, if_pos (by decide), Option.map_some, Nat.add_zero,
    ← List.length_singleton (a := block.last), ← List.length_append] at closes

/-- A block where a token starts makes one token of its lines. -/
theorem ofLinesFrom_lines (number : Nat) (below : List Text) :
    Token.ofLinesFrom number (block.lines ++ below) =
      ⟨.columnBlock (joinLines block.lines) true, number, trim block.first⟩
        :: Token.ofLinesFrom (number + (block.attributes ++ [block.last]).length + 1) below := by
  rw [lines, Token.ofLinesFrom_closed_append block.opensColumnBlock_first
    block.closingIndex?_lines_zero, List.take_length, List.drop_length, List.nil_append]

/-- What stands above the attributes ends with the brace that opens the object. -/
theorem exists_joinLines_eq (above : List Text) :
    ∃ front blanks, joinLines above <+: front ∧ AllBlank blanks ∧ ∀ rest, rest ≠ [] →
      joinLines (above ++ block.first :: rest)
        = front ++ '\x7b' :: ((blanks ++ ['\n']) ++ joinLines rest) := by
  -- Blanks around the opening line go to the front and behind its brace.
  obtain ⟨before, isPrefix, upper⟩ := exists_joinLines_concat above
  obtain ⟨lead, blanks, -, blank, split⟩ := exists_trim_eq block.first
  rw [block.opens] at split
  refine ⟨before ++ (lead ++ "@Column(".toList), blanks, isPrefix.trans (List.prefix_append _ _),
    blank, fun rest more => ?_⟩
  rw [List.append_cons, joinLines_append (by simp) more, upper, split]
  simp

variable {attributes : List Text} (reordered : block.attributes.Perm attributes)

/-- In any order of the lines the same attributes are found. -/
theorem holdsSomewhere_reorder {test : Text → Bool} (isTest : IsAttributeTest test)
    (above below : List Text) :
    holdsSomewhere test (joinLines (above ++ (block.lines ++ below)))
      = holdsSomewhere test (joinLines (above ++ ((block.reorder reordered).lines ++ below))) := by
  obtain ⟨front, blanks, -, blank, joined⟩ := block.exists_joinLines_eq above
  -- What is found above the attributes and below them does not depend on them.
  have found {attributes : List Text} (each : ∀ line ∈ attributes, IsAttributeLine line) :
      holdsSomewhere test (joinLines (above ++ block.first :: (attributes ++ block.last :: below)))
        = (holdsSomewhere test front || (attributes.any (holdsSomewhere test)
          || holdsSomewhere test (joinLines (block.last :: below)))) := by
    rw [joined _ (by simp), isTest.stopsAtBrace.holdsSomewhere_append,
      holdsSomewhere_append_blank isTest.ignoresGaps blank.concat_feed,
      holdsSomewhere_joinLines_attributes isTest each (by simp)]
  -- Whether one of their lines holds it does not depend on the order of the lines.
  rw [lines_append, lines_append, found block.each, reordered.any_eq]
  exact (found (block.reorder reordered).each).symm

/-- In any order of the lines the raw text says the same. -/
theorem sameBlock_reorder (above below : List Text)
    (column : (joinLines (above ++ (block.lines ++ below))).contains "@Column(".toList
      = (joinLines (above ++ ((block.reorder reordered).lines ++ below))).contains
        "@Column(".toList) :
    SameBlock (joinLines (above ++ (block.lines ++ below)))
      (joinLines (above ++ ((block.reorder reordered).lines ++ below))) where
  column := column
  nullable := block.holdsSomewhere_reorder reordered Attribute.isAttributeTest_nullableHere ..
  tinyint := block.holdsSomewhere_reorder reordered Attribute.isAttributeTest_tinyintHere ..
  widthOne := block.holdsSomewhere_reorder reordered Attribute.isAttributeTest_widthOneHere ..
  date := block.holdsSomewhere_reorder reordered Attribute.isAttributeTest_dateHere ..

/-- A block may be replaced by itself in another order. -/
theorem replaceable_reorder : Replaceable block.lines (block.reorder reordered).lines where
  length := by simp [lines, reorder, reordered.length_eq]
  closes depth isOpen below := by
    rw [closingIndex?_lines _ (Int.le_of_lt isOpen), closingIndex?_lines _ (Int.le_of_lt isOpen),
      reordered.length_eq]
    rfl
  reaches depth isOpen below index closes := by
    rw [closingIndex?_lines _ (Int.le_of_lt isOpen), Option.map_eq_some_iff] at closes
    obtain ⟨place, -, rfl⟩ := closes
    simp only [lines, List.length_cons, List.length_append, List.length_nil]
    omega
  block := block.sameBlock_reorder reordered

/-- Where a token starts at the block, the tokens are in step in any order of the lines. -/
theorem inStep_reorder (number : Nat) (below : List Text) :
    InStep EqualDecorator SameBlock (Token.ofLinesFrom number (block.lines ++ below))
      (Token.ofLinesFrom number ((block.reorder reordered).lines ++ below)) := by
  -- Both orders have the same number of lines, so the tokens behind the blocks are the same.
  have raw := block.sameBlock_reorder reordered [] []
    ((contains_column_of_opens block.opensColumnBlock_first _).trans
      (contains_column_of_opens block.opensColumnBlock_first _).symm)
  simp only [List.nil_append, List.append_nil] at raw
  have sameLength : (block.attributes ++ [block.last]).length
      = ((block.reorder reordered).attributes ++ [block.last]).length := by
    simp [reorder, reordered.length_eq]
  rw [ofLinesFrom_lines, ofLinesFrom_lines, sameLength]
  exact .columnBlock ⟨rfl, startsWith_of_opensColumnBlock block.opensColumnBlock_first⟩ raw
    (inStep_refl (fun signed => ⟨rfl, signed⟩) _ _)

/-- The class that is declared above a block is found whatever order its attributes have. -/
theorem exists_className?_reorder {above : List Text} (declared : DeclaresClass (joinLines above))
    (below : List Text) :
    ∃ name, className? (joinLines (above ++ (block.lines ++ below))) = some name
      ∧ className? (joinLines (above ++ ((block.reorder reordered).lines ++ below))) = some name := by
  obtain ⟨front, blanks, ⟨more, rfl⟩, -, joined⟩ := block.exists_joinLines_eq above
  have stops : StopsAt '\x7b' classNameHere? := stopsAt_classNameHere? (by decide) (by decide)
  obtain ⟨name, named⟩ := Option.isSome_iff_exists.mp
    (isSome_className?_append (isSome_className?_iff.mpr declared) more)
  -- A class found above the brace comes before all that stands below it.
  have found {rest : List Text} (nonempty : rest ≠ []) :
      className? (joinLines (above ++ block.first :: rest)) = some name := by
    rw [joined rest nonempty, className?, stops.findFrom?_append, ← className?, named,
      Option.some_or]
  rw [lines_append, lines_append]
  exact ⟨name, found (by simp), found (by simp)⟩

end AttributeBlock

namespace Entity

/--
The order of attributes does not matter in a column block below the class declaration.

The attributes have whole lines to themselves, which end with a comma and balance their parentheses.
Then the source has the same class in any order of these lines, with the same fields, which keep all
that is read from the block, but for its raw text.
-/
theorem ofSource?_reorder (block : AttributeBlock) {attributes : List Text}
    (reordered : block.attributes.Perm attributes) {source other : Text} {above below : List Text}
    (cut : sourceLines source = above ++ (block.lines ++ below))
    (otherCut : sourceLines other = above ++ ((block.reorder reordered).lines ++ below))
    (declared : DeclaresClass (joinLines above)) :
    ∃ entity otherEntity, ofSource? source = some entity ∧ ofSource? other = some otherEntity
      ∧ entity.outline Field.traitsAndDecorators
        = otherEntity.outline Field.traitsAndDecorators := by
  have run : InStep EqualDecorator SameBlock (tokens source) (tokens other) := by
    -- A block that is open from above finds the same end; without one a token starts at the block.
    rw [tokens, tokens, cut, otherCut]
    exact inStep_replace (fun signed => ⟨rfl, signed⟩) (block.replaceable_reorder reordered)
      fun _ _ => block.inStep_reorder reordered _ below
  have fields := run.map_fieldsFrom .none traitsAndDecorators_field
  obtain ⟨name, named, otherNamed⟩ := block.exists_className?_reorder reordered declared below
  rw [← cut, className?_joinLines_sourceLines] at named
  rw [← otherCut, className?_joinLines_sourceLines] at otherNamed
  refine ⟨_, _, Option.map_eq_some_iff.mpr ⟨name, named, rfl⟩,
    Option.map_eq_some_iff.mpr ⟨name, otherNamed, rfl⟩, ?_⟩
  exact congrArg (fun seen => (name, withoutEntitySuffix name, seen)) fields

/-- A block in which a line of attributes closes a parenthesis before it opens one. -/
def flagBlock : AttributeBlock where
  first := "  @Column(\x7b ".toList
  attributes := ["    type: 'tinyint',".toList, "    comment: ')(', width : 1,".toList,
    "    nullable:true, ".toList]
  last := "  \x7d)".toList
  opens := by decide
  closes := by decide
  each := by decide

/-- The block with its attributes from the last to the first. -/
def reversedFlagBlock : AttributeBlock :=
  flagBlock.reorder (List.reverse_perm flagBlock.attributes).symm

/-- A class with the given lines above its only field. -/
def flagLines (block : List Text) : List Text :=
  ["export class A \x7b".toList] ++ (block ++ ["  x: T;".toList, "\x7d".toList])

/-- The field is an optional truth value, with its attributes in this order and in reverse. -/
theorem ofSource?_reorder_reversed :
    (∃ entity otherEntity, ofSource? (joinLines (flagLines flagBlock.lines)) = some entity
      ∧ ofSource? (joinLines (flagLines reversedFlagBlock.lines)) = some otherEntity
      ∧ entity.outline Field.traitsAndDecorators = otherEntity.outline Field.traitsAndDecorators)
    ∧ (ofSource? (joinLines (flagLines flagBlock.lines))).map (outline Field.traitsAndDecorators)
      = some ("A".toList, "A".toList,
        [(⟨"x".toList, "T".toList, true, false, false, false, true, false⟩,
          ["@Column(\x7b".toList])]) := by
  have cut : sourceLines (joinLines (flagLines flagBlock.lines)) = flagLines flagBlock.lines := by
    decide +kernel
  have otherCut : sourceLines (joinLines (flagLines reversedFlagBlock.lines))
      = flagLines reversedFlagBlock.lines := by decide +kernel
  -- The class is declared above the block, so its lines have no part in the class search.
  have declared : DeclaresClass (joinLines ["export class A \x7b".toList]) :=
    isSome_className?_iff.mp (by decide +kernel)
  exact ⟨ofSource?_reorder flagBlock (List.reverse_perm _).symm cut otherCut declared,
    by decide +kernel⟩

end Entity

end EntityDto
