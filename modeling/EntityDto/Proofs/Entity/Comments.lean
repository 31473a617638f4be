import Mathlib.Data.List.Infix
import EntityDto.Proofs.Entity.ClassSearch
import EntityDto.Proofs.Entity.Exchange
import EntityDto.Proofs.Field.Attributes

/-!
Comments in column decorators: their texts are searched like any other raw text, so a comment is
inert as long as it leaves the parentheses balanced as they are and spells no attribute, decorator
or class that was not there before.
-/

namespace EntityDto

open Text

/-- A text with a comment in quotes between what stands before it and behind it. -/
def commented (front text back : Text) : Text :=
  front ++ ("comment: '".toList ++ (text ++ '\'' :: back))

/-- A comment lies between its two quotes. -/
theorem commented_eq_quoted (front text back : Text) :
    commented front text back
      = (front ++ "comment: ".toList) ++ '\'' :: (text ++ '\'' :: back) := by
  rw [commented, List.append_assoc]
  rfl

/-- More text may stand before the front and behind the back. -/
theorem append_commented (before front text back after : Text) :
    before ++ (commented front text back ++ after)
      = commented (before ++ front) text (back ++ after) := by
  simp only [commented, List.append_assoc, List.cons_append]

/-- The blanks around a text with a comment are those at its front and at its back. -/
theorem trim_commented (front text back : Text) :
    trim (commented front text back)
      = commented (trimStart front) text (dropEndWhile isBlank back) := by
  -- The comment starts and ends solid, so trimming stops at it from both sides.
  have begins : trimStart (commented front text back) = commented (trimStart front) text back :=
    trimStart_append_cons (by decide) front _
  have ends (front : Text) :
      dropEndWhile isBlank (commented front text back)
        = commented front text (dropEndWhile isBlank back) := by
    have cut := dropEndWhile_append_cons '\'' (by decide)
      (front ++ ("comment: '".toList ++ text)) back
    simpa only [commented, List.append_assoc] using cut
  rw [trim, begins, ends]

/-- What a text with a comment starts with is decided before the comment. -/
theorem startsWith_commented {sign : Text} (noC : 'c' ∉ sign) (front text back : Text) :
    (commented front text back).startsWith sign = front.startsWith sign := by
  -- The sign holds no letter that the comment starts with, so it ends before it.
  have found := after?_append_cons noC front ("omment: '".toList ++ (text ++ '\'' :: back))
  rw [startsWith, show commented front text back
    = front ++ 'c' :: ("omment: '".toList ++ (text ++ '\'' :: back)) from rfl, found,
    Option.isSome_map, startsWith]

/-- The parentheses of a comment count like any others. -/
theorem parenBalance_commented (front text back : Text) :
    parenBalance (commented front text back)
      = parenBalance front + parenBalance text + parenBalance back := by
  -- Neither the word in front of the comment nor its quotes hold parentheses.
  have opening : parenBalance "comment: '".toList = 0 := by decide
  have closing : parenBalance ['\''] = 0 := by decide
  rw [commented, ← List.singleton_append (l := back)]
  simp only [parenBalance_append, opening, closing]
  omega

/-- A comment text without quotes of its own. -/
structure IsComment (text : Text) : Prop where
  noSingle : '\'' ∉ text
  noDouble : '"' ∉ text

instance (text : Text) : Decidable (IsComment text) :=
  decidable_of_iff ('\'' ∉ text ∧ '"' ∉ text)
    ⟨fun ⟨noSingle, noDouble⟩ => ⟨noSingle, noDouble⟩, fun plain => ⟨plain.noSingle, plain.noDouble⟩⟩

/-- What holds no quote is found before a comment, in it or behind it. -/
theorem holdsSomewhere_commented {test : Text → Bool} (stops : StopsAt '\'' test)
    (front text back : Text) :
    holdsSomewhere test (commented front text back) =
      (holdsSomewhere test (front ++ "comment: ".toList)
        || (holdsSomewhere test text || holdsSomewhere test back)) := by
  rw [commented_eq_quoted, stops.holdsSomewhere_append, stops.holdsSomewhere_append]

/--
What opens before a quoted value is found before a comment or behind it.

It holds no c, so nothing of it reaches from the front into the comment; a value that opens with the
closing quote would go on as a word behind it.
-/
theorem holdsSomewhere_commented_value {test : Text → Bool} (stops : StopsAt 'c' test)
    (opening : ∀ place, place <:+ "omment: ".toList → ∀ rest, test (place ++ '\'' :: rest) = false)
    (closing : ∀ {place rest : Text}, '\'' ∉ place → '"' ∉ place → EndsWord rest →
      test (place ++ '\'' :: rest) = false)
    {text back : Text} (plain : IsComment text) (ends : EndsWord back) (front : Text) :
    holdsSomewhere test (commented front text back) =
      (holdsSomewhere test front || holdsSomewhere test back) := by
  -- Neither in the word before the comment nor in the comment itself does the test hold.
  have inOpening : holdsSomewhere test ("omment: ".toList ++ '\'' :: (text ++ '\'' :: back))
      = holdsSomewhere test (text ++ '\'' :: back) :=
    holdsSomewhere_append_of_fails fun place inside => opening place inside _
  have inText : holdsSomewhere test (text ++ '\'' :: back) = holdsSomewhere test back :=
    holdsSomewhere_append_of_fails fun place inside =>
      closing (fun member => plain.noSingle (inside.subset member))
        (fun member => plain.noDouble (inside.subset member)) ends
  rw [show commented front text back
    = front ++ 'c' :: ("omment: ".toList ++ '\'' :: (text ++ '\'' :: back)) from rfl,
    stops.holdsSomewhere_append, inOpening, inText]

/-- No type attribute begins in the word before a comment. -/
theorem Attribute.tinyintHere_opening (place : Text) (inside : place <:+ "omment: ".toList)
    (rest : Text) : tinyintHere (place ++ '\'' :: rest) = false := by
  -- At none of the ends of that word does the name of the attribute begin.
  have noName : ∀ place ∈ "omment: ".toList.tails, afterAnyCase? "type".toList place = none := by
    decide
  have commutes : Commutes (· ++ '\'' :: rest) (afterAnyCase? "type".toList) :=
    commutes_afterAnyCase?_append (by decide) rest
  rw [tinyintHere_eq, commutes place, noName place ((List.mem_tails _ _).mpr inside)]
  rfl

/-- No type attribute in small letters begins in the word before a comment. -/
theorem Attribute.dateHere_opening (place : Text) (inside : place <:+ "omment: ".toList)
    (rest : Text) : dateHere (place ++ '\'' :: rest) = false := by
  -- The name is in small letters here, and begins at none of the ends either.
  have noName : ∀ place ∈ "omment: ".toList.tails, after? "type".toList place = none := by
    decide
  have commutes : Commutes (· ++ '\'' :: rest) (after? "type".toList) :=
    commutes_after?_append (by decide) rest
  rw [dateHere_eq, commutes place, noName place ((List.mem_tails _ _).mpr inside)]
  rfl

/-- The lists of decorator names that are looked for in decorator lines. -/
def decoratorNames : List (List Text) :=
  [relationDecorators, generatedKeyDecorators, auditDecorators]

/-- A line with a comment of a column decorator, but for the text of the comment. -/
structure CommentLine where
  head : Text
  tail : Text
  /-- A column decorator opens its object before the comment that is a part of it. -/
  opens : (trimStart head).startsWith "@Column(".toList = true → '\x7b' ∈ trimStart head
  /-- No word goes on right behind the closing quote. -/
  ends : EndsWord tail

namespace CommentLine

/-- The line with the given text for a comment. -/
def line (comment : CommentLine) (text : Text) : Text :=
  commented comment.head text comment.tail

/--
Two texts that leave the same traces as the comment of a line.

They balance alike and spell the same attributes; in a decorator line, also the same decorators.
-/
structure SameTraces (comment : CommentLine) (text other : Text) : Prop where
  balance : parenBalance text = parenBalance other
  nullable : holdsSomewhere Attribute.nullableHere text = holdsSomewhere Attribute.nullableHere other
  widthOne : holdsSomewhere Attribute.widthOneHere text = holdsSomewhere Attribute.widthOneHere other
  decorators : (trimStart comment.head).startsWith ['@'] = true → ∀ names ∈ decoratorNames,
    holdsSomewhere (decoratorHere names) text = holdsSomewhere (decoratorHere names) other

variable {comment : CommentLine} {text other : Text}

/-- The trimmed line begins with a sign exactly when its head does without its blanks. -/
theorem startsWith_trim_line {sign : Text} (noC : 'c' ∉ sign) :
    (trim (comment.line text)).startsWith sign = (trimStart comment.head).startsWith sign := by
  rw [line, trim_commented, startsWith_commented noC]

/-- Whether the line opens a column block does not depend on the comment. -/
theorem opensColumnBlock_trim_line :
    Token.opensColumnBlock (trim (comment.line text))
      = (trimStart comment.head).startsWith "@Column(".toList := by
  rw [Token.opensColumnBlock, startsWith_trim_line (by decide)]
  cases signed : (trimStart comment.head).startsWith "@Column(".toList with
  | false => rfl
  | true =>
    -- The object is opened before the comment, whatever braces the comment holds.
    have brace : '\x7b' ∈ trim (comment.line text) := by
      rw [line, trim_commented, commented]
      exact List.mem_append_left _ (comment.opens signed)
    simpa using brace

/-- Texts of the same traces make decorators that say the same. -/
theorem SameTraces.sameDecorator (traces : comment.SameTraces text other)
    (signed : (trim (comment.line text)).startsWith ['@'] = true) :
    SameDecorator (trim (comment.line text)) (trim (comment.line other)) := by
  have headSigned := signed
  rw [startsWith_trim_line (by decide)] at headSigned
  -- Whether a decorator is named is decided before the comment, in it and behind it.
  have named (names : List Text) (listed : names ∈ decoratorNames)
      (noQuote : ∀ name ∈ names, '\'' ∉ name) :
      holdsSomewhere (decoratorHere names) (trim (comment.line text))
        = holdsSomewhere (decoratorHere names) (trim (comment.line other)) := by
    have stops : StopsAt '\'' (decoratorHere names) :=
      stopsAt_decoratorHere (by decide) (by decide) noQuote
    simp only [line, trim_commented, holdsSomewhere_commented stops,
      traces.decorators headSigned names listed]
  refine ⟨signed, ?_, ?_, ?_, ?_, ?_⟩
  · rw [startsWith_trim_line (by decide)]
    exact headSigned
  · have stops : StopsAt '\'' Attribute.nullableHere := Attribute.stopsAt_nullableHere (by decide)
    simp only [line, trim_commented, holdsSomewhere_commented stops, traces.nullable]
  · exact named relationDecorators (by simp [decoratorNames]) (by decide)
  · exact named generatedKeyDecorators (by simp [decoratorNames]) (by decide)
  · exact named auditDecorators (by simp [decoratorNames]) (by decide)

/-- Texts of the same traces may be exchanged as the comment of a line. -/
theorem SameTraces.exchangeable (traces : comment.SameTraces text other) (plain : IsComment text)
    (otherPlain : IsComment other) : Exchangeable (comment.line text) (comment.line other) where
  balance := by rw [line, line, parenBalance_commented, parenBalance_commented, traces.balance]
  opens := by rw [opensColumnBlock_trim_line, opensColumnBlock_trim_line]
  signed := by rw [startsWith_trim_line (by decide), startsWith_trim_line (by decide)]
  decorator := traces.sameDecorator
  block above below column := by
    -- What stands around the line becomes part of what stands around the comment.
    obtain ⟨before, after, -, breaks, joined⟩ := exists_joinLines_eq above below
    have ends : EndsWord (comment.tail ++ after) := by
      refine comment.ends.append ?_
      intro char isHead
      rw [breaks char isHead]
      decide
    simp only [joined, line, append_commented] at column ⊢
    refine ⟨column, ?_, ?_, ?_, ?_⟩
    · have stops : StopsAt '\'' Attribute.nullableHere := Attribute.stopsAt_nullableHere (by decide)
      simp only [holdsSomewhere_commented stops, traces.nullable]
    · have stops : StopsAt 'c' Attribute.tinyintHere :=
        Attribute.stopsAt_tinyintHere (by decide) (by decide)
      rw [holdsSomewhere_commented_value stops Attribute.tinyintHere_opening
          Attribute.tinyintHere_append_quote plain ends,
        holdsSomewhere_commented_value stops Attribute.tinyintHere_opening
          Attribute.tinyintHere_append_quote otherPlain ends]
    · have stops : StopsAt '\'' Attribute.widthOneHere :=
        Attribute.stopsAt_widthOneHere (by decide) (by decide)
      simp only [holdsSomewhere_commented stops, traces.widthOne]
    · have stops : StopsAt 'c' Attribute.dateHere := Attribute.stopsAt_dateHere (by decide)
      rw [holdsSomewhere_commented_value stops Attribute.dateHere_opening
          Attribute.dateHere_append_quote plain ends,
        holdsSomewhere_commented_value stops Attribute.dateHere_opening
          Attribute.dateHere_append_quote otherPlain ends]

/-- A comment changes the class that is found only if none stands above it. -/
theorem className?_joinLines_line {above : List Text}
    (exported : (className? (joinLines above)).isSome = true ∨ className? text = className? other)
    (below : List Text) :
    className? (joinLines (above ++ comment.line text :: below))
      = className? (joinLines (above ++ comment.line other :: below)) := by
  obtain ⟨before, after, ⟨more, rfl⟩, -, joined⟩ := exists_joinLines_eq above below
  have parts (text : Text) : className? (joinLines (above ++ comment.line text :: below))
      = (className? (joinLines above ++ (more ++ comment.head ++ "comment: ".toList))).or
        ((className? text).or (className? (comment.tail ++ after))) := by
    have stops : StopsAt '\'' classNameHere? := stopsAt_classNameHere? (by decide) (by decide)
    rw [joined, line, append_commented, commented_eq_quoted, className?,
      stops.findFrom?_append, stops.findFrom?_append]
    simp only [List.append_assoc, className?]
  rw [parts, parts]
  rcases exported with isAbove | same
  · -- The class above comes first, whatever the comment says.
    obtain ⟨name, found⟩ := Option.isSome_iff_exists.mp (isSome_className?_append isAbove _)
    rw [found, Option.some_or, Option.some_or]
  · rw [same]

end CommentLine

namespace Entity

/--
A comment is inert as long as its text leaves the same traces.

The class, and of each field all but its raw texts, stay the same when the text of a comment is
replaced by another one that balances its parentheses alike and spells the same attributes and, in a
decorator line, decorators; and the same class if none is declared above. The line must not be read
as a property itself, which can only happen below the first line of a block that never closes.
-/
theorem outline_commentLine (comment : CommentLine) {text otherText : Text} (plain : IsComment text)
    (otherPlain : IsComment otherText) (traces : comment.SameTraces text otherText)
    {source other : Text} {above below : List Text}
    (cut : sourceLines source = above ++ comment.line text :: below)
    (otherCut : sourceLines other = above ++ comment.line otherText :: below)
    (exported : (className? (joinLines above)).isSome = true ∨ className? text = className? otherText)
    (silent : NoPropertyAt (tokens source) (1 + above.length))
    (otherSilent : NoPropertyAt (tokens other) (1 + above.length)) :
    (ofSource? source).map (outline Field.traits) = (ofSource? other).map (outline Field.traits) := by
  rw [tokens, cut] at silent
  rw [tokens, otherCut] at otherSilent
  -- The tokens of both sources stay in step, so the fields that are made of them look alike.
  have run := inStep_exchange (traces.exchangeable plain otherPlain) silent otherSilent
  have fields := run.map_fieldsFrom .none Pending.InStep.traits_field
  rw [← Token.ofLines, ← cut, ← Token.ofLines, ← otherCut] at fields
  -- The class search reads raw text, so it has to be compared by itself.
  have className : className? source = className? other := by
    rw [← className?_joinLines_sourceLines source, ← className?_joinLines_sourceLines other, cut,
      otherCut, CommentLine.className?_joinLines_line exported]
  rw [ofSource?, ofSource?, className, Option.map_map, Option.map_map]
  congr 1
  funext name
  exact congrArg (fun seen => (name, withoutEntitySuffix name, seen)) fields

/-- A line of a column block with a comment at its end. -/
def lastLineComment : CommentLine where
  head := "    ".toList
  tail := " \x7d)".toList
  opens := by decide
  ends := by decide

/-- The lines of a class above that line. -/
def aboveLastLine : List Text :=
  ["export class A \x7b".toList, "  @Column(\x7b type: 'tinyint', width: 1,".toList]

/-- The lines of a class from that line on. -/
def fromLastLine (text : Text) : List Text :=
  lastLineComment.line text :: ["  x: T;".toList, "\x7d".toList]

/-- Below its header a class keeps its fields, with parentheses or a class name in the comment. -/
theorem outline_commentLine_lastLine :
    (ofSource? (joinLines (aboveLastLine ++ fromLastLine "first (draft)".toList))).map
        (outline Field.traits)
      = (ofSource? (joinLines (aboveLastLine ++ fromLastLine "export class B".toList))).map
        (outline Field.traits) := by
  have traces : lastLineComment.SameTraces "first (draft)".toList "export class B".toList := by
    refine ⟨?_, ?_, ?_, ?_⟩ <;> decide +kernel
  have cut : sourceLines (joinLines (aboveLastLine ++ fromLastLine "first (draft)".toList))
      = aboveLastLine ++ fromLastLine "first (draft)".toList := by decide +kernel
  have otherCut : sourceLines (joinLines (aboveLastLine ++ fromLastLine "export class B".toList))
      = aboveLastLine ++ fromLastLine "export class B".toList := by decide +kernel
  -- With either comment the line is the last one of a block that closes, so it is no property.
  have covered : ∀ text ∈ ["first (draft)".toList, "export class B".toList],
      ∃ token ∈ tokens (joinLines (aboveLastLine ++ fromLastLine text)),
        token.block?.isSome = true ∧ token.Covers 3 := by decide +kernel
  obtain ⟨token, member, isBlock, covers⟩ := covered _ List.mem_cons_self
  obtain ⟨otherToken, otherMember, otherIsBlock, otherCovers⟩ :=
    covered _ (List.mem_cons_of_mem _ List.mem_cons_self)
  exact outline_commentLine lastLineComment (by decide) (by decide) traces cut otherCut
    (.inl (by decide +kernel)) (noPropertyAt_of_covers member isBlock covers)
    (noPropertyAt_of_covers otherMember otherIsBlock otherCovers)

/-- A class whose first field has a comment in its column block. -/
def commentSource (text : Text) : Text :=
  "export class A \x7b\n  @Column(\x7b type: 'tinyint', comment: '".toList ++ text
    ++ "' \x7d)\n  x: T;\n  @Column(\x7b nullable: true \x7d)\n  y: U;\n\x7d".toList

/-- A class whose only column block is left open, with a comment in a line of its own. -/
def openCommentSource (text : Text) : Text :=
  "export class A \x7b\n  @Column(\x7b\n  comment: '".toList ++ text ++ "',\n  x: T;\n\x7d".toList

/-- A class below a column block with a comment. -/
def commentAboveSource (text : Text) : Text :=
  "@Column(\x7b comment: '".toList ++ text ++ "' \x7d)\nexport class A \x7b\n\x7d".toList

/--
Comments are not inert as such.

A parenthesis moves the end of the block, an attribute or a decorator in the comment counts as one
of the column, a semicolon makes a property of a line in an open block, and a class is found as well.
-/
theorem exists_comment_read :
    (∀ text ∈ ["(".toList, "nullable: true".toList, "width: 1".toList, "@OneToOne".toList,
        "@PrimaryGeneratedColumn".toList, "@CreateDateColumn".toList],
      IsComment text ∧ (ofSource? (commentSource text)).map (outline Field.traits)
        ≠ (ofSource? (commentSource [])).map (outline Field.traits))
    ∧ (ofSource? (openCommentSource "draft;".toList)).map (outline Field.traits)
      ≠ (ofSource? (openCommentSource "draft".toList)).map (outline Field.traits)
    ∧ (ofSource? (commentAboveSource "export class B".toList)).map (outline Field.traits)
      ≠ (ofSource? (commentAboveSource "class B".toList)).map (outline Field.traits) := by
  refine ⟨?_, ?_, ?_⟩ <;> decide +kernel

end Entity

end EntityDto
