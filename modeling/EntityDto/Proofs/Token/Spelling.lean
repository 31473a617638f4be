import EntityDto.Proofs.Token.Runs

/-!
Which lines declare a property: exactly those that spell a declaration, blanks around it apart. No
line spells a declaration in two ways.
-/

namespace EntityDto

open Text

namespace Declaration

/-- The mark is read off the character behind the name. -/
theorem Spelling.head?_tail (spelling : Spelling) :
    (spelling.tail.head? = some '?' ↔ spelling.mark = .optional)
    ∧ (spelling.tail.head? = some '!' ↔ spelling.mark = .definite) := by
  unfold tail
  cases spelling.mark with
  | plain =>
    -- A blank follows the name, or the colon.
    have noQuestion := head?_append_colon_ne spelling.gapBlank '?' (by decide) (by decide)
    have noExclamation := head?_append_colon_ne spelling.gapBlank '!' (by decide) (by decide)
    simp only [Mark.text, List.nil_append, noQuestion, noExclamation, reduceCtorEq, and_self]
  | optional => simp [Mark.text]
  | definite => simp [Mark.text]

/-- What is written behind two names is the same only if its parts are. -/
theorem Spelling.parts_eq_of_tail_eq {spelling other : Spelling}
    (same : spelling.tail = other.tail) :
    spelling.mark = other.mark ∧ spelling.gap = other.gap ∧ spelling.written = other.written
      ∧ spelling.rest = other.rest := by
  have sameMark : spelling.mark = other.mark := by
    obtain ⟨optional, definite⟩ := spelling.head?_tail
    rw [same, other.head?_tail.1] at optional
    rw [same, other.head?_tail.2] at definite
    -- There are three marks only, so two that are neither are the third.
    cases marked : spelling.mark <;> cases otherMarked : other.mark <;> simp_all
  unfold tail at same
  rw [sameMark, List.append_cancel_left_eq] at same
  -- The gap ends at the colon, for it is blank, and the type at its first semicolon.
  have colonStops (rest : Text) : ∀ char ∈ (':' :: rest).head?, isBlank char = false := by
    simp only [List.head?_cons, Option.mem_def, Option.some.injEq, forall_eq']
    decide
  obtain ⟨sameGap, behind⟩ := eq_of_append_eq spelling.gapBlank other.gapBlank
    (colonStops _) (colonStops _) same
  have goesOn (spelling : Spelling) : ∀ char ∈ spelling.written, (char != ';') = true := by
    intro char member
    rw [bne_iff_ne]
    rintro rfl
    exact spelling.writtenOpen member
  have stops (rest : Text) : ∀ char ∈ (';' :: rest).head?, (char != ';') = false := by simp
  obtain ⟨sameWritten, below⟩ := eq_of_append_eq (goesOn spelling) (goesOn other)
    (stops _) (stops _) (List.cons.inj behind).2
  exact ⟨sameMark, sameGap, sameWritten, (List.cons.inj below).2⟩

/-- A declared name is no modifier of another declaration, which would have its name behind. -/
theorem Spelling.append_tail_ne (spelling : Spelling) (modifier : Modifier) {word : Text}
    (isName : IsName word) (rest : Text) :
    spelling.name ++ spelling.tail ≠ modifier.text ++ (word ++ rest) := by
  intro same
  rw [Modifier.text, List.append_assoc] at same
  obtain ⟨-, tail⟩ := spelling.isName.eq_of_append_eq
    (isName_of_mem_modifiers _ modifier.listed) spelling.tail_ends
    (endsName_append modifier.nonempty modifier.blank _) same
  -- Behind the declared name and its blanks no name starts, but behind the modifier one does.
  have starts := spelling.trimStart_tail
  rw [tail, trimStart_append modifier.blank, trimStart_eq_self (isName.startsSolid rest)] at starts
  obtain ⟨first, word, rfl⟩ := List.exists_cons_of_ne_nil isName.ne_nil
  have noName := starts first rfl
  rw [isName.1] at noName
  cases noName

/-- Two declarations that are written alike have the same modifiers, and the same text behind. -/
theorem modifiers_eq_of_append_eq {spelling other : Spelling} {modifiers others : List Modifier}
    (same : modifiers.flatMap Modifier.text ++ (spelling.name ++ spelling.tail)
      = others.flatMap Modifier.text ++ (other.name ++ other.tail)) :
    modifiers = others ∧ spelling.name ++ spelling.tail = other.name ++ other.tail := by
  -- Modifiers are taken off both texts, one from each at a time.
  induction modifiers generalizing others with
  | nil =>
    cases others with
    | nil => exact ⟨rfl, same⟩
    | cons modifier others =>
      obtain ⟨word, rest, isName, split⟩ := other.exists_isName_append others
      rw [List.flatMap_cons, List.append_assoc, split] at same
      exact absurd same (spelling.append_tail_ne modifier isName rest)
  | cons modifier modifiers ih =>
    rw [List.flatMap_cons, List.append_assoc] at same
    cases others with
    | nil =>
      obtain ⟨word, rest, isName, split⟩ := spelling.exists_isName_append modifiers
      rw [split] at same
      exact absurd same.symm (other.append_tail_ne modifier isName rest)
    | cons otherModifier others =>
      rw [Modifier.text, List.append_assoc, flatMap_text_cons_append] at same
      -- The words end at their blanks, and these at the name or modifier behind them.
      obtain ⟨sameWord, behind⟩ := (isName_of_mem_modifiers _ modifier.listed).eq_of_append_eq
        (isName_of_mem_modifiers _ otherModifier.listed)
        (endsName_append modifier.nonempty modifier.blank _)
        (endsName_append otherModifier.nonempty otherModifier.blank _) same
      obtain ⟨sameBlanks, below⟩ := eq_of_append_eq modifier.blank otherModifier.blank
        (spelling.startsSolid modifiers) (other.startsSolid others) behind
      obtain ⟨rfl, unmodified⟩ := ih below
      have sameModifier : modifier = otherModifier := by
        cases modifier
        cases otherModifier
        rw [Modifier.mk.injEq]
        exact ⟨sameWord, sameBlanks⟩
      exact ⟨by rw [sameModifier], unmodified⟩

/-- A text spells a declaration in one way only. -/
theorem Spelling.text_injective : Function.Injective Spelling.text := by
  -- The parts are cut off the common text from the front, each where it has to end.
  intro spelling other same
  obtain ⟨sameModifiers, unmodified⟩ := modifiers_eq_of_append_eq same
  obtain ⟨sameName, sameTail⟩ :=
    spelling.isName.eq_of_append_eq other.isName spelling.tail_ends other.tail_ends unmodified
  obtain ⟨sameMark, sameGap, sameWritten, sameRest⟩ := parts_eq_of_tail_eq sameTail
  cases spelling
  cases other
  rw [mk.injEq]
  exact ⟨sameModifiers, sameName, sameMark, sameGap, sameWritten, sameRest⟩

end Declaration

namespace Token

/-- A token declares something exactly when it is a property of that declaration. -/
theorem declaration?_eq_some_iff {token : Token} {declaration : Declaration} :
    token.declaration? = some declaration ↔ token.kind = .property declaration := by
  unfold declaration?
  cases token.kind <;> simp

/-- Every token carries the line of its number, and declares what can be read from that line. -/
theorem declaration?_of_mem {number : Nat} {lines : List Text} {token : Token} {line : Text}
    (member : token ∈ ofLinesFrom number lines)
    (listed : lines[token.lineNumber - number]? = some line) :
    token.text = trim line ∧ token.declaration? = Declaration.read? (trim line) := by
  obtain ⟨above, run, below, rfl, numbered, made⟩ := exists_run_of_mem member
  obtain ⟨other, rest, rfl, text, declares⟩ := made.declaration?_eq
  -- The line of that number is the first one of the run.
  rw [numbered, Nat.add_sub_cancel_left] at listed
  obtain rfl : other = line := by simpa using listed
  exact ⟨text, declares⟩

/--
A line is a property exactly when, without the blanks around it, it spells the declaration: any
modifiers, each with blanks behind it, the name, perhaps a mark, blanks, a colon, and the type up to
the first semicolon. No line spells a declaration in two ways.

This is so for a line by itself and wherever a token stands at the line.
-/
theorem property_iff_spelled (line : Text) (declaration : Declaration) :
    (ofLines [line] = [⟨.property declaration, 1, trim line⟩] ↔
      ∃ spelling : Declaration.Spelling,
        trim line = spelling.text ∧ spelling.declaration = declaration)
    ∧ (∀ lines, ∀ token ∈ ofLines lines, lines[token.lineNumber - 1]? = some line →
      token.text = trim line ∧ (token.kind = .property declaration ↔
        ∃ spelling : Declaration.Spelling,
          trim line = spelling.text ∧ spelling.declaration = declaration))
    ∧ ∀ spelling other : Declaration.Spelling,
      trim line = spelling.text → trim line = other.text → spelling = other := by
  simp only [← Declaration.read?_eq_some_iff]
  refine ⟨?_, ?_, ?_⟩
  · constructor
    · intro tokens
      -- The property is the only token, and stands at the only line.
      have member : (⟨.property declaration, 1, trim line⟩ : Token) ∈ ofLines [line] := by
        rw [tokens]
        exact List.mem_cons_self
      exact (declaration?_of_mem member rfl).2.symm
    · intro isRead
      have plain := startsWith_eq_false_of_read? isRead
      rw [ofLines, ofLinesFrom_single (opensColumnBlock_eq_false plain),
        singleKind_of_read? isRead, ofLinesFrom]
  · intro lines token member listed
    obtain ⟨text, declares⟩ := declaration?_of_mem member listed
    exact ⟨text, by rw [← declaration?_eq_some_iff, declares]⟩
  · intro spelling other isSpelled otherSpelled
    exact Declaration.Spelling.text_injective (isSpelled.symm.trans otherSpelled)

/-- A property line with a modifier before its name, which is a modifier word itself. -/
def readonlyPublic : Declaration.Spelling where
  modifiers := [⟨"readonly".toList, [' ', ' '], by decide, List.cons_ne_nil _ _, by decide⟩]
  name := "public".toList
  mark := .optional
  gap := " ".toList
  written := ' ' :: "Date ".toList
  rest := "x: y;".toList
  isName := by decide
  gapBlank := by decide
  writtenNonempty := List.cons_ne_nil _ _
  writtenOpen := by decide

/-- The line below a column block is read in the one way in which it can be spelled. -/
theorem property_iff_spelled_readonlyPublic :
    trim "\treadonly  public? : Date ;x: y; ".toList = readonlyPublic.text
    ∧ ofLines ["\treadonly  public? : Date ;x: y; ".toList]
      = [⟨.property ⟨"public".toList, true, "Date".toList⟩, 1, readonlyPublic.text⟩]
    ∧ (∀ token ∈ ofLines ["@Column(\x7b".toList, "\x7d)".toList,
        "\treadonly  public? : Date ;x: y; ".toList], token.lineNumber = 3 →
      token.kind = .property ⟨"public".toList, true, "Date".toList⟩)
    ∧ ∀ other : Declaration.Spelling, readonlyPublic.text = other.text → readonlyPublic = other := by
  have isSpelled : trim "\treadonly  public? : Date ;x: y; ".toList = readonlyPublic.text := by
    decide +kernel
  have declares : readonlyPublic.declaration = ⟨"public".toList, true, "Date".toList⟩ := by
    decide +kernel
  -- Alone and below a block, the line is trimmed to the same spelling.
  obtain ⟨alone, listed, unique⟩ := property_iff_spelled
    "\treadonly  public? : Date ;x: y; ".toList ⟨"public".toList, true, "Date".toList⟩
  refine ⟨isSpelled, ?_, ?_, ?_⟩
  · rw [← isSpelled]
    exact alone.mpr ⟨readonlyPublic, isSpelled, declares⟩
  · intro token member third
    exact (listed _ token member (by rw [third]; rfl)).2.mpr ⟨readonlyPublic, isSpelled, declares⟩
  · exact fun other same => unique readonlyPublic other isSpelled (isSpelled.trans same)

end Token

end EntityDto
