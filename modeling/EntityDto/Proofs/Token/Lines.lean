import EntityDto.Proofs.Entity.Attachment
import EntityDto.Proofs.Text.Lines
import EntityDto.Proofs.Token.Declaration

/-! How each kind of line is classified, and what it does to the fields read below it. -/

namespace EntityDto

open Text

/-- The balances of two texts add up. -/
theorem parenBalance_append (front back : Text) :
    parenBalance (front ++ back) = parenBalance front + parenBalance back := by
  simp only [parenBalance, List.count_append]
  omega

/-- A text without parentheses is balanced. -/
theorem parenBalance_eq_zero {text : Text} (noOpening : '(' ∉ text) (noClosing : ')' ∉ text) :
    parenBalance text = 0 := by
  simp [parenBalance, List.count_eq_zero_of_not_mem noOpening,
    List.count_eq_zero_of_not_mem noClosing]

/-- Blanks are balanced. -/
theorem parenBalance_of_allBlank {blanks : Text} (blank : AllBlank blanks) :
    parenBalance blanks = 0 :=
  parenBalance_eq_zero (fun member => absurd (blank _ member) (by decide))
    (fun member => absurd (blank _ member) (by decide))

/-- Trimming takes no parenthesis away. -/
theorem parenBalance_trim (line : Text) : parenBalance (trim line) = parenBalance line := by
  -- The blanks around a line hold no parentheses.
  obtain ⟨before, after, beforeBlank, afterBlank, split⟩ := exists_trim_eq line
  conv_rhs => rw [split]
  rw [parenBalance_append, parenBalance_append, parenBalance_of_allBlank beforeBlank,
    parenBalance_of_allBlank afterBlank]
  omega

/-- How many parentheses some lines open beyond those they close. -/
def linesBalance : List Text → Int
  | [] => 0
  | line :: lines => parenBalance line + linesBalance lines

/-- A running balance closes at the first line where its whole sum is not above zero. -/
theorem closingIndex?_eq_some_iff {depth : Int} {lines : List Text} {index : Nat} :
    closingIndex? depth lines = some index ↔
      index < lines.length ∧ depth + linesBalance (lines.take (index + 1)) ≤ 0
        ∧ ∀ earlier < index, 0 < depth + linesBalance (lines.take (earlier + 1)) := by
  -- With each line the balance so far moves into the depth at which the rest starts.
  induction lines generalizing depth index with
  | nil => simp [closingIndex?]
  | cons line lines ih =>
    have step (count : Nat) : depth + linesBalance ((line :: lines).take (count + 1))
        = depth + parenBalance line + linesBalance (lines.take count) := by
      simp only [linesBalance, List.take_succ_cons]
      omega
    simp only [closingIndex?, step]
    by_cases closes : depth + parenBalance line ≤ 0
    · -- The first line closes, and no later one can be the first to do so.
      rw [if_pos closes, Option.some.injEq]
      constructor
      · rintro rfl
        exact ⟨by simp, by simpa [linesBalance] using closes, by simp⟩
      · rintro ⟨-, -, open_⟩
        by_contra later
        have opened := open_ 0 (by omega)
        simp only [linesBalance, List.take_zero] at opened
        omega
    · -- The first line does not close, so the index lies in the rest and is one less there.
      rw [if_neg closes, Option.map_eq_some_iff]
      constructor
      · rintro ⟨index, found, rfl⟩
        obtain ⟨within, closed, open_⟩ := ih.mp found
        refine ⟨by simpa using within, closed, ?_⟩
        intro earlier before
        cases earlier with
        | zero =>
          simp only [linesBalance, List.take_zero]
          omega
        | succ earlier => exact open_ earlier (by omega)
      · rintro ⟨within, closed, open_⟩
        cases index with
        | zero =>
          simp only [linesBalance, List.take_zero] at closed
          omega
        | succ index =>
          refine ⟨index, ih.mpr ⟨by simpa using within, closed, ?_⟩, rfl⟩
          intro earlier before
          exact open_ (earlier + 1) (by omega)

/-- Lines behind the closing one do not matter. -/
theorem closingIndex?_append {depth : Int} {lines : List Text} {index : Nat}
    (closes : closingIndex? depth lines = some index) (rest : List Text) :
    closingIndex? depth (lines ++ rest) = some index := by
  -- Only the lines up to the index are ever summed.
  rw [closingIndex?_eq_some_iff] at closes ⊢
  obtain ⟨within, closed, open_⟩ := closes
  refine ⟨by simp; omega, ?_, ?_⟩
  · rwa [List.take_append_of_le_length (by omega)]
  · intro earlier before
    rw [List.take_append_of_le_length (by omega)]
    exact open_ earlier before

/-- The balances of joined lines add up. -/
theorem parenBalance_joinLines (lines : List Text) :
    parenBalance (joinLines lines) = linesBalance lines := by
  have feed : parenBalance ['\n'] = 0 := by decide
  -- The line feeds between the lines count for nothing.
  induction lines with
  | nil => rfl
  | cons line lines ih =>
    by_cases last : lines = []
    · rw [last]
      exact (Int.add_zero _).symm
    · rw [joinLines_cons line last, parenBalance_append,
        ← List.singleton_append (l := joinLines lines), parenBalance_append, feed, ih, linesBalance]
      omega

/-- Lines that leave the balance open hand it on to the lines below them. -/
theorem closingIndex?_append_of_unclosed {depth : Int} {front : List Text}
    (unclosed : closingIndex? depth front = none) (back : List Text) :
    closingIndex? depth (front ++ back)
      = (closingIndex? (depth + linesBalance front) back).map (front.length + ·) := by
  induction front generalizing depth with
  | nil => simp [linesBalance]
  | cons line front ih =>
    rw [closingIndex?] at unclosed
    split at unclosed
    · simp at unclosed
    · next stillOpen =>
      -- The first line moves into the depth, and each place is one further down.
      rw [List.cons_append, closingIndex?, if_neg stillOpen,
        ih (Option.map_eq_none_iff.mp unclosed), linesBalance, Option.map_map, Int.add_assoc]
      congr 1
      funext index
      simp only [Function.comp_apply, List.length_cons]
      omega

/-- A balance that closes only behind some lines does not close inside them. -/
theorem length_le_of_closingIndex?_append {depth : Int} {front back : List Text} {index : Nat}
    (unclosed : closingIndex? depth front = none)
    (closes : closingIndex? depth (front ++ back) = some index) : front.length ≤ index := by
  rw [closingIndex?_append_of_unclosed unclosed, Option.map_eq_some_iff] at closes
  obtain ⟨place, -, rfl⟩ := closes
  exact Nat.le_add_right ..

/-- What never closes is open at the end. -/
theorem linesBalance_pos_of_unclosed {depth : Int} {lines : List Text}
    (isOpen : 0 < depth ∨ lines ≠ []) (unclosed : closingIndex? depth lines = none) :
    0 < depth + linesBalance lines := by
  -- The depth grows and shrinks with each line, and no line brings it down to zero.
  induction lines generalizing depth with
  | nil =>
    rcases isOpen with isOpen | empty
    · simpa [linesBalance] using isOpen
    · exact absurd rfl empty
  | cons line lines ih =>
    rw [closingIndex?] at unclosed
    split at unclosed
    · simp at unclosed
    · next stillOpen =>
      have below := ih (.inl (by omega)) (Option.map_eq_none_iff.mp unclosed)
      rw [linesBalance]
      omega

namespace Token

/-- A line that opens no column block is a token of its own. -/
theorem ofLinesFrom_single {line : Text} (single : opensColumnBlock (trim line) = false)
    (number : Nat) (rest : List Text) :
    ofLinesFrom number (line :: rest) =
      ⟨singleKind (trim line), number, trim line⟩ :: ofLinesFrom (number + 1) rest := by
  rw [ofLinesFrom]
  simp only [single, Bool.false_eq_true, if_false]

/-- A column block that closes takes its lines. -/
theorem ofLinesFrom_closed {line : Text} {rest : List Text} {index : Nat}
    (opens : opensColumnBlock (trim line) = true)
    (closes : closingIndex? 0 (line :: rest) = some index) (number : Nat) :
    ofLinesFrom number (line :: rest) =
      ⟨.columnBlock (joinLines (line :: rest.take index)) true, number, trim line⟩
        :: ofLinesFrom (number + index + 1) (rest.drop index) := by
  rw [ofLinesFrom]
  simp only [opens, if_true, closes]

/-- A column block that never closes takes its first line alone. -/
theorem ofLinesFrom_unclosed {line : Text} {rest : List Text}
    (opens : opensColumnBlock (trim line) = true)
    (unclosed : closingIndex? 0 (line :: rest) = none) (number : Nat) :
    ofLinesFrom number (line :: rest) =
      ⟨.columnBlock (joinLines (line :: rest)) false, number, trim line⟩
        :: ofLinesFrom (number + 1) rest := by
  rw [ofLinesFrom]
  simp only [opens, if_true, unclosed]

/-- A column block that closes takes its lines from wherever the lines go on below. -/
theorem ofLinesFrom_closed_append {line : Text} {rest : List Text} {index : Nat}
    (opens : opensColumnBlock (trim line) = true)
    (closes : closingIndex? 0 (line :: rest) = some index) (number : Nat) (back : List Text) :
    ofLinesFrom number (line :: rest ++ back) =
      ⟨.columnBlock (joinLines (line :: rest.take index)) true, number, trim line⟩
        :: ofLinesFrom (number + index + 1) (rest.drop index ++ back) := by
  -- The closing line lies above the back, so the block takes nothing of it.
  obtain ⟨inside, -, -⟩ := closingIndex?_eq_some_iff.mp closes
  rw [List.length_cons] at inside
  have closesToo := closingIndex?_append closes back
  rw [List.cons_append] at closesToo ⊢
  rw [ofLinesFrom_closed opens closesToo, List.take_append_of_le_length (by omega),
    List.drop_append_of_le_length (by omega)]

/-- A column block that closes behind some lines takes them all, and more lines up to its end. -/
theorem ofLinesFrom_closed_behind {first : Text} {rest run below : List Text} {place count : Nat}
    (opens : opensColumnBlock (trim first) = true)
    (closes : closingIndex? 0 (first :: rest ++ (run ++ below))
      = some ((first :: rest).length + place)) (counted : place + 1 = run.length + count)
    (number : Nat) :
    ofLinesFrom number (first :: rest ++ (run ++ below)) =
      ⟨.columnBlock (joinLines (first :: rest ++ (run ++ below.take count))) true, number, trim first⟩
        :: ofLinesFrom (number + ((first :: rest).length + place) + 1) (below.drop count) := by
  -- The closing line lies below the run, so the block takes all of it and some lines more.
  have asLength : (first :: rest).length + place = rest.length + (run.length + count) := by
    rw [List.length_cons]
    omega
  rw [List.cons_append] at closes ⊢
  rw [ofLinesFrom_closed opens closes, asLength, List.take_length_add_append,
    List.drop_length_add_append, List.take_length_add_append, List.drop_length_add_append]
  rfl

/-- The token with its line number counted from further up. -/
def shifted (distance : Nat) (token : Token) : Token :=
  { token with lineNumber := token.lineNumber + distance }

/-- Lines further down make the same tokens under higher numbers. -/
theorem ofLinesFrom_add (number distance : Nat) (lines : List Text) :
    ofLinesFrom (number + distance) lines = (ofLinesFrom number lines).map (shifted distance) := by
  -- The scan never looks at the number, it only counts it up with the lines.
  fun_induction ofLinesFrom number lines with
  | case1 => simp [ofLinesFrom]
  | case2 number line rest text opens index closes ih =>
    rw [ofLinesFrom_closed opens closes, List.map_cons, ← ih]
    have same : number + distance + index + 1 = number + index + 1 + distance := by omega
    rw [same]
    rfl
  | case3 number line rest text opens unclosed ih =>
    rw [ofLinesFrom_unclosed opens unclosed, List.map_cons, ← ih]
    have same : number + distance + 1 = number + 1 + distance := by omega
    rw [same]
    rfl
  | case4 number line rest text single ih =>
    rw [ofLinesFrom_single (by simpa using single), List.map_cons, ← ih]
    have same : number + distance + 1 = number + 1 + distance := by omega
    rw [same]
    rfl

end Token

/-- A column decorator is a decorator. -/
theorem startsWith_of_opensColumnBlock {text : Text} (opens : Token.opensColumnBlock text = true) :
    text.startsWith ['@'] = true := by
  simp only [Token.opensColumnBlock, Bool.and_eq_true, startsWith_iff] at opens
  obtain ⟨⟨rest, rfl⟩, -⟩ := opens
  exact startsWith_iff.mpr ⟨"Column(".toList ++ rest, rfl⟩

/-- What is no decorator opens no column block. -/
theorem opensColumnBlock_eq_false {text : Text} (plain : text.startsWith ['@'] = false) :
    Token.opensColumnBlock text = false := by
  rw [← Bool.not_eq_true] at plain ⊢
  exact fun opens => plain (startsWith_of_opensColumnBlock opens)

/-- A text that declares something is no decorator. -/
theorem startsWith_eq_false_of_read? {text : Text} {declaration : Declaration}
    (isRead : Declaration.read? text = some declaration) : text.startsWith ['@'] = false := by
  rw [← Bool.not_eq_true, startsWith_iff]
  rintro ⟨rest, rfl⟩
  -- No name starts with the sign of a decorator.
  rw [Declaration.read?_eq_none_of_head? (by
    intro char isHead
    cases Option.some.inj isHead
    decide)] at isRead
  simp at isRead

/-- A single line from which a declaration can be read is a property. -/
theorem Token.singleKind_of_read? {text : Text} {declaration : Declaration}
    (isRead : Declaration.read? text = some declaration) :
    singleKind text = .property declaration := by
  -- No declaration starts with the sign of a decorator, which would be looked for first.
  have plain := startsWith_eq_false_of_read? isRead
  simp only [singleKind, plain, Bool.false_eq_true, if_false, isRead]

/-- A single line declares what can be read from it. -/
theorem Token.declaration?_singleKind (text : Text) (number : Nat) :
    (Token.mk (singleKind text) number text).declaration? = Declaration.read? text := by
  -- A text that is read as a property starts no decorator, so the order of the tests is harmless.
  cases isRead : Declaration.read? text with
  | some declaration => rw [singleKind_of_read? isRead, declaration?]
  | none =>
    unfold declaration? singleKind
    by_cases decorates : text.startsWith ['@'] = true
    · simp only [decorates, if_true]
    · simp only [decorates, Bool.false_eq_true, if_false, isRead]

/-- Line numbers play no part in the fields. -/
theorem fieldsFrom_shifted (distance : Nat) (pending : Pending) (tokens : List Token) :
    fieldsFrom pending (tokens.map (Token.shifted distance)) = fieldsFrom pending tokens := by
  -- Fields are made of the kinds and texts of tokens, and these do not move.
  induction tokens generalizing pending with
  | nil => rfl
  | cons token tokens ih =>
    rw [List.map_cons, fieldsFrom_cons, fieldsFrom_cons, ih]
    rfl

/-- The fields read from lines on top of what waits for them. -/
def fieldsOfLines (pending : Pending) (lines : List Text) : List Field :=
  fieldsFrom pending (Token.ofLines lines)

/-- No lines make no fields, whatever waits. -/
@[simp] theorem fieldsOfLines_nil (pending : Pending) : fieldsOfLines pending [] = [] := by
  rw [fieldsOfLines, Token.ofLines, Token.ofLinesFrom, fieldsFrom]

/-- Wherever the lines stand, their fields are the same. -/
theorem fieldsFrom_ofLinesFrom (pending : Pending) (number : Nat) (lines : List Text) :
    fieldsFrom pending (Token.ofLinesFrom (number + 1) lines) = fieldsOfLines pending lines := by
  rw [Nat.add_comm, Token.ofLinesFrom_add, fieldsFrom_shifted]
  rfl

/-- A line by itself makes the field it declares, if any, and leaves what then waits. -/
theorem fieldsOfLines_cons {line : Text} (single : Token.opensColumnBlock (trim line) = false)
    (pending : Pending) (rest : List Text) :
    fieldsOfLines pending (line :: rest) =
      fieldsFrom pending [⟨Token.singleKind (trim line), 1, trim line⟩]
        ++ fieldsOfLines (pending.step ⟨Token.singleKind (trim line), 1, trim line⟩) rest := by
  -- The lines behind are numbered on, which their fields do not show.
  rw [fieldsOfLines, Token.ofLines, Token.ofLinesFrom_single single, ← List.singleton_append,
    fieldsFrom_append, fieldsFrom_ofLinesFrom]
  rfl

/-- A decorator line waits for the next property. -/
theorem fieldsOfLines_decorator {line : Text} (decorates : (trim line).startsWith ['@'] = true)
    (single : Token.opensColumnBlock (trim line) = false) (pending : Pending) (rest : List Text) :
    fieldsOfLines pending (line :: rest) =
      fieldsOfLines ⟨pending.decorators ++ [trim line], pending.columnMeta⟩ rest := by
  -- The line has the sign of a decorator and opens no block.
  have kind : Token.singleKind (trim line) = .decorator := by
    simp only [Token.singleKind, decorates, if_true]
  rw [fieldsOfLines_cons single, kind]
  rfl

/-- A line that is a decorator by itself. -/
structure IsDecorator (line : Text) : Prop where
  decorates : (trim line).startsWith ['@'] = true
  single : Token.opensColumnBlock (trim line) = false

instance (line : Text) : Decidable (IsDecorator line) :=
  decidable_of_iff
    ((trim line).startsWith ['@'] = true ∧ Token.opensColumnBlock (trim line) = false)
    ⟨fun ⟨decorates, single⟩ => ⟨decorates, single⟩,
      fun isDecorator => ⟨isDecorator.decorates, isDecorator.single⟩⟩

/-- Decorator lines wait together, in order. -/
theorem fieldsOfLines_decorators {decorators : List Text}
    (each : ∀ line ∈ decorators, IsDecorator line) (pending : Pending) (rest : List Text) :
    fieldsOfLines pending (decorators ++ rest) =
      fieldsOfLines ⟨pending.decorators ++ decorators.map trim, pending.columnMeta⟩ rest := by
  -- Each line goes behind those that wait already.
  induction decorators generalizing pending with
  | nil => simp
  | cons line decorators ih =>
    have first := each line (by simp)
    have others : ∀ other ∈ decorators, IsDecorator other :=
      fun other member => each other (by simp [member])
    rw [List.cons_append, fieldsOfLines_decorator first.decorates first.single, ih others]
    simp

/-- A property line makes a field of what waits for it. -/
theorem fieldsOfLines_property {line : Text} {declaration : Declaration}
    (isRead : Declaration.read? (trim line) = some declaration) (pending : Pending)
    (rest : List Text) :
    fieldsOfLines pending (line :: rest) =
      pending.field declaration :: fieldsOfLines .none rest := by
  have plain := startsWith_eq_false_of_read? isRead
  rw [fieldsOfLines_cons (opensColumnBlock_eq_false plain), Token.singleKind_of_read? isRead]
  rfl

/-- A line that neither decorates nor declares. -/
structure IsSkipped (line : Text) : Prop where
  plain : (trim line).startsWith ['@'] = false
  silent : Declaration.read? (trim line) = none

/-- A line by itself is a decorator, declares a property, or does neither. -/
theorem singleKind_cases (line : Text) :
    ((trim line).startsWith ['@'] = true ∧ Token.singleKind (trim line) = .decorator)
    ∨ (∃ declaration, Declaration.read? (trim line) = some declaration
        ∧ Token.singleKind (trim line) = .property declaration)
    ∨ (IsSkipped line ∧ Token.singleKind (trim line) = .other) := by
  -- The sign of a decorator is looked for first, and a property only where it is missing.
  unfold Token.singleKind
  split
  · next signed => exact .inl ⟨signed, rfl⟩
  · next plain =>
    split
    · next declaration isRead => exact .inr (.inl ⟨declaration, isRead, rfl⟩)
    · next silent => exact .inr (.inr ⟨⟨by simpa using plain, silent⟩, rfl⟩)

/-- A line that neither decorates nor declares makes a token of no other kind. -/
theorem IsSkipped.singleKind_eq {line : Text} (skipped : IsSkipped line) :
    Token.singleKind (trim line) = .other := by
  simp only [Token.singleKind, skipped.plain, Bool.false_eq_true, if_false, skipped.silent]

/-- A line that is no decorator is passed over when it makes no property token by itself. -/
theorem isSkipped_of_ofLines {line : Text} (plain : (trim line).startsWith ['@'] = false)
    (silent : ∀ token ∈ Token.ofLines [line], token.declaration? = none) : IsSkipped line := by
  refine ⟨plain, ?_⟩
  -- Its only token declares what can be read from it.
  have token := silent ⟨Token.singleKind (trim line), 1, trim line⟩ (by
    rw [Token.ofLines, Token.ofLinesFrom_single (opensColumnBlock_eq_false plain)]
    exact List.mem_cons_self)
  rwa [Token.declaration?_singleKind] at token

/-- A line that starts with neither a name nor the sign of a decorator is passed over. -/
theorem isSkipped_of_head? {line : Text}
    (noName : ∀ char ∈ (trim line).head?, char ≠ '@' ∧ Declaration.startsName char = false) :
    IsSkipped line where
  plain := by
    rw [← Bool.not_eq_true, startsWith_iff]
    rintro ⟨rest, split⟩
    exact (noName '@' (by rw [split]; rfl)).1 rfl
  silent := Declaration.read?_eq_none_of_head? fun char isHead => (noName char isHead).2

/-- A closing brace is passed over. -/
theorem isSkipped_brace : IsSkipped ['\x7d'] := by
  -- A brace is neither the sign of a decorator nor the start of a name.
  apply isSkipped_of_head?
  intro char isHead
  cases Option.some.inj (show some '\x7d' = some char from isHead)
  decide

/-- A line that starts with a word is passed over unless the word is a modifier or named. -/
theorem isSkipped_of_word {word rest : Text} (isName : Declaration.IsName word)
    (notModifier : word ∉ Declaration.modifiers) (nonempty : rest ≠ []) (starts : StartsSolid rest)
    (ends : EndsSolid rest) (noColon : rest.head? ≠ some ':') :
    IsSkipped (word ++ ([' '] ++ rest)) := by
  -- Both ends are solid, so trimming leaves the line alone.
  have trimmed : trim (word ++ ([' '] ++ rest)) = word ++ ([' '] ++ rest) := by
    refine trim_eq_self (isName.startsSolid _) ?_
    rw [EndsSolid, ← List.append_assoc, List.getLast?_append_of_ne_nil _ nonempty]
    exact ends
  constructor
  · rw [trimmed, ← Bool.not_eq_true, startsWith_iff]
    rintro ⟨back, split⟩
    -- No name starts with the sign of a decorator.
    obtain ⟨first, word, rfl⟩ := List.exists_cons_of_ne_nil isName.ne_nil
    have isSign : first = '@' := (List.cons.inj split).1
    have starts := isName.1
    rw [isSign] at starts
    exact absurd starts (by decide)
  · rw [trimmed]
    exact Declaration.read?_eq_none_of_word isName notModifier (by simp) (by decide) starts noColon

/-- A line that neither decorates nor declares is passed over. -/
theorem fieldsOfLines_skipped {line : Text} (skipped : IsSkipped line) (pending : Pending)
    (rest : List Text) : fieldsOfLines pending (line :: rest) = fieldsOfLines pending rest := by
  rw [fieldsOfLines_cons (opensColumnBlock_eq_false skipped.plain), skipped.singleKind_eq]
  rfl

/-- Lines that neither decorate nor declare are passed over together. -/
theorem fieldsOfLines_skipped_append {lines : List Text} (each : ∀ line ∈ lines, IsSkipped line)
    (pending : Pending) (rest : List Text) :
    fieldsOfLines pending (lines ++ rest) = fieldsOfLines pending rest := by
  -- Each skipped line leaves what waits as it is.
  induction lines with
  | nil => rfl
  | cons line lines ih =>
    have others : ∀ other ∈ lines, IsSkipped other :=
      fun other member => each other (by simp [member])
    rw [List.cons_append, fieldsOfLines_skipped (each line (by simp)), ih others]

/-- A column block that closes with its last line waits for the next property. -/
theorem fieldsOfLines_block {line : Text} {lines : List Text}
    (opens : Token.opensColumnBlock (trim line) = true)
    (closes : closingIndex? 0 (line :: lines) = some lines.length) (pending : Pending)
    (rest : List Text) :
    fieldsOfLines pending (line :: (lines ++ rest)) =
      fieldsOfLines ⟨pending.decorators ++ [trim line], some (joinLines (line :: lines))⟩ rest := by
  -- Lines further down do not move the closing line, so the scan goes on right at the rest.
  have closesHere : closingIndex? 0 (line :: (lines ++ rest)) = some lines.length :=
    closingIndex?_append closes rest
  rw [fieldsOfLines, Token.ofLines, Token.ofLinesFrom_closed opens closesHere,
    ← List.singleton_append, fieldsFrom_append, List.take_left, List.drop_left,
    fieldsFrom_ofLinesFrom]
  rfl

end EntityDto
