import EntityDto.Proofs.Text.Trim
import EntityDto.Text.Word

/-! What the scanners of text find when the text is put together from known parts. -/

namespace EntityDto.Text

/-- A span stops where the class of its characters does. -/
theorem takeWhile_append_of_stop {keep : Char → Bool} {body rest : Text}
    (inside : ∀ char ∈ body, keep char = true) (stop : ∀ char ∈ rest.head?, keep char = false) :
    (body ++ rest).takeWhile keep = body := by
  rw [List.takeWhile_append_of_pos inside]
  -- Behind the body the span goes no further, for there is nothing or a character that stops it.
  cases rest with
  | nil => simp
  | cons char rest =>
    have charStops := stop char rfl
    simp [charStops]

/-- What follows a span is left untouched. -/
theorem dropWhile_append_of_stop {keep : Char → Bool} {body rest : Text}
    (inside : ∀ char ∈ body, keep char = true) (stop : ∀ char ∈ rest.head?, keep char = false) :
    (body ++ rest).dropWhile keep = rest := by
  rw [List.dropWhile_append_of_pos inside]
  -- The first character behind the body stays, and all the rest with it.
  cases rest with
  | nil => rfl
  | cons char rest =>
    have charStops := stop char rfl
    simp [charStops]

/-- A span goes no further into what follows the body, wherever in the body it ends. -/
theorem takeWhile_append_of_head {keep : Char → Bool} {rest : Text}
    (stop : ∀ char ∈ rest.head?, keep char = false) (body : Text) :
    (body ++ rest).takeWhile keep = body.takeWhile keep
      ∧ (body ++ rest).dropWhile keep = body.dropWhile keep ++ rest := by
  -- A body that ends early is not concerned, and one that is kept ends where the rest begins.
  induction body with
  | nil =>
    have none : ∀ char ∈ ([] : Text), keep char = true := List.forall_mem_nil _
    exact ⟨takeWhile_append_of_stop none stop, dropWhile_append_of_stop none stop⟩
  | cons char body ih =>
    obtain ⟨taken, dropped⟩ := ih
    rw [List.cons_append, List.takeWhile_cons, List.dropWhile_cons, List.takeWhile_cons,
      List.dropWhile_cons, taken, dropped]
    split <;> exact ⟨rfl, rfl⟩

/-- Two texts that are the same have the same span in front, wherever it ends in both. -/
theorem eq_of_append_eq {keep : Char → Bool} {body other rest otherRest : Text}
    (inside : ∀ char ∈ body, keep char = true) (otherInside : ∀ char ∈ other, keep char = true)
    (stop : ∀ char ∈ rest.head?, keep char = false)
    (otherStop : ∀ char ∈ otherRest.head?, keep char = false)
    (same : body ++ rest = other ++ otherRest) : body = other ∧ rest = otherRest := by
  -- Either side is cut where its first character that is not kept stands.
  have spans := congrArg (List.takeWhile keep) same
  have behind := congrArg (List.dropWhile keep) same
  rw [takeWhile_append_of_stop inside stop, takeWhile_append_of_stop otherInside otherStop] at spans
  rw [dropWhile_append_of_stop inside stop, dropWhile_append_of_stop otherInside otherStop]
    at behind
  exact ⟨spans, behind⟩

/-- A front without the character in the middle ends before it, if it is there at all. -/
theorem after?_append_cons {front : Text} {stop : Char} (noStop : stop ∉ front) (text rest : Text) :
    after? front (text ++ stop :: rest) = (after? front text).map (· ++ stop :: rest) := by
  -- Character by character, until the front is used up or meets the stop, which it does not hold.
  induction front generalizing text with
  | nil => rfl
  | cons wanted front ih =>
    simp only [List.mem_cons, not_or] at noStop
    cases text with
    | nil => simp [after?, Ne.symm noStop.1]
    | cons char text =>
      by_cases same : wanted = char
      · simp only [List.cons_append, after?, if_pos same, ih noStop.2]
      · simp [after?, same]

/-- A text that starts with another character than the front does not start with the front. -/
theorem after?_eq_none_of_ne {wanted char : Char} (different : wanted ≠ char) (front text : Text) :
    after? (wanted :: front) (char :: text) = none := by
  simp [after?, different]

/-- A text starts with a front exactly when it is that front with something behind. -/
theorem startsWith_iff {text front : Text} :
    text.startsWith front = true ↔ ∃ rest, text = front ++ rest := by
  simp only [startsWith, Option.isSome_iff_exists, after?_eq_some_iff]

/-- A text ends with a back exactly when it is that back with something before it. -/
theorem endsWith_iff {text back : Text} :
    text.endsWith back = true ↔ ∃ rest, text = rest ++ back := by
  simp only [endsWith, Option.isSome_iff_exists, before?_eq_some_iff]

/-- A run of blanks is skipped exactly when there is one, and it is skipped to its end. -/
theorem afterBlanks?_eq_some_iff {text rest : Text} :
    afterBlanks? text = some rest ↔
      ∃ blanks, blanks ≠ [] ∧ AllBlank blanks ∧ StartsSolid rest ∧ text = blanks ++ rest := by
  constructor
  · intro found
    cases text with
    | nil => simp [afterBlanks?] at found
    | cons char text =>
      simp only [afterBlanks?] at found
      split at found
      · next blank =>
        simp only [Option.some.injEq] at found
        subst found
        -- The run is the first blank and those that are skipped with it.
        refine ⟨char :: text.takeWhile isBlank, by simp, ?_, startsSolid_trimStart text, ?_⟩
        · intro other member
          rcases List.mem_cons.mp member with rfl | member
          · exact blank
          · exact List.mem_takeWhile_imp member
        · simp [trimStart]
      · simp at found
  · rintro ⟨blanks, nonempty, blank, solid, rfl⟩
    -- Conversely the skip runs through the given blanks and stops at the solid rest.
    obtain ⟨char, blanks, rfl⟩ := List.exists_cons_of_ne_nil nonempty
    have charBlank : isBlank char = true := blank char (by simp)
    have restBlank : AllBlank blanks := fun other member => blank other (by simp [member])
    simp only [List.cons_append, afterBlanks?, if_pos charBlank, trimStart_append restBlank,
      trimStart_eq_self solid]

/-- Something holds somewhere in a text exactly when it holds of what is behind some front. -/
theorem holdsSomewhere_iff {test : Text → Bool} {text : Text} :
    holdsSomewhere test text = true ↔ ∃ front back, text = front ++ back ∧ test back = true := by
  induction text with
  | nil =>
    simp only [holdsSomewhere]
    constructor
    · intro holds
      exact ⟨[], [], rfl, holds⟩
    · rintro ⟨front, back, split, holds⟩
      -- The empty text has only one place.
      obtain ⟨rfl, rfl⟩ := List.nil_eq_append_iff.mp split
      exact holds
  | cons char text ih =>
    simp only [holdsSomewhere, Bool.or_eq_true, ih]
    constructor
    · rintro (holds | ⟨front, back, rfl, holds⟩)
      · exact ⟨[], char :: text, rfl, holds⟩
      · exact ⟨char :: front, back, rfl, holds⟩
    · rintro ⟨front, back, split, holds⟩
      -- The place is the very start, or it lies behind the first character.
      cases front with
      | nil =>
        rw [List.nil_append] at split
        exact .inl (split ▸ holds)
      | cons first front =>
        rw [List.cons_append, List.cons.injEq] at split
        exact .inr ⟨front, back, split.2, holds⟩

/-- A part occurs in a text exactly when something stands before it and something behind. -/
theorem contains_iff {text part : Text} : text.contains part = true ↔ part <:+: text := by
  rw [Text.contains, holdsSomewhere_iff]
  -- The place where the part starts splits the text, and the part splits what is there.
  constructor
  · rintro ⟨front, back, rfl, starts⟩
    obtain ⟨rest, rfl⟩ := startsWith_iff.mp starts
    exact ⟨front, rest, List.append_assoc ..⟩
  · rintro ⟨front, rest, rfl⟩
    exact ⟨front, part ++ rest, List.append_assoc .., startsWith_iff.mpr ⟨rest, rfl⟩⟩

/-- A place where nothing is found is passed over. -/
theorem findFrom?_cons_of_none {read : Text → Option α} {char : Char} {rest : Text}
    (nothing : read (char :: rest) = none) :
    findFrom? read (char :: rest) = findFrom? read rest := by
  simp only [findFrom?, nothing]

/-- What is found right at the start is what is found. -/
theorem findFrom?_of_some {read : Text → Option α} {text : Text} {found : α}
    (here : read text = some found) : findFrom? read text = some found := by
  cases text with
  | nil => exact here
  | cons char text => simp only [findFrom?, here]

/-- What is found is what is read at the leftmost place where anything can be read. -/
theorem findFrom?_eq_some_iff {read : Text → Option α} {text : Text} {found : α} :
    findFrom? read text = some found ↔
      ∃ front back, text = front ++ back ∧ read back = some found
        ∧ ∀ before behind, text = before ++ behind → before.length < front.length →
          read behind = none := by
  induction text with
  | nil =>
    constructor
    · intro here
      exact ⟨[], [], rfl, here, fun before behind _ shorter => absurd shorter (by simp)⟩
    · rintro ⟨front, back, split, here, -⟩
      -- The empty text has only one place.
      obtain ⟨rfl, rfl⟩ := List.nil_eq_append_iff.mp split
      exact here
  | cons char text ih =>
    cases here : read (char :: text) with
    | some first =>
      rw [findFrom?_of_some here]
      constructor
      · intro same
        exact ⟨[], char :: text, rfl, here.trans same,
          fun before behind _ shorter => absurd shorter (by simp)⟩
      · rintro ⟨front, back, split, isRead, leftmost⟩
        cases front with
        | nil =>
          rw [List.nil_append] at split
          rw [← here, split, isRead]
        | cons next front =>
          -- Any later place would have this one on its left.
          have nothing := leftmost [] (char :: text) rfl (by simp)
          rw [here] at nothing
          cases nothing
    | none =>
      -- Nothing is read here, so the places are those behind the first character.
      rw [findFrom?_cons_of_none here, ih]
      constructor
      · rintro ⟨front, back, rfl, isRead, leftmost⟩
        refine ⟨char :: front, back, rfl, isRead, ?_⟩
        intro before behind split shorter
        cases before with
        | nil =>
          rw [List.nil_append] at split
          rw [← split, here]
        | cons next before =>
          rw [List.cons_append, List.cons.injEq] at split
          exact leftmost before behind split.2 (by simpa using shorter)
      · rintro ⟨front, back, split, isRead, leftmost⟩
        cases front with
        | nil =>
          rw [List.nil_append] at split
          rw [split, isRead] at here
          cases here
        | cons next front =>
          rw [List.cons_append, List.cons.injEq] at split
          refine ⟨front, back, split.2, isRead, ?_⟩
          intro before behind same shorter
          exact leftmost (char :: before) behind (by rw [same, List.cons_append]) (by simpa using shorter)

/-- Something is found exactly when something can be read somewhere. -/
theorem isSome_findFrom? (read : Text → Option α) (text : Text) :
    (findFrom? read text).isSome = holdsSomewhere (fun place => (read place).isSome) text := by
  -- The search and the test advance together, and stop at the same place.
  induction text with
  | nil => rfl
  | cons char text ih =>
    cases here : read (char :: text) <;> simp [findFrom?, holdsSomewhere, here, ih]

/-- A test as a reader that finds nothing more than that the test holds. -/
def asReader (test : Text → Bool) (place : Text) : Option Unit :=
  if test place then some () else none

/-- A test holds somewhere exactly when its reader finds something. -/
theorem holdsSomewhere_eq_isSome (test : Text → Bool) (text : Text) :
    holdsSomewhere test text = (findFrom? (asReader test) text).isSome := by
  -- A test is a search that tells nothing but that it succeeds.
  have same : (fun place => (asReader test place).isSome) = test := by
    funext place
    cases holds : test place <;> simp [asReader, holds]
  rw [isSome_findFrom?, same]

/-- A solid character shields what stands behind it from the skip of blanks. -/
theorem trimStart_append_cons {stop : Char} (solid : isBlank stop = false) (text rest : Text) :
    trimStart (text ++ stop :: rest) = trimStart text ++ stop :: rest := by
  induction text with
  | nil => exact trimStart_eq_self (startsSolid_cons solid rest)
  | cons char text ih =>
    -- Blanks in front are trimmed one by one, and the stop ends them at the latest.
    by_cases blank : isBlank char = true
    · rw [List.cons_append, trimStart_cons blank, trimStart_cons blank, ih]
    · have charSolid : isBlank char = false := by simpa using blank
      rw [List.cons_append, trimStart_eq_self (startsSolid_cons charSolid _),
        trimStart_eq_self (startsSolid_cons charSolid _), List.cons_append]

/-- A run of blanks ends before a solid character, if it is there at all. -/
theorem afterBlanks?_append_cons {stop : Char} (solid : isBlank stop = false) (text rest : Text) :
    afterBlanks? (text ++ stop :: rest) = (afterBlanks? text).map (· ++ stop :: rest) := by
  -- The first character decides whether blanks are there, which is the stop in an empty text.
  cases text with
  | nil => simp [afterBlanks?, solid]
  | cons char text =>
    by_cases blank : isBlank char = true
    · simp only [List.cons_append, afterBlanks?, if_pos blank, trimStart_append_cons solid,
        Option.map_some]
    · simp [afterBlanks?, blank]

/-- What is read before the character does not depend on the character and what is behind it. -/
def StopsAt {β : Type} (stop : Char) (read : Text → β) : Prop :=
  ∀ front back, read (front ++ stop :: back) = read front

/-- A search that never reads across a character goes through the two parts one by one. -/
theorem StopsAt.findFrom?_append {stop : Char} {read : Text → Option α} (stops : StopsAt stop read)
    (front back : Text) :
    findFrom? read (front ++ stop :: back) = (findFrom? read front).or (findFrom? read back) := by
  induction front with
  | nil =>
    -- At the character itself the search finds what it finds at the end of the front.
    have here := stops [] back
    rw [List.nil_append] at here ⊢
    simp only [findFrom?, here]
    cases read [] <;> rfl
  | cons char front ih =>
    have here := stops (char :: front) back
    rw [List.cons_append] at here ⊢
    simp only [findFrom?, here, ih]
    cases read (char :: front) <;> rfl

/-- A test that never reads across a character holds somewhere before it or somewhere behind. -/
theorem StopsAt.holdsSomewhere_append {stop : Char} {test : Text → Bool} (stops : StopsAt stop test)
    (front back : Text) :
    holdsSomewhere test (front ++ stop :: back) =
      (holdsSomewhere test front || holdsSomewhere test back) := by
  -- What holds of a search that stops there holds of the test as such a search.
  have reads : StopsAt stop (asReader test) := fun front back => by
    rw [asReader, asReader, stops front back]
  rw [holdsSomewhere_eq_isSome, holdsSomewhere_eq_isSome, holdsSomewhere_eq_isSome,
    reads.findFrom?_append, Option.isSome_or]

/-- What the test fails at is passed over, up to a character and with it. -/
theorem holdsSomewhere_append_of_fails {test : Text → Bool} {stop : Char} {front back : Text}
    (fails : ∀ place, place <:+ front → test (place ++ stop :: back) = false) :
    holdsSomewhere test (front ++ stop :: back) = holdsSomewhere test back := by
  -- The search passes the front place by place, and each place is an end of the front.
  induction front with
  | nil =>
    have atStop := fails [] List.suffix_rfl
    rw [List.nil_append] at atStop ⊢
    rw [holdsSomewhere, atStop, Bool.false_or]
  | cons char front ih =>
    have here := fails (char :: front) List.suffix_rfl
    rw [List.cons_append] at here ⊢
    rw [holdsSomewhere, here, Bool.false_or]
    exact ih fun place inside => fails place (inside.trans (List.suffix_cons char front))

/-- No blank code is the code of a letter, digit or numeral beyond ASCII. -/
theorem blankCodes_apart :
    ∀ word ∈ wordCodes, ∀ blank ∈ blankCodes, word.2 < blank.1 ∨ blank.2 < word.1 := by
  decide +kernel

/-- A word character is not blank. -/
theorem isBlank_eq_false_of_isWord {char : Char} (word : isWord char = true) :
    isBlank char = false := by
  rw [← Bool.not_eq_true]
  intro blank
  unfold isWord at word
  split at word
  · -- The blank ASCII characters have codes below those of digits, letters and the underscore.
    next ascii =>
    simp only [isBlank, CodeRanges.has, blankCodes, List.any_cons, List.any_nil, Bool.or_eq_true,
      Bool.and_eq_true, decide_eq_true_eq, Bool.or_false] at blank
    have low : char.toNat ≤ 0x20 := by omega
    simp only [isCapital, isSmall, isDigit, Bool.or_eq_true, Bool.and_eq_true, decide_eq_true_eq,
      Char.le_def, UInt32.le_iff_toNat_le] at word
    rcases word with ((word | word) | word) | rfl
    · have : 65 ≤ char.toNat := word.1
      omega
    · have : 97 ≤ char.toNat := word.1
      omega
    · have : 48 ≤ char.toNat := word.1
      omega
    · revert low
      decide
  · -- Beyond ASCII the two tables have no code in common.
    simp only [isBlank, CodeRanges.has, List.any_eq_true, Bool.and_eq_true, decide_eq_true_eq]
      at blank word
    obtain ⟨blankRange, blankListed, blankLow, blankHigh⟩ := blank
    obtain ⟨wordRange, wordListed, wordLow, wordHigh⟩ := word
    have apart := blankCodes_apart wordRange wordListed blankRange blankListed
    omega

/-- Every character of the text is part of a word. -/
def AllWord (text : Text) : Prop :=
  ∀ char ∈ text, isWord char = true

instance (text : Text) : Decidable (AllWord text) :=
  List.decidableBAll (fun char => isWord char = true) text

/-- A word before the text ends where the text starts. -/
def EndsWord (text : Text) : Prop :=
  ∀ char ∈ text.head?, isWord char = false

instance (text : Text) : Decidable (EndsWord text) :=
  Option.decidableForallMem text.head?

/-- Where the front is empty, the word ends at the back. -/
theorem EndsWord.append {front back : Text} (frontEnds : EndsWord front) (backEnds : EndsWord back) :
    EndsWord (front ++ back) := by
  cases front with
  | nil => exact backEnds
  | cons char front => exact frontEnds

/-- A word holds no character that ends one. -/
theorem AllWord.not_mem {name : Text} {stop : Char} (word : AllWord name)
    (ends : isWord stop = false) : stop ∉ name := by
  intro member
  rw [word stop member] at ends
  exact Bool.false_ne_true ends.symm

end EntityDto.Text
