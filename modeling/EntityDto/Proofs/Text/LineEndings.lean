import EntityDto.Proofs.Text.Lines
import EntityDto.Text.Word

/-!
Texts whose carriage returns all stand before line feeds read the same without them: every scanner
of the library takes such a pair for what the line feed alone would be.
-/

namespace EntityDto.Text

/-- Each carriage return stands right before a line feed. -/
def ReturnsPaired (text : Text) : Prop :=
  ∀ front back, text = front ++ '\r' :: back → back.head? = some '\n'

/-- Replaces each carriage return that has a line feed behind it by that line feed. -/
def mergeBreaks : Text → Text
  | [] => []
  | '\r' :: '\n' :: rest => '\n' :: mergeBreaks rest
  | char :: rest => char :: mergeBreaks rest

/-- What follows the first character of a paired text is paired. -/
theorem ReturnsPaired.tail {char : Char} {rest : Text} (paired : ReturnsPaired (char :: rest)) :
    ReturnsPaired rest :=
  fun front back split => paired (char :: front) back (by simp [split])

/-- In a paired text a carriage return opens a pair. -/
theorem ReturnsPaired.followed {rest : Text} (paired : ReturnsPaired ('\r' :: rest)) :
    rest.head? = some '\n' :=
  paired [] rest rfl

/-- A text is paired when its rest is, and its first character is no return or opens a pair. -/
theorem returnsPaired_cons_iff {char : Char} {rest : Text} :
    ReturnsPaired (char :: rest) ↔ (char = '\r' → rest.head? = some '\n') ∧ ReturnsPaired rest := by
  constructor
  · intro paired
    exact ⟨fun isReturn => (isReturn ▸ paired).followed, paired.tail⟩
  · rintro ⟨opens, paired⟩ front back split
    -- The return is the first character, or stands behind it.
    cases front with
    | nil =>
      obtain ⟨isReturn, rfl⟩ := List.cons.inj split
      exact opens isReturn
    | cons first front =>
      obtain ⟨-, split⟩ := List.cons.inj split
      exact paired front back split

instance ReturnsPaired.instDecidable : DecidablePred ReturnsPaired
  | [] => isTrue fun front back split => absurd split.symm (by simp)
  | _ :: rest =>
    have := ReturnsPaired.instDecidable rest
    decidable_of_iff _ returnsPaired_cons_iff.symm

/-- Outside a pair, no character of a paired text is a carriage return. -/
theorem ReturnsPaired.ne_return {char : Char} {rest : Text} (paired : ReturnsPaired (char :: rest))
    (noPair : ∀ back, char = '\r' → rest = '\n' :: back → False) : char ≠ '\r' := by
  -- A carriage return would open a pair after all.
  rintro rfl
  obtain ⟨back, split⟩ := List.head?_eq_some_iff.mp paired.followed
  exact noPair back rfl split

/-- Merging breaks keeps the source lines. -/
theorem sourceLines_mergeBreaks {text : Text} (paired : ReturnsPaired text) :
    sourceLines (mergeBreaks text) = sourceLines text := by
  fun_induction mergeBreaks text with
  | case1 => rfl
  | case2 rest ih =>
    -- Alone or in a pair, the feed closes the line.
    simp only [sourceLines, ih paired.tail.tail]
  | case3 char rest noPair ih =>
    have noReturn := paired.ne_return noPair
    by_cases isFeed : char = '\n'
    · subst isFeed
      simp only [sourceLines, ih paired.tail]
    · -- The character goes in front of the same first line on both sides.
      obtain ⟨line, lines, cut⟩ := List.exists_cons_of_ne_nil (sourceLines_ne_nil rest)
      rw [sourceLines_cons isFeed (fun same => absurd same noReturn) cut,
        sourceLines_cons isFeed (fun same => absurd same noReturn) ((ih paired.tail).trans cut)]

/-- Joining the source lines of a text merges its breaks. -/
theorem joinLines_sourceLines (text : Text) : joinLines (sourceLines text) = mergeBreaks text := by
  -- A line that is put in front of others is joined to them with a line feed.
  have feed (rest : Text) : joinLines ([] :: sourceLines rest) = '\n' :: joinLines (sourceLines rest) :=
    joinLines_cons [] (sourceLines_ne_nil rest)
  fun_induction mergeBreaks text with
  | case1 => rfl
  | case2 rest ih => rw [sourceLines, feed, ih]
  | case3 char rest noPair ih =>
    by_cases isFeed : char = '\n'
    · subst isFeed
      rw [sourceLines, feed, ih]
    · -- The character goes in front of the first line, and so in front of all joined lines.
      obtain ⟨line, lines, cut⟩ := List.exists_cons_of_ne_nil (sourceLines_ne_nil rest)
      have opensNoPair : char = '\r' → rest.head? ≠ some '\n' := by
        intro isReturn followed
        obtain ⟨back, split⟩ := List.head?_eq_some_iff.mp followed
        exact noPair back isReturn split
      rw [sourceLines_cons isFeed opensNoPair cut, ← ih, cut]
      by_cases last : lines = []
      · rw [last]
        rfl
      · rw [joinLines_cons _ last, joinLines_cons _ last, List.cons_append]

/-- A boundary other than a carriage return closes a line, and any other character extends one. -/
theorem brokenLines_cons {char : Char} (noReturn : char ≠ '\r') (rest : Text) :
    brokenLines (char :: rest) =
      if breakCodes.has char then [] :: brokenLines rest
      else
        match brokenLines rest with
        | [] => [[char]]
        | line :: lines => (char :: line) :: lines :=
  brokenLines.eq_3 char rest fun _ isReturn _ => noReturn isReturn

/-- Merging breaks keeps the lines between Unicode boundaries. -/
theorem brokenLines_mergeBreaks {text : Text} (paired : ReturnsPaired text) :
    brokenLines (mergeBreaks text) = brokenLines text := by
  fun_induction mergeBreaks text with
  | case1 => rfl
  | case2 rest ih =>
    -- A line feed alone breaks the line as the pair does.
    have feedBreaks : breakCodes.has '\n' = true := by decide
    rw [brokenLines_cons (by decide), if_pos feedBreaks, brokenLines, ih paired.tail.tail]
  | case3 char rest noPair ih =>
    -- Any other boundary stays one, and any other character stays in its line.
    have noReturn := paired.ne_return noPair
    rw [brokenLines_cons noReturn, brokenLines_cons noReturn, ih paired.tail]

/-- Merging breaks commutes with skipping blanks in front. -/
theorem trimStart_mergeBreaks (text : Text) :
    trimStart (mergeBreaks text) = mergeBreaks (trimStart text) := by
  have feedBlank : isBlank '\n' = true := by decide
  have returnBlank : isBlank '\r' = true := by decide
  fun_induction mergeBreaks text with
  | case1 => rfl
  | case2 rest ih =>
    -- Both characters of a pair are blank, as is the line feed that stays.
    simpa [trimStart, List.dropWhile_cons, feedBlank, returnBlank] using ih
  | case3 char rest noPair ih =>
    -- A solid character stops the skip on both sides.
    by_cases blank : isBlank char = true
    · simpa [trimStart, List.dropWhile_cons, blank] using ih
    · simp [trimStart, blank, mergeBreaks.eq_3 char rest noPair]

/-- Merging breaks keeps whether anything but blanks is there. -/
theorem mergeBreaks_eq_nil_iff {text : Text} : mergeBreaks text = [] ↔ text = [] := by
  fun_cases mergeBreaks text <;> simp

/-- Merging breaks behind a front without breaks leaves the front where it is. -/
theorem after?_mergeBreaks {front : Text} (noReturn : '\r' ∉ front) (noFeed : '\n' ∉ front)
    (text : Text) : after? front (mergeBreaks text) = (after? front text).map mergeBreaks := by
  induction front generalizing text with
  | nil => rfl
  | cons wanted front ih =>
    simp only [List.mem_cons, not_or] at noReturn noFeed
    fun_cases mergeBreaks text with
    | case1 => rfl
    -- The front starts with neither half of a pair, so it is found before the merge nor after.
    | case2 rest => simp [after?, Ne.symm noReturn.1, Ne.symm noFeed.1]
    | case3 char rest noPair =>
      by_cases same : wanted = char
      · simp only [after?, if_pos same, ih noReturn.2 noFeed.2]
      · simp [after?, same]

/-- Merging breaks commutes with skipping a run of blanks. -/
theorem afterBlanks?_mergeBreaks (text : Text) :
    afterBlanks? (mergeBreaks text) = (afterBlanks? text).map mergeBreaks := by
  have feedBlank : isBlank '\n' = true := by decide
  have returnBlank : isBlank '\r' = true := by decide
  fun_cases mergeBreaks text with
  | case1 => rfl
  | case2 rest =>
    -- The skip goes on behind the pair as it does behind the feed.
    simp [afterBlanks?, feedBlank, returnBlank, trimStart_cons feedBlank, trimStart_mergeBreaks]
  | case3 char rest noPair =>
    by_cases blank : isBlank char = true
    · simp [afterBlanks?, blank, trimStart_mergeBreaks]
    · simp [afterBlanks?, blank]

/-- Merging breaks keeps the word at the front. -/
theorem takeWhile_isWord_mergeBreaks (text : Text) :
    (mergeBreaks text).takeWhile isWord = text.takeWhile isWord := by
  have feedEnds : isWord '\n' = false := by decide
  have returnEnds : isWord '\r' = false := by decide
  fun_induction mergeBreaks text with
  | case1 => rfl
  -- No word reaches into a pair.
  | case2 rest ih => simp [feedEnds, returnEnds]
  | case3 char rest noPair ih => simp [List.takeWhile_cons, ih]

/-- In a paired text no carriage return stands alone, so unifying the breaks merges them. -/
theorem unifyBreaks_eq_mergeBreaks {text : Text} (paired : ReturnsPaired text) :
    unifyBreaks text = mergeBreaks text := by
  -- The two differ at a return without a feed behind it, and here there is none.
  fun_induction mergeBreaks text with
  | case1 => rfl
  | case2 rest ih => rw [unifyBreaks, ih paired.tail.tail]
  | case3 char rest noPair ih =>
    rw [unifyBreaks.eq_3 char rest noPair, if_neg (paired.ne_return noPair), ih paired.tail]

end EntityDto.Text
