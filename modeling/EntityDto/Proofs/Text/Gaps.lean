import EntityDto.Proofs.Text.Lines
import EntityDto.Proofs.Text.Scan

/-!
How wide the gaps of a text are: squeezing every run of blanks to one space keeps what a scanner
finds that only ever skips such runs.
-/

namespace EntityDto.Text

/-- A space before a text, unless the text is empty. -/
def spaced : Text → Text
  | [] => []
  | text => ' ' :: text

/-- Squeezes each run of blanks to one space, and drops the run at the end. -/
def squeeze : Text → Text
  | [] => []
  | char :: rest =>
    if isBlank char then spaced (trimStart (squeeze rest)) else char :: squeeze rest

/-- A blank begins a gap, which takes all blanks behind it. -/
theorem squeeze_cons_blank {char : Char} (blank : isBlank char = true) (rest : Text) :
    squeeze (char :: rest) = spaced (trimStart (squeeze rest)) := by
  simp only [squeeze, blank, if_true]

/-- A character that is not blank stays. -/
theorem squeeze_cons_solid {char : Char} (solid : isBlank char = false) (rest : Text) :
    squeeze (char :: rest) = char :: squeeze rest := by
  simp only [squeeze, solid, Bool.false_eq_true, if_false]

/-- The space before a text is skipped as a blank. -/
theorem trimStart_spaced (text : Text) : trimStart (spaced text) = trimStart text := by
  cases text with
  | nil => rfl
  | cons char text => exact trimStart_cons (by decide) _

/-- Skipping blanks twice skips them once. -/
theorem trimStart_trimStart (text : Text) : trimStart (trimStart text) = trimStart text :=
  trimStart_eq_self (startsSolid_trimStart text)

/-- What is squeezed behind leading blanks is the same with and without them. -/
theorem trimStart_squeeze (text : Text) : trimStart (squeeze text) = squeeze (trimStart text) := by
  -- A blank in front is trimmed off the text, and off the gap that it was squeezed into.
  induction text with
  | nil => rfl
  | cons char text ih =>
    by_cases blank : isBlank char = true
    · rw [squeeze_cons_blank blank, trimStart_spaced, trimStart_trimStart, ih,
        trimStart_cons blank]
    · have solid : isBlank char = false := by simpa using blank
      rw [trimStart_eq_self (startsSolid_cons solid text), squeeze_cons_solid solid,
        trimStart_eq_self (startsSolid_cons solid _)]

/-- A text in front is squeezed against what is left of the text behind it. -/
theorem squeeze_append_congr {back other : Text} (same : squeeze back = squeeze other)
    (front : Text) : squeeze (front ++ back) = squeeze (front ++ other) := by
  induction front with
  | nil => exact same
  | cons char front ih => simp only [List.cons_append, squeeze, ih]

/-- All gaps in the same place are alike, however wide. -/
theorem squeeze_append_of_blank {blanks : Text} (nonempty : blanks ≠ []) (blank : AllBlank blanks)
    (rest : Text) : squeeze (blanks ++ rest) = spaced (trimStart (squeeze rest)) := by
  induction blanks with
  | nil => exact absurd rfl nonempty
  | cons char blanks ih =>
    rw [List.cons_append, squeeze_cons_blank (blank char (by simp))]
    by_cases last : blanks = []
    · rw [last, List.nil_append]
    · -- The blanks behind the first make a gap already, whose space is skipped.
      rw [ih last fun other member => blank other (by simp [member]), trimStart_spaced,
        trimStart_trimStart]

/-- One gap may stand for another in front of what is squeezed alike. -/
theorem squeeze_gap_congr {gap other text rest : Text} (nonempty : gap ≠ []) (blank : AllBlank gap)
    (otherNonempty : other ≠ []) (otherBlank : AllBlank other) (same : squeeze text = squeeze rest) :
    squeeze (gap ++ text) = squeeze (other ++ rest) := by
  rw [squeeze_append_of_blank nonempty blank, squeeze_append_of_blank otherNonempty otherBlank, same]

/-- Blanks at the end leave nothing. -/
theorem squeeze_eq_nil {blanks : Text} (blank : AllBlank blanks) : squeeze blanks = [] := by
  -- A gap is squeezed into the front of what follows, and here nothing follows.
  by_cases empty : blanks = []
  · rw [empty]
    rfl
  · have squeezed := squeeze_append_of_blank empty blank []
    rwa [List.append_nil] at squeezed

/-- A front without blanks is found before the gaps are squeezed exactly when it is found after. -/
theorem after?_squeeze {front : Text} (solid : AllSolid front)
    (text : Text) : after? front (squeeze text) = (after? front text).map squeeze := by
  induction front generalizing text with
  | nil => rfl
  | cons wanted front ih =>
    cases text with
    | nil => rfl
    | cons char text =>
      have wantedSolid : isBlank wanted = false := solid wanted (by simp)
      by_cases blank : isBlank char = true
      · -- The front starts with no blank, and the gap is either gone or starts with a space.
        have different : wanted ≠ char := by
          rintro rfl
          rw [blank] at wantedSolid
          exact Bool.false_ne_true wantedSolid.symm
        have noSpace : wanted ≠ ' ' := by
          rintro rfl
          exact absurd wantedSolid (by decide)
        rw [squeeze_cons_blank blank, after?_eq_none_of_ne different]
        cases trimStart (squeeze text) with
        | nil => rfl
        | cons next rest => exact after?_eq_none_of_ne noSpace _ _
      · have charSolid : isBlank char = false := by simpa using blank
        rw [squeeze_cons_solid charSolid]
        by_cases same : wanted = char
        · simp only [after?, if_pos same,
            ih fun other member => solid other (by simp [member])]
        · simp only [after?, if_neg same, Option.map_none]

/-- A text starts with a front without blanks before the gaps are squeezed as it does after. -/
theorem startsWith_squeeze {front : Text} (solid : AllSolid front)
    (text : Text) : startsWith (squeeze text) front = startsWith text front := by
  rw [startsWith, startsWith, after?_squeeze solid, Option.isSome_map]

/-- A gap is skipped as a whole, however wide. -/
theorem afterBlanks?_squeeze {text : Text} (more : trimStart text ≠ []) :
    afterBlanks? (squeeze text) = (afterBlanks? text).map squeeze := by
  cases text with
  | nil => rfl
  | cons char text =>
    by_cases blank : isBlank char = true
    · rw [trimStart_cons blank] at more
      rw [squeeze_cons_blank blank, trimStart_squeeze, afterBlanks?, if_pos blank, Option.map_some]
      -- Something solid is left behind the gap, so its space stays and is skipped alone.
      obtain ⟨next, rest, split⟩ := List.exists_cons_of_ne_nil more
      have solid : isBlank next = false := startsSolid_trimStart text next (by rw [split]; rfl)
      rw [split, squeeze_cons_solid solid]
      exact congrArg some (trimStart_eq_self (startsSolid_cons solid _))
    · have solid : isBlank char = false := by simpa using blank
      simp [squeeze_cons_solid solid, afterBlanks?, solid]

/-- What is read behind a gap is the same however wide it is, if nothing is read at the end. -/
theorem bind_afterBlanks?_squeeze {β : Type} {next : Text → Option β} (atEnd : next [] = none)
    (text : Text) :
    (afterBlanks? (squeeze text)).bind next =
      (afterBlanks? text).bind fun rest => next (squeeze rest) := by
  by_cases more : trimStart text = []
  · -- Only a gap is left, which is dropped on one side and leads to the end on the other.
    have blank : AllBlank text := List.dropWhile_eq_nil_iff.mp more
    rw [squeeze_eq_nil blank]
    cases text with
    | nil => rfl
    | cons char text =>
      have charBlank : isBlank char = true := blank char (by simp)
      rw [trimStart_cons charBlank] at more
      simp only [afterBlanks?, if_pos charBlank, Option.bind_some, Option.bind_none, more]
      exact atEnd.symm
  · rw [afterBlanks?_squeeze more, Option.bind_map]
    rfl

/-- No word reaches into a gap. -/
theorem takeWhile_isWord_squeeze (text : Text) :
    (squeeze text).takeWhile isWord = text.takeWhile isWord := by
  induction text with
  | nil => rfl
  | cons char text ih =>
    -- At a blank both words end, and before it nothing has changed.
    by_cases blank : isBlank char = true
    · have noWord : isWord char = false := by
        rw [← Bool.not_eq_true]
        intro word
        rw [isBlank_eq_false_of_isWord word] at blank
        exact Bool.false_ne_true blank
      rw [squeeze_cons_blank blank, List.takeWhile_cons_of_neg (by simp [noWord])]
      cases trimStart (squeeze text) with
      | nil => rfl
      | cons next rest => exact List.takeWhile_cons_of_neg (by decide)
    · have solid : isBlank char = false := by simpa using blank
      rw [squeeze_cons_solid solid, List.takeWhile_cons, List.takeWhile_cons, ih]

/-- A reader that finds the same however wide the gaps are, and nothing where a gap begins. -/
structure IgnoresGaps {α : Type} (read : Text → Option α) : Prop where
  squeezed : ∀ text, read (squeeze text) = read text
  atBlank : ∀ char rest, isBlank char = true → read (char :: rest) = none
  atEnd : read [] = none

namespace IgnoresGaps

variable {α : Type} {read : Text → Option α}

/-- Nothing is found in the gap at the front. -/
theorem findFrom?_trimStart (ignores : IgnoresGaps read) (text : Text) :
    findFrom? read (trimStart text) = findFrom? read text := by
  induction text with
  | nil => rfl
  | cons char text ih =>
    -- Nothing is found at a blank, so the search moves on to what is trimmed to.
    by_cases blank : isBlank char = true
    · rw [trimStart_cons blank, ih, findFrom?_cons_of_none (ignores.atBlank char text blank)]
    · rw [trimStart_eq_self (startsSolid_cons (by simpa using blank) text)]

/-- Nothing is found in blanks, so the search goes on behind them. -/
theorem findFrom?_append_blank (ignores : IgnoresGaps read) {blanks : Text} (blank : AllBlank blanks)
    (text : Text) : findFrom? read (blanks ++ text) = findFrom? read text := by
  rw [← ignores.findFrom?_trimStart, trimStart_append blank, ignores.findFrom?_trimStart]

/-- The leftmost find is the same however wide the gaps are. -/
theorem findFrom?_squeeze (ignores : IgnoresGaps read) (text : Text) :
    findFrom? read (squeeze text) = findFrom? read text := by
  induction text with
  | nil => rfl
  | cons char text ih =>
    by_cases blank : isBlank char = true
    · -- Neither here nor at the space that stands for the gap is anything found.
      rw [squeeze_cons_blank blank, ← ignores.findFrom?_trimStart, trimStart_spaced,
        trimStart_trimStart, ignores.findFrom?_trimStart, ih,
        findFrom?_cons_of_none (ignores.atBlank char text blank)]
    · have solid : isBlank char = false := by simpa using blank
      have here := ignores.squeezed (char :: text)
      rw [squeeze_cons_solid solid] at here ⊢
      simp only [findFrom?, here, ih]

end IgnoresGaps

/-- A test that ignores gaps holds somewhere in a text however wide its gaps are. -/
theorem holdsSomewhere_squeeze {test : Text → Bool} (ignores : IgnoresGaps (asReader test))
    (text : Text) : holdsSomewhere test (squeeze text) = holdsSomewhere test text := by
  rw [holdsSomewhere_eq_isSome, holdsSomewhere_eq_isSome, ignores.findFrom?_squeeze]

/-- A test that ignores gaps holds nowhere in blanks. -/
theorem holdsSomewhere_append_blank {test : Text → Bool} (ignores : IgnoresGaps (asReader test))
    {blanks : Text} (blank : AllBlank blanks) (text : Text) :
    holdsSomewhere test (blanks ++ text) = holdsSomewhere test text := by
  rw [holdsSomewhere_eq_isSome, holdsSomewhere_eq_isSome, ignores.findFrom?_append_blank blank]

/-- A line of a text may as well have a break behind it that leads to nothing. -/
theorem squeeze_joinLines_cons (front line : Text) (lines : List Text) :
    squeeze (front ++ joinLines (line :: lines)) =
      squeeze (front ++ (line ++ '\n' :: joinLines lines)) := by
  by_cases last : lines = []
  · subst last
    apply squeeze_append_congr
    -- The break at the end is a gap that is dropped.
    have dropped : squeeze [] = squeeze ['\n'] := by decide
    have same := squeeze_append_congr dropped line
    rwa [List.append_nil] at same
  · rw [joinLines_cons line last]

/-- The lines that are not blank, without the blanks around them. -/
def compact (lines : List Text) : List Text :=
  (lines.map trim).filter fun line => !line.isEmpty

/-- A blank line is left out. -/
theorem compact_cons_blank {line : Text} (blank : AllBlank line) (lines : List Text) :
    compact (line :: lines) = compact lines := by
  simp [compact, trim_eq_nil_iff.mpr blank]

/-- A line that is not blank is kept without the blanks around it. -/
theorem compact_cons_solid {line : Text} (notBlank : ¬ AllBlank line) (lines : List Text) :
    compact (line :: lines) = trim line :: compact lines := by
  have nonempty : trim line ≠ [] := fun empty => notBlank (trim_eq_nil_iff.mp empty)
  simp [compact, nonempty]

/-- A break behind blanks makes one gap with them. -/
theorem AllBlank.concat_feed {blanks : Text} (blank : AllBlank blanks) :
    AllBlank (blanks ++ ['\n']) :=
  List.forall_mem_append.mpr ⟨blank, (by decide : AllBlank ['\n'])⟩

/-- Behind a break, joined lines are squeezed to what is left of them without blank lines. -/
theorem squeeze_feed_joinLines (lines : List Text) :
    squeeze ('\n' :: joinLines lines) = squeeze ('\n' :: joinLines (compact lines)) := by
  have feedBlank : AllBlank ['\n'] := by decide
  induction lines with
  | nil => rfl
  | cons line lines ih =>
    have opened : squeeze ('\n' :: joinLines (line :: lines))
        = squeeze (['\n'] ++ (line ++ '\n' :: joinLines lines)) :=
      squeeze_joinLines_cons ['\n'] line lines
    rw [opened]
    by_cases blank : AllBlank line
    · -- The line is part of the gap around it.
      have gap : AllBlank (['\n'] ++ line ++ ['\n']) :=
        AllBlank.concat_feed (List.forall_mem_append.mpr ⟨feedBlank, blank⟩)
      rw [compact_cons_blank blank, ← ih]
      calc squeeze (['\n'] ++ (line ++ '\n' :: joinLines lines))
          = squeeze ((['\n'] ++ line ++ ['\n']) ++ joinLines lines) := by simp
        _ = squeeze (['\n'] ++ joinLines lines) :=
          squeeze_gap_congr (by simp) gap (by simp) feedBlank rfl
    · -- The blanks around the line belong to the gaps before and behind it.
      obtain ⟨before, after, beforeBlank, afterBlank, split⟩ := exists_trim_eq line
      have front : AllBlank (['\n'] ++ before) :=
        List.forall_mem_append.mpr ⟨feedBlank, beforeBlank⟩
      have behind : squeeze ((after ++ ['\n']) ++ joinLines lines)
          = squeeze ('\n' :: joinLines (compact lines)) := by
        rw [← ih]
        exact squeeze_gap_congr (by simp) afterBlank.concat_feed (by simp) feedBlank rfl
      have whole : ['\n'] ++ (line ++ '\n' :: joinLines lines)
          = (['\n'] ++ before) ++ (trim line ++ ((after ++ ['\n']) ++ joinLines lines)) := by
        conv_lhs => rw [split]
        simp
      rw [whole, compact_cons_solid blank,
        squeeze_gap_congr (by simp) front (by simp) feedBlank (squeeze_append_congr behind _)]
      exact (squeeze_joinLines_cons ['\n'] (trim line) (compact lines)).symm

/-- A test that ignores gaps sees neither blank lines nor the blanks around the others. -/
theorem holdsSomewhere_joinLines_compact {test : Text → Bool}
    (ignores : IgnoresGaps (asReader test)) (lines : List Text) :
    holdsSomewhere test (joinLines lines) = holdsSomewhere test (joinLines (compact lines)) := by
  -- With a line feed in front, dropping blank lines is squeezing, and that changes no search.
  have atFeed (text : Text) : holdsSomewhere test ('\n' :: text) = holdsSomewhere test text :=
    holdsSomewhere_append_blank ignores (by decide : AllBlank ['\n']) text
  rw [← atFeed, ← holdsSomewhere_squeeze ignores, squeeze_feed_joinLines,
    holdsSomewhere_squeeze ignores, atFeed]

end EntityDto.Text
