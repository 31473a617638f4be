import EntityDto.Field.Traits
import EntityDto.Proofs.Text.Gaps

/-!
Attributes of column decorators in raw text: they are recognised however wide the gaps inside them
are, and none of them runs across a character that it does not hold.
-/

namespace EntityDto

open Text

/-- No character with a small form lies among the blanks. -/
theorem lowerRuns_apart :
    ∀ run ∈ lowerRuns, ∀ blank ∈ blankCodes, run.last < blank.1 ∨ blank.2 < run.first := by
  decide +kernel

/-- A blank has no small form but itself. -/
theorem lowerChar_eq_self {char : Char} (blank : isBlank char = true) : lowerChar char = char := by
  simp only [isBlank, CodeRanges.has, List.any_eq_true, Bool.and_eq_true, decide_eq_true_eq]
    at blank
  obtain ⟨range, listed, low, high⟩ := blank
  unfold lowerChar
  split
  · -- Among the ASCII characters no blank is a capital.
    next ascii =>
    have small : char.toNat < 65 := by
      simp only [blankCodes, List.mem_cons, List.not_mem_nil, or_false] at listed
      rcases listed with rfl | rfl | rfl | rfl | rfl | rfl | rfl | rfl | rfl | rfl <;>
        simp only at low high <;> omega
    have noCapital : isCapital char = false := by
      rw [← Bool.not_eq_true]
      intro capital
      simp only [isCapital, Bool.and_eq_true, decide_eq_true_eq, Char.le_def,
        UInt32.le_iff_toNat_le] at capital
      have : 65 ≤ char.toNat := capital.1
      omega
    simp only [lowerAscii, noCapital, Bool.false_eq_true, if_false]
  · split
    · -- A run that covers the blank would overlap with the blanks.
      next run found =>
      have covers := List.find?_some found
      have apart := lowerRuns_apart run (List.mem_of_find?_eq_some found) range listed
      simp only [LowerRun.covers, Bool.and_eq_true, decide_eq_true_eq] at covers
      omega
    · rfl

/-- No blank is a form of a letter. -/
theorem isFormOf_eq_false {small char : Char} (solid : isBlank small = false)
    (blank : isBlank char = true) : isFormOf small char = false := by
  -- A letter has at most three forms, and a blank is none of them.
  have different : char ≠ small := by
    rintro rfl
    rw [blank] at solid
    exact Bool.false_ne_true solid.symm
  have noDot : char ≠ '\u0130' := by
    rintro rfl
    exact absurd blank (by decide)
  have noDotless : char ≠ '\u0131' := by
    rintro rfl
    exact absurd blank (by decide)
  simp [isFormOf, lowerChar_eq_self blank, different, noDot, noDotless]

/-- Only the null character comes from more than one number. -/
theorem eq_toNat_of_ofNat_eq {number : Nat} {char : Char} (isChar : Char.ofNat number = char)
    (notNull : char.toNat ≠ 0) : number = char.toNat := by
  subst isChar
  -- Numbers that are no characters are all read as the null character, which is excluded.
  by_cases valid : number.isValidChar
  · have isValid : Char.ofNat number = Char.ofNatAux number valid := dif_pos valid
    rw [isValid]
    rfl
  · have isNull : Char.ofNat number = Char.ofNat 0 := dif_neg valid
    rw [isNull] at notNull
    exact absurd rfl notNull

/-- No character beyond ASCII has the small t for its small form. -/
theorem lowerRuns_avoid_t :
    ∀ run ∈ lowerRuns, 0x74 < run.target ∨ run.target + (run.last - run.first) < 0x74 := by
  decide +kernel

/-- Every form of the small t is part of a word. -/
theorem isWord_of_isFormOf_t {char : Char} (form : isFormOf 't' char = true) :
    isWord char = true := by
  have lowers : lowerChar char = 't' := by simpa [isFormOf] using form
  unfold lowerChar at lowers
  split at lowers
  · next ascii =>
    unfold lowerAscii at lowers
    split at lowers
    · next capital => simp [isWord, ascii, capital]
    · rw [lowers]
      decide
  · split at lowers
    · -- The code of the small form would have to be that of the t.
      next run found =>
      have covers := List.find?_some found
      have avoids := lowerRuns_avoid_t run (List.mem_of_find?_eq_some found)
      simp only [LowerRun.covers, Bool.and_eq_true, decide_eq_true_eq] at covers
      have code : run.target + (char.toNat - run.first) = 0x74 :=
        eq_toNat_of_ofNat_eq lowers (by decide)
      omega
    · rw [lowers]
      decide

/-- A colon is skipped with the blanks before it and behind it. -/
theorem afterColon?_eq_some_iff {text rest : Text} :
    afterColon? text = some rest ↔
      StartsSolid rest ∧ ∃ blanks gap, AllBlank blanks ∧ AllBlank gap
        ∧ text = blanks ++ ':' :: (gap ++ rest) := by
  simp only [afterColon?, Option.map_eq_some_iff, after?_eq_some_iff, trimStart_eq_iff,
    List.singleton_append]
  -- Each of the two runs of blanks is trimmed in a step of its own.
  constructor
  · rintro ⟨_, ⟨-, blanks, blank, rfl⟩, solid, gap, gapBlank, rfl⟩
    exact ⟨solid, blanks, gap, blank, gapBlank, rfl⟩
  · rintro ⟨solid, blanks, gap, blank, gapBlank, rfl⟩
    exact ⟨gap ++ rest, ⟨startsSolid_cons (by decide) _, blanks, blank, rfl⟩, solid, gap, gapBlank,
      rfl⟩

/-- A step through a text that goes the same way through the changed text. -/
def Commutes (change : Text → Text) (step : Text → Option Text) : Prop :=
  ∀ text, step (change text) = (step text).map change

namespace Commutes

variable {change : Text → Text} {first second : Text → Option Text}

/-- Two steps in a row go the same way when each of them does. -/
theorem bind (firstCommutes : Commutes change first) (secondCommutes : Commutes change second) :
    Commutes change fun text => (first text).bind second := by
  intro text
  show (first (change text)).bind second = ((first text).bind second).map change
  rw [firstCommutes text]
  -- Where the first reader fails, the second is not asked on either side.
  cases first text with
  | none => rfl
  | some rest => exact secondCommutes rest

/-- What is asked behind a step has the same answer in the changed text. -/
theorem any {test : Text → Bool} (commutes : Commutes change first)
    (same : ∀ text, test (change text) = test text) (text : Text) :
    (first (change text)).any test = (first text).any test := by
  rw [commutes text]
  -- A reader that fails has nothing to test, and otherwise the test sees the same rest.
  cases first text with
  | none => rfl
  | some rest => exact same rest

/-- Whether a step can be made is the same in the changed text. -/
theorem isSome (commutes : Commutes change first) (text : Text) :
    (first (change text)).isSome = (first text).isSome := by
  rw [commutes text, Option.isSome_map]

end Commutes

namespace Attribute

variable {change : Text → Text}

/-- The optional attribute is its name, a colon and its value. -/
theorem nullableHere_eq (text : Text) :
    nullableHere text =
      ((after? "nullable".toList text).bind afterColon?).any
        fun value => value.startsWith "true".toList := by
  unfold nullableHere
  cases (after? "nullable".toList text).bind afterColon? <;> rfl

/-- The optional attribute starts here when its words do, with a colon and blanks between them. -/
theorem nullableHere_iff {text : Text} :
    nullableHere text = true ↔
      ∃ blanks gap rest, AllBlank blanks ∧ AllBlank gap
        ∧ text = "nullable".toList ++ (blanks ++ ':' :: (gap ++ ("true".toList ++ rest))) := by
  simp only [nullableHere_eq, Option.any_eq_true, Option.bind_eq_some_iff, after?_eq_some_iff,
    afterColon?_eq_some_iff, startsWith_iff]
  -- Both sides name the same pieces, the readers one after the other and the text at once.
  constructor
  · rintro ⟨_, ⟨_, rfl, -, blanks, gap, blank, gapBlank, rfl⟩, rest, rfl⟩
    exact ⟨blanks, gap, rest, blank, gapBlank, rfl⟩
  · rintro ⟨blanks, gap, rest, blank, gapBlank, rfl⟩
    exact ⟨_, ⟨_, rfl, startsSolid_cons (by decide) _, blanks, gap, blank, gapBlank, rfl⟩, rest, rfl⟩

/-- The width of one is its name, a colon and a one that ends there. -/
theorem widthOneHere_eq (text : Text) :
    widthOneHere text =
      ((after? "width".toList text).bind afterColon?).any
        fun value => value.startsWithWordEnd ['1'] := by
  unfold widthOneHere
  cases (after? "width".toList text).bind afterColon? <;> rfl

/-- A date type is the name of the attribute, a colon, a quote and the start of its value. -/
theorem dateHere_eq (text : Text) :
    dateHere text =
      (((after? "type".toList text).bind afterColon?).bind afterQuote?).any
        fun value => value.startsWith "date".toList := by
  unfold dateHere
  cases ((after? "type".toList text).bind afterColon?).bind afterQuote? <;> rfl

/-- The tiny integer type is the name of the attribute, a colon and its value in quotes. -/
theorem tinyintHere_eq (text : Text) :
    tinyintHere text =
      (((afterAnyCase? "type".toList text).bind afterColon?).bind afterQuote?).any
        fun value => ((afterAnyCase? "tinyint".toList value).bind afterQuote?).isSome := by
  unfold tinyintHere
  cases ((afterAnyCase? "type".toList text).bind afterColon?).bind afterQuote? <;> rfl

/-- The optional attribute starts here in the changed text when its parts commute. -/
theorem nullableHere_change (key : Commutes change (after? "nullable".toList))
    (colon : Commutes change afterColon?) (value : Commutes change (after? "true".toList))
    (text : Text) : nullableHere (change text) = nullableHere text := by
  rw [nullableHere_eq, nullableHere_eq]
  exact (key.bind colon).any value.isSome text

/-- The width of one starts here in the changed text when its parts commute. -/
theorem widthOneHere_change (key : Commutes change (after? "width".toList))
    (colon : Commutes change afterColon?) (value : Commutes change (after? ['1']))
    (ends : ∀ text, wordEnds (change text) = wordEnds text) (text : Text) :
    widthOneHere (change text) = widthOneHere text := by
  rw [widthOneHere_eq, widthOneHere_eq]
  -- The change passes the name and the colon, and is seen again behind the digit.
  refine (key.bind colon).any (fun text => ?_) text
  rw [startsWithWordEnd, startsWithWordEnd, value text]
  cases after? ['1'] text with
  | none => rfl
  | some rest => exact ends rest

/-- A date type starts here in the changed text when its parts commute. -/
theorem dateHere_change (key : Commutes change (after? "type".toList))
    (colon : Commutes change afterColon?) (quote : Commutes change afterQuote?)
    (value : Commutes change (after? "date".toList)) (text : Text) :
    dateHere (change text) = dateHere text := by
  rw [dateHere_eq, dateHere_eq]
  exact ((key.bind colon).bind quote).any value.isSome text

/-- The tiny integer type starts here in the changed text when its parts commute. -/
theorem tinyintHere_change (key : Commutes change (afterAnyCase? "type".toList))
    (colon : Commutes change afterColon?) (quote : Commutes change afterQuote?)
    (value : Commutes change (afterAnyCase? "tinyint".toList)) (text : Text) :
    tinyintHere (change text) = tinyintHere text := by
  rw [tinyintHere_eq, tinyintHere_eq]
  exact ((key.bind colon).bind quote).any (value.bind quote).isSome text

end Attribute

section Gaps

/-- Letters of any case are found before the gaps are squeezed exactly when they are found after. -/
theorem commutes_afterAnyCase?_squeeze {front : Text} (solid : AllSolid front) :
    Commutes squeeze (afterAnyCase? front) := by
  intro text
  induction front generalizing text with
  | nil => rfl
  | cons small front ih =>
    cases text with
    | nil => rfl
    | cons char text =>
      have smallSolid : isBlank small = false := solid small (by simp)
      by_cases blank : isBlank char = true
      · -- No letter is a blank, so nothing is found on either side.
        rw [squeeze_cons_blank blank]
        simp only [afterAnyCase?, isFormOf_eq_false smallSolid blank, Bool.false_eq_true, if_false,
          Option.map_none]
        cases trimStart (squeeze text) with
        | nil => rfl
        | cons next rest =>
          have noSpace : isFormOf small ' ' = false := isFormOf_eq_false smallSolid (by decide)
          simp only [spaced, afterAnyCase?, noSpace, Bool.false_eq_true, if_false]
      · rw [squeeze_cons_solid (by simpa using blank)]
        simp only [afterAnyCase?, ih fun other member => solid other (by simp [member])]
        split <;> rfl

/-- The colon is found however wide the gaps around it are. -/
theorem commutes_afterColon?_squeeze : Commutes squeeze afterColon? := by
  intro text
  have colonSolid : AllSolid [':'] := by decide
  -- The colon is no blank, so squeezing touches only the gaps at its two sides.
  rw [afterColon?, afterColon?, trimStart_squeeze, after?_squeeze colonSolid, Option.map_map,
    Option.map_map]
  congr 1
  funext rest
  exact trimStart_squeeze rest

/-- A quote is no gap. -/
theorem commutes_afterQuote?_squeeze : Commutes squeeze afterQuote? := by
  intro text
  cases text with
  | nil => rfl
  | cons char text =>
    -- A run of blanks at the front is no quote, squeezed or not.
    by_cases blank : isBlank char = true
    · have noQuote : ¬ (char = '\'' ∨ char = '"') := by
        rintro (rfl | rfl) <;> exact absurd blank (by decide)
      rw [squeeze_cons_blank blank]
      cases trimStart (squeeze text) <;> simp [spaced, afterQuote?, noQuote]
    · rw [squeeze_cons_solid (by simpa using blank)]
      simp only [afterQuote?]
      split <;> rfl

/-- Where a word ends, it ends before the gap as well. -/
theorem wordEnds_squeeze (text : Text) : wordEnds (squeeze text) = wordEnds text := by
  -- A word ends exactly where the span of its characters is empty.
  have ends (text : Text) : wordEnds text = (text.takeWhile isWord).isEmpty := by
    cases text with
    | nil => rfl
    | cons char text => cases word : isWord char <;> simp [wordEnds, word]
  rw [ends, ends, takeWhile_isWord_squeeze]

/-- A test ignores gaps when squeezing does not change it and it holds of no gap. -/
theorem ignoresGaps_asReader {test : Text → Bool} (squeezed : ∀ text, test (squeeze text) = test text)
    (atBlank : ∀ char rest, isBlank char = true → test (char :: rest) = false)
    (atEnd : test [] = false) : IgnoresGaps (asReader test) where
  squeezed text := by rw [asReader, asReader, squeezed]
  atBlank char rest blank := by simp [asReader, atBlank char rest blank]
  atEnd := by simp [asReader, atEnd]

/-- A front that starts solid is not found at a blank. -/
theorem after?_eq_none_of_blank {wanted char : Char} (solid : isBlank wanted = false)
    (blank : isBlank char = true) (front rest : Text) :
    after? (wanted :: front) (char :: rest) = none := by
  -- The wanted text begins with another character than the blank.
  apply after?_eq_none_of_ne
  rintro rfl
  rw [blank] at solid
  exact Bool.false_ne_true solid.symm

/-- A test that needs a name in front ignores gaps when squeezing does not change it. -/
theorem ignoresGaps_of_name {test : Text → Bool} (name : Text)
    (starts : (name.head?.any fun char => !isBlank char) = true)
    (squeezed : ∀ text, test (squeeze text) = test text)
    (needs : ∀ text, after? name text = none → test text = false) : IgnoresGaps (asReader test) := by
  -- No name begins at a blank or at the end, so gaps matter only behind it.
  cases name with
  | nil => simp at starts
  | cons first name =>
    have solid : isBlank first = false := by simpa using starts
    refine ignoresGaps_asReader squeezed ?_ (needs [] rfl)
    intro char rest blank
    exact needs _ (after?_eq_none_of_blank solid blank name rest)

/-- The sign of a column decorator is found however wide the gaps are. -/
theorem ignoresGaps_columnHere :
    IgnoresGaps (asReader fun place => place.startsWith "@Column(".toList) := by
  refine ignoresGaps_of_name "@Column(".toList (by decide) (startsWith_squeeze (by decide)) ?_
  intro text absent
  rw [startsWith, absent, Option.isSome_none]

/-- The optional attribute is recognised however wide its gaps are. -/
theorem Attribute.ignoresGaps_nullableHere : IgnoresGaps (asReader nullableHere) := by
  refine ignoresGaps_of_name "nullable".toList (by decide)
    (nullableHere_change (after?_squeeze (by decide)) commutes_afterColon?_squeeze
      (after?_squeeze (by decide))) ?_
  intro text absent
  rw [nullableHere_eq, absent]
  rfl

/-- The width of one is recognised however wide its gaps are. -/
theorem Attribute.ignoresGaps_widthOneHere : IgnoresGaps (asReader widthOneHere) := by
  refine ignoresGaps_of_name "width".toList (by decide)
    (widthOneHere_change (after?_squeeze (by decide)) commutes_afterColon?_squeeze
      (after?_squeeze (by decide)) wordEnds_squeeze) ?_
  intro text absent
  rw [widthOneHere_eq, absent]
  rfl

/-- A date type is recognised however wide its gaps are. -/
theorem Attribute.ignoresGaps_dateHere : IgnoresGaps (asReader dateHere) := by
  refine ignoresGaps_of_name "type".toList (by decide)
    (dateHere_change (after?_squeeze (by decide)) commutes_afterColon?_squeeze
      commutes_afterQuote?_squeeze (after?_squeeze (by decide))) ?_
  intro text absent
  rw [dateHere_eq, absent]
  rfl

/-- The tiny integer type is recognised however wide its gaps are. -/
theorem Attribute.ignoresGaps_tinyintHere : IgnoresGaps (asReader tinyintHere) := by
  refine ignoresGaps_asReader (tinyintHere_change (commutes_afterAnyCase?_squeeze (by decide))
    commutes_afterColon?_squeeze commutes_afterQuote?_squeeze
    (commutes_afterAnyCase?_squeeze (by decide))) ?_ rfl
  -- The name may be in letters of any case, of which a blank is no form either.
  intro char rest blank
  have noForm := isFormOf_eq_false (by decide : isBlank 't' = false) blank
  have noName : afterAnyCase? "type".toList (char :: rest) = none := by
    simp only [show "type".toList = 't' :: "ype".toList from rfl, afterAnyCase?, noForm,
      Bool.false_eq_true, if_false]
  rw [tinyintHere_eq, noName]
  rfl

end Gaps

section Stops

variable {stop : Char}

/-- A character that some words do not hold, and that is neither a colon between them nor a blank. -/
structure IsForeign (words : List Text) (stop : Char) : Prop where
  solid : isBlank stop = false
  noColon : stop ≠ ':'
  outside : ∀ word ∈ words, stop ∉ word

instance (words : List Text) (stop : Char) : Decidable (IsForeign words stop) :=
  decidable_of_iff (isBlank stop = false ∧ stop ≠ ':' ∧ ∀ word ∈ words, stop ∉ word)
    ⟨fun ⟨solid, noColon, outside⟩ => ⟨solid, noColon, outside⟩,
      fun foreign => ⟨foreign.solid, foreign.noColon, foreign.outside⟩⟩

/-- A front without the character is found before it or not at all. -/
theorem commutes_after?_append {front : Text} (noStop : stop ∉ front) (back : Text) :
    Commutes (· ++ stop :: back) (after? front) :=
  fun text => after?_append_cons noStop text back

/-- Letters none of which the character is a form of are found before it or not at all. -/
theorem commutes_afterAnyCase?_append {front : Text}
    (noForm : front.any (fun small => isFormOf small stop) = false) (back : Text) :
    Commutes (· ++ stop :: back) (afterAnyCase? front) := by
  intro text
  -- One letter of the front is read at a time, and the stop is a form of none of them.
  induction front generalizing text with
  | nil => rfl
  | cons small front ih =>
    obtain ⟨here, behind⟩ := Bool.or_eq_false_iff.mp (List.any_cons.symm.trans noForm)
    cases text with
    | nil => simp [afterAnyCase?, here]
    | cons char text =>
      simp only [List.cons_append, afterAnyCase?, ih behind]
      split <;> rfl

/-- A colon is found before a solid character that is none. -/
theorem commutes_afterColon?_append (solid : isBlank stop = false) (noColon : stop ≠ ':')
    (back : Text) : Commutes (· ++ stop :: back) afterColon? := by
  intro text
  have noStop : stop ∉ [':'] := by simpa using noColon
  -- The stop is solid and no colon, so neither trimming nor reading goes beyond it.
  simp only [afterColon?, trimStart_append_cons solid, after?_append_cons noStop, Option.map_map]
  congr 1
  funext rest
  exact trimStart_append_cons solid rest back

/-- A quote is found before a character that is none. -/
theorem commutes_afterQuote?_append (noQuote : stop ∉ ['\'', '"']) (back : Text) :
    Commutes (· ++ stop :: back) afterQuote? := by
  intro text
  obtain ⟨noSingle, noDouble⟩ : stop ≠ '\'' ∧ stop ≠ '"' := by simpa using noQuote
  -- Only the first character counts, which is the stop where the text is empty.
  cases text with
  | nil => simp [afterQuote?, noSingle, noDouble]
  | cons char text =>
    simp only [List.cons_append, afterQuote?]
    split <;> rfl

/-- A word that ends before a character that is no part of one ends there in any case. -/
theorem wordEnds_append (ends : isWord stop = false) (back text : Text) :
    wordEnds (text ++ stop :: back) = wordEnds text := by
  cases text with
  | nil => simp [wordEnds, ends]
  | cons char text => rfl

/-- One of several decorator names is found before a character that none of them holds. -/
theorem stopsAt_decoratorHere {names : List Text} (noSign : stop ≠ '@') (ends : isWord stop = false)
    (noStop : ∀ name ∈ names, stop ∉ name) : StopsAt stop (decoratorHere names) := by
  intro front back
  have sign : stop ∉ ['@'] := by simpa using noSign
  rw [decoratorHere, decoratorHere, after?_append_cons sign]
  cases after? ['@'] front with
  | none => rfl
  | some rest =>
    -- Each name ends before the character, or it is not there on either side.
    have each : ∀ name ∈ names,
        startsWithWordEnd (rest ++ stop :: back) name = startsWithWordEnd rest name := by
      intro name listed
      rw [startsWithWordEnd, startsWithWordEnd, after?_append_cons (noStop name listed)]
      cases after? name rest with
      | none => rfl
      | some behind => exact wordEnds_append ends back behind
    rw [Option.map_some, Bool.eq_iff_iff, List.any_eq_true, List.any_eq_true]
    exact exists_congr fun name => and_congr_right fun listed => by rw [each name listed]

end Stops

section Quotes

/-- A step that leaves the end of a text. -/
def LeavesEnd (step : Text → Option Text) : Prop :=
  ∀ text rest, step text = some rest → rest <:+ text

/-- What is behind a front is the end of the text. -/
theorem leavesEnd_after? (front : Text) : LeavesEnd (after? front) := by
  intro text rest found
  exact ⟨front, (eq_append_of_after? found).symm⟩

/-- What is behind letters of any case is the end of the text. -/
theorem leavesEnd_afterAnyCase? (front : Text) : LeavesEnd (afterAnyCase? front) := by
  intro text rest found
  -- Each letter that is read leaves an end of what was there before it.
  induction front generalizing text with
  | nil => exact ⟨[], (Option.some.inj found).symm⟩
  | cons small front ih =>
    cases text with
    | nil => simp [afterAnyCase?] at found
    | cons char text =>
      simp only [afterAnyCase?] at found
      split at found
      · exact (ih text found).trans (List.suffix_cons char text)
      · simp at found

/-- What is behind a colon is the end of the text. -/
theorem leavesEnd_afterColon? : LeavesEnd afterColon? := by
  intro text rest found
  -- Trimming, reading the colon and trimming again each leave an end of the text.
  obtain ⟨behind, isAfter, rfl⟩ := Option.map_eq_some_iff.mp found
  have colon := leavesEnd_after? _ _ _ isAfter
  exact (List.dropWhile_suffix _).trans (colon.trans (List.dropWhile_suffix _))

/--
An attribute whose name stands in front of a quote has its value behind this quote.

So it is not there when no value of the kind starts behind the quote.
-/
theorem any_afterQuote?_eq_false {key : Text → Option Text} {test : Text → Bool} {front back : Text}
    (commutes : Commutes (· ++ '\'' :: back) key) (leaves : LeavesEnd key) (noSingle : '\'' ∉ front)
    (noDouble : '"' ∉ front) (fails : test back = false) :
    (((key (front ++ '\'' :: back)).bind afterColon?).bind afterQuote?).any test = false := by
  have colon := commutes_afterColon?_append (by decide : isBlank '\'' = false) (by decide) back
  have steps := (commutes.bind colon) front
  simp only at steps
  rw [steps]
  cases named : (key front).bind afterColon? with
  | none => rfl
  | some rest =>
    obtain ⟨behind, isBehind, isRest⟩ := Option.bind_eq_some_iff.mp named
    have inFront : rest ⊆ front :=
      ((leavesEnd_afterColon? _ _ isRest).trans (leaves _ _ isBehind)).subset
    -- Only the quote itself can open the value, for there is none before it.
    cases rest with
    | nil => simpa [afterQuote?] using fails
    | cons char rest =>
      have notSingle : char ≠ '\'' := by
        rintro rfl
        exact noSingle (inFront List.mem_cons_self)
      have notDouble : char ≠ '"' := by
        rintro rfl
        exact noDouble (inFront List.mem_cons_self)
      simp [afterQuote?, notSingle, notDouble]

end Quotes

namespace Attribute

variable {stop : Char}

/-- The optional attribute ends before a character that is foreign to it. -/
theorem stopsAt_nullableHere (foreign : IsForeign ["nullable".toList, "true".toList] stop) :
    StopsAt stop nullableHere := fun front back =>
  nullableHere_change (commutes_after?_append (foreign.outside _ (by simp)) back)
    (commutes_afterColon?_append foreign.solid foreign.noColon back)
    (commutes_after?_append (foreign.outside _ (by simp)) back) front

/-- The width of one ends before a foreign character that is no part of a word. -/
theorem stopsAt_widthOneHere (foreign : IsForeign ["width".toList, "1".toList] stop)
    (ends : isWord stop = false) : StopsAt stop widthOneHere := fun front back =>
  widthOneHere_change (commutes_after?_append (foreign.outside _ (by simp)) back)
    (commutes_afterColon?_append foreign.solid foreign.noColon back)
    (commutes_after?_append (foreign.outside _ (by simp)) back) (wordEnds_append ends back) front

/-- A tiny integer type ends before a foreign character that is no form of its letters. -/
theorem stopsAt_tinyintHere (foreign : IsForeign [['\'', '"']] stop)
    (noForm : ∀ word ∈ ["type".toList, "tinyint".toList],
      word.any (fun small => isFormOf small stop) = false) :
    StopsAt stop tinyintHere := fun front back =>
  tinyintHere_change (commutes_afterAnyCase?_append (noForm _ (by simp)) back)
    (commutes_afterColon?_append foreign.solid foreign.noColon back)
    (commutes_afterQuote?_append (foreign.outside _ List.mem_cons_self) back)
    (commutes_afterAnyCase?_append (noForm _ (by simp)) back) front

/-- A date type ends before a character that is foreign to it. -/
theorem stopsAt_dateHere
    (foreign : IsForeign [['\'', '"'], "type".toList, "date".toList] stop) :
    StopsAt stop dateHere := fun front back =>
  dateHere_change (commutes_after?_append (foreign.outside _ (by simp)) back)
    (commutes_afterColon?_append foreign.solid foreign.noColon back)
    (commutes_afterQuote?_append (foreign.outside _ List.mem_cons_self) back)
    (commutes_after?_append (foreign.outside _ (by simp)) back) front

/-- No tiny integer type opens before a quote behind which a word does not go on. -/
theorem tinyintHere_append_quote {front back : Text} (noSingle : '\'' ∉ front)
    (noDouble : '"' ∉ front) (ends : EndsWord back) :
    tinyintHere (front ++ '\'' :: back) = false := by
  rw [tinyintHere_eq]
  refine any_afterQuote?_eq_false (commutes_afterAnyCase?_append (by decide) back)
    (leavesEnd_afterAnyCase? _) noSingle noDouble ?_
  -- A value would have to begin right behind the quote, where no word goes on.
  have noForm : afterAnyCase? "tinyint".toList back = none := by
    cases back with
    | nil => rfl
    | cons char back =>
      have noForm : isFormOf 't' char = false := by
        rw [← Bool.not_eq_true]
        intro form
        have stops := ends char rfl
        rw [isWord_of_isFormOf_t form] at stops
        exact Bool.false_ne_true stops.symm
      simp only [show "tinyint".toList = 't' :: "inyint".toList from rfl, afterAnyCase?, noForm,
        Bool.false_eq_true, if_false]
  rw [noForm]
  rfl

/-- No date type opens before a quote behind which a word does not go on. -/
theorem dateHere_append_quote {front back : Text} (noSingle : '\'' ∉ front)
    (noDouble : '"' ∉ front) (ends : EndsWord back) : dateHere (front ++ '\'' :: back) = false := by
  rw [dateHere_eq]
  refine any_afterQuote?_eq_false (commutes_after?_append (by decide) back)
    (leavesEnd_after? _) noSingle noDouble ?_
  -- A value would have to begin right behind the quote, where no word goes on.
  cases back with
  | nil => rfl
  | cons char back =>
    have different : 'd' ≠ char := by
      rintro rfl
      exact absurd (ends 'd' rfl) (by decide)
    exact congrArg Option.isSome (after?_eq_none_of_ne different "ate".toList back)

end Attribute

end EntityDto
