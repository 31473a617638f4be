import EntityDto.Proofs.Text.Scan

/-!
The words of a text are its maximal runs of word characters. A text is cut into them at any place
where a word begins or ends, so a suffix that ends a word somewhere ends one of them.
-/

namespace EntityDto.Text

/-- Cutting gives at least one piece. -/
theorem splitWhere_ne_nil (cut : Char → Bool) (text : Text) : splitWhere cut text ≠ [] := by
  fun_cases splitWhere cut text <;> simp

/-- The pieces before a cut and those behind it are found one after the other. -/
theorem splitWhere_append_cons {cut : Char → Bool} {char : Char} (isCut : cut char = true)
    (front back : Text) :
    splitWhere cut (front ++ char :: back) = splitWhere cut front ++ splitWhere cut back := by
  induction front with
  | nil => simp only [List.nil_append, splitWhere, isCut, if_true, List.singleton_append]
  | cons first front ih =>
    rw [List.cons_append, splitWhere, splitWhere, ih]
    split
    · rfl
    · -- The first piece of the front grows; there is one even if the front is empty.
      cases pieces : splitWhere cut front with
      | nil => exact absurd pieces (splitWhere_ne_nil cut front)
      | cons piece pieces => rfl

/-- A text without any place to cut is one piece. -/
theorem splitWhere_of_all {cut : Char → Bool} {text : Text}
    (whole : ∀ char ∈ text, cut char = false) : splitWhere cut text = [text] := by
  -- No character cuts the text, so each goes to the front of the one piece.
  induction text with
  | nil => rfl
  | cons char text ih =>
    have uncut := whole char List.mem_cons_self
    rw [splitWhere, ih fun other member => whole other (List.mem_cons_of_mem _ member)]
    simp only [uncut, Bool.false_eq_true, if_false]

/-- Joined texts are the first one and each other with a separator in front. -/
theorem join_cons (separator first : Text) (texts : List Text) :
    join separator (first :: texts) = first ++ texts.flatMap fun text => separator ++ text := by
  induction texts generalizing first with
  | nil => rw [List.flatMap_nil, List.append_nil, join]
  | cons second texts ih => rw [join, ih, List.flatMap_cons, List.append_assoc, List.append_assoc]

/-- Characters are changed one by one, whether before or after texts are joined. -/
theorem map_join (change : Char → Char) (separator : Text) (texts : List Text) :
    (join separator texts).map change
      = join (separator.map change) (texts.map (List.map change)) := by
  -- Joining puts a separator in front of every text but the first.
  cases texts with
  | nil => rfl
  | cons first texts =>
    simp only [List.map_cons, join_cons, List.map_append, List.map_flatMap, List.flatMap_map]

/-- Texts that hold no separator are the pieces between the separators that join them. -/
theorem splitWhere_join {cut : Char → Bool} {separator : Char} (isCut : cut separator = true)
    {texts : List Text} (some : texts ≠ [])
    (whole : ∀ text ∈ texts, ∀ char ∈ text, cut char = false) :
    splitWhere cut (join [separator] texts) = texts := by
  -- The first separator cuts off the first text, for no text holds another cut.
  induction texts with
  | nil => exact absurd rfl some
  | cons first texts ih =>
    have firstWhole := splitWhere_of_all (whole first List.mem_cons_self)
    cases texts with
    | nil => exact firstWhole
    | cons second texts =>
      have later := ih (List.cons_ne_nil _ _) fun text listed =>
        whole text (List.mem_cons_of_mem _ listed)
      rw [join, List.append_assoc, List.singleton_append, splitWhere_append_cons isCut, later,
        firstWhole, List.singleton_append]

/-- No character of the text is part of a word. -/
def NoWord (text : Text) : Prop :=
  ∀ char ∈ text, isWord char = false

/-- A word behind the text begins where the text ends. -/
def BeginsWord (text : Text) : Prop :=
  ∀ char ∈ text.getLast?, isWord char = false

/-- Between two words, the next word begins at the end of the text. -/
theorem NoWord.beginsWord {text : Text} (noWord : NoWord text) : BeginsWord text :=
  fun char isLast => noWord char (List.mem_of_getLast? isLast)

/-- The words before a character that is in none and those behind it are found one after the other. -/
theorem words_append_cons {char : Char} (noWord : isWord char = false) (front back : Text) :
    words (front ++ char :: back) = words front ++ words back := by
  have isCut : (!isWord char) = true := by rw [noWord]; rfl
  rw [words, splitWhere_append_cons isCut, List.filter_append]
  rfl

/-- A character that is in no word does not matter in front. -/
theorem words_cons {char : Char} (noWord : isWord char = false) (text : Text) :
    words (char :: text) = words text :=
  words_append_cons noWord [] text

/-- Where a word ends, a text can be cut without cutting a word. -/
theorem words_append_of_endsWord {back : Text} (ends : EndsWord back) (front : Text) :
    words (front ++ back) = words front ++ words back := by
  -- The back begins with a character that ends the last word of the front.
  cases back with
  | nil => rw [List.append_nil, show words [] = [] from rfl, List.append_nil]
  | cons char back =>
    have noWord : isWord char = false := ends char rfl
    rw [words_append_cons noWord, words_cons noWord]

/-- Where a word begins, a text can be cut without cutting a word. -/
theorem words_append_of_beginsWord {front : Text} (begins : BeginsWord front) (back : Text) :
    words (front ++ back) = words front ++ words back := by
  -- The front ends with a character that no word of the back goes on from.
  rcases List.eq_nil_or_concat' front with rfl | ⟨init, last, rfl⟩
  · rfl
  · have noWord : isWord last = false := begins last List.getLast?_concat
    have init_words : words (init ++ [last]) = words init := by
      rw [words_append_cons noWord, show words [] = [] from rfl, List.append_nil]
    rw [List.append_assoc, List.singleton_append, words_append_cons noWord, init_words]

/-- There are no words between two words. -/
theorem words_of_noWord {text : Text} (noWord : NoWord text) : words text = [] := by
  -- Each character is passed, since none of them begins a word.
  induction text with
  | nil => rfl
  | cons char text ih =>
    rw [words_cons (noWord char List.mem_cons_self)]
    exact ih fun other member => noWord other (List.mem_cons_of_mem _ member)

/-- A text of word characters is its only word. -/
theorem words_of_allWord {text : Text} (nonempty : text ≠ []) (word : AllWord text) :
    words text = [text] := by
  -- It is one piece, which is no gap between two words.
  have whole : splitWhere (fun char => !isWord char) text = [text] :=
    splitWhere_of_all fun char held => by simp [word char held]
  have kept : (!text.isEmpty) = true := by simpa using nonempty
  simp only [words, whole, List.filter_cons, kept, if_true, List.filter_nil]

/-- Between the place where it begins and the place where it ends, a word is one of the words. -/
theorem words_append_word {before word behind : Text} (begins : BeginsWord before)
    (nonempty : word ≠ []) (allWord : AllWord word) (ends : EndsWord behind) :
    words (before ++ (word ++ behind)) = words before ++ word :: words behind := by
  rw [words_append_of_beginsWord begins, words_append_of_endsWord ends,
    words_of_allWord nonempty allWord]
  rfl

/--
The maximal runs of word characters of a text, in order.

Each run is reached over a gap that holds no word character, and it stops only at the end of the
text or before a character that is none.
-/
inductive MaximalRuns : Text → List Text → Prop
  | gap {gap : Text} (noWord : NoWord gap) : MaximalRuns gap []
  | run {gap run rest : Text} {runs : List Text} (noWord : NoWord gap) (nonempty : run ≠ [])
    (allWord : AllWord run) (ends : EndsWord rest) (behind : MaximalRuns rest runs) :
    MaximalRuns (gap ++ (run ++ rest)) (run :: runs)

/-- Every text falls into gaps and maximal runs. -/
theorem exists_maximalRuns (text : Text) : ∃ runs, MaximalRuns text runs := by
  induction text with
  | nil => exact ⟨[], .gap (List.forall_mem_nil _)⟩
  | cons char text ih =>
    obtain ⟨runs, behind⟩ := ih
    by_cases word : isWord char = true
    · -- The character makes a run longer that follows at once, or is a run by itself.
      have alone : AllWord [char] := List.forall_mem_singleton.mpr word
      cases behind with
      | @gap text noWord =>
        have ends : EndsWord text := fun first isHead => noWord first (List.mem_of_mem_head? isHead)
        exact ⟨_, .run (List.forall_mem_nil _) (List.cons_ne_nil char []) alone ends (.gap noWord)⟩
      | @run gap run rest runs noWord nonempty allWord ends behind =>
        cases gap with
        | nil =>
          have longer : AllWord (char :: run) := List.forall_mem_cons.mpr ⟨word, allWord⟩
          exact ⟨_, .run (List.forall_mem_nil _) (List.cons_ne_nil char run) longer ends behind⟩
        | cons first gap =>
          have stops : EndsWord (first :: gap ++ (run ++ rest)) := by
            intro other isHead
            cases Option.some.inj isHead
            exact noWord _ List.mem_cons_self
          exact ⟨_, .run (List.forall_mem_nil _) (List.cons_ne_nil char []) alone stops
            (.run noWord nonempty allWord ends behind)⟩
    · -- The character makes the first gap longer.
      have noWordHere : isWord char = false := eq_false_of_ne_true word
      cases behind with
      | gap noWord => exact ⟨_, .gap (List.forall_mem_cons.mpr ⟨noWordHere, noWord⟩)⟩
      | @run gap run rest runs noWord nonempty allWord ends behind =>
        have longer : NoWord (char :: gap) := List.forall_mem_cons.mpr ⟨noWordHere, noWord⟩
        exact ⟨_, .run longer nonempty allWord ends behind⟩

/-- The words of a text are its maximal runs of word characters, and no other list is. -/
theorem maximalRuns_iff {text : Text} {runs : List Text} :
    MaximalRuns text runs ↔ runs = words text := by
  -- Runs are unique, so those that exist are the words and the other way round.
  have same {runs : List Text} (isRuns : MaximalRuns text runs) : runs = words text := by
    induction isRuns with
    | gap noWord => exact (words_of_noWord noWord).symm
    | run noWord nonempty allWord ends behind ih =>
      rw [words_append_word noWord.beginsWord nonempty allWord ends, words_of_noWord noWord, ← ih]
      rfl
  constructor
  · exact same
  · rintro rfl
    obtain ⟨runs, isRuns⟩ := exists_maximalRuns text
    exact same isRuns ▸ isRuns

/-- A word is made of word characters, and somewhere in the text it ends. -/
theorem exists_of_mem_words {text word : Text} (member : word ∈ words text) :
    AllWord word ∧ ∃ before behind, text = before ++ (word ++ behind) ∧ EndsWord behind := by
  obtain ⟨runs, isRuns⟩ := exists_maximalRuns text
  rw [← maximalRuns_iff.mp isRuns] at member
  induction isRuns with
  | gap noWord => exact absurd member List.not_mem_nil
  | @run gap run rest runs noWord nonempty allWord ends behind ih =>
    rcases List.mem_cons.mp member with rfl | later
    · exact ⟨allWord, gap, rest, rfl, ends⟩
    · -- What stands before a later word also holds the first run and the gap.
      obtain ⟨laterWord, before, after, rfl, laterEnds⟩ := ih later
      exact ⟨laterWord, gap ++ (run ++ before), after, by simp only [List.append_assoc], laterEnds⟩

/-- A word of a text is made of word characters. -/
theorem allWord_of_mem_words {text word : Text} (member : word ∈ words text) : AllWord word :=
  (exists_of_mem_words member).1

/-- No word runs on where one ends. -/
theorem wordEnds_iff {text : Text} : wordEnds text = true ↔ EndsWord text := by
  -- A word ends at the end of the text and before a character that is none of a word.
  cases text with
  | nil => exact iff_of_true rfl fun char isHead => by cases isHead
  | cons char text =>
    rw [wordEnds, Bool.not_eq_true']
    constructor
    · intro noWord other isHead
      cases Option.some.inj isHead
      exact noWord
    · intro ends
      exact ends char rfl

/-- A suffix that ends a word somewhere in a text ends one of its words. -/
theorem holdsSomewhere_startsWithWordEnd_iff {suffix : Text} (nonempty : suffix ≠ [])
    (allWord : AllWord suffix) {text : Text} :
    (text.holdsSomewhere fun place => place.startsWithWordEnd suffix) = true ↔
      ∃ word ∈ words text, word.endsWith suffix = true := by
  rw [holdsSomewhere_iff]
  constructor
  · rintro ⟨front, place, rfl, here⟩
    unfold startsWithWordEnd at here
    split at here
    · next behind found =>
      obtain rfl := eq_append_of_after? found
      -- The word that the suffix ends starts at the last place before it where a word begins.
      obtain ⟨start, split, startWord, begins⟩ := exists_eq_dropEndWhile_append isWord front
      have longer : AllWord (start ++ suffix) := List.forall_mem_append.mpr ⟨startWord, allWord⟩
      refine ⟨start ++ suffix, ?_, endsWith_iff.mpr ⟨start, rfl⟩⟩
      rw [split, List.append_assoc, ← List.append_assoc start, words_append_word begins
        (List.append_ne_nil_of_right_ne_nil start nonempty) longer (wordEnds_iff.mp here)]
      exact List.mem_append_right _ List.mem_cons_self
    · cases here
  · rintro ⟨word, member, ends⟩
    obtain ⟨-, before, behind, rfl, stops⟩ := exists_of_mem_words member
    obtain ⟨start, rfl⟩ := endsWith_iff.mp ends
    refine ⟨before ++ start, suffix ++ behind, by simp only [List.append_assoc], ?_⟩
    unfold startsWithWordEnd
    rw [after?_append]
    exact wordEnds_iff.mpr stops

end EntityDto.Text
