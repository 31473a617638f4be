import EntityDto.Proofs.File.Names

/-!
File names of classes whose names are made of capitalised words: the words in small letters with one
hyphen between neighbours. So no two such names share a file, whichever of the two files it is.
-/

namespace EntityDto

open Text

/-- Whether a character goes on with a capitalised word behind its first letter. -/
def continuesWord (char : Char) : Bool :=
  isSmall char || isDigit char

/-- The small letters and the digits have codes apart from those of the capitals. -/
theorem continuesWord_iff {char : Char} :
    continuesWord char = true ↔
      97 ≤ char.toNat ∧ char.toNat ≤ 122 ∨ 48 ≤ char.toNat ∧ char.toNat ≤ 57 := by
  simp [continuesWord, isSmall, isDigit, Char.le_def, UInt32.le_iff_toNat_le]

/-- What goes on with a word is no capital. -/
theorem isCapital_of_continuesWord {char : Char} (continues : continuesWord char = true) :
    isCapital char = false := by
  rw [← Bool.not_eq_true, isCapital_iff]
  rw [continuesWord_iff] at continues
  omega

/-- A capital does not go on with a word. -/
theorem continuesWord_of_isCapital {char : Char} (capital : isCapital char = true) :
    continuesWord char = false := by
  rw [← Bool.not_eq_true, continuesWord_iff]
  rw [isCapital_iff] at capital
  omega

/-- The small form of a capital lies as far behind it as the small letters behind the capitals. -/
theorem toNat_toLower {char : Char} (capital : isCapital char = true) :
    char.toLower.toNat = char.toNat + 32 := by
  -- The small form of a capital lies a fixed distance behind it, well within the range of codes.
  have range := isCapital_iff.mp capital
  simp only [isCapital, Bool.and_eq_true, decide_eq_true_eq] at capital
  have moved : char.toLower.val = char.val + 32 := congrArg Char.val (dif_pos capital)
  rw [← Char.toNat_val, moved, UInt32.toNat_add, Char.toNat_val]
  exact Nat.mod_eq_of_lt (show char.toNat + 32 < 2 ^ 32 by omega)

/-- A character that is no capital is its own small form. -/
theorem toLower_of_not_isCapital {char : Char} (other : isCapital char = false) :
    char.toLower = char := by
  simp only [← Bool.not_eq_true, isCapital, Bool.and_eq_true, decide_eq_true_eq] at other
  exact dif_neg other

/-- Different capitals have different small forms. -/
theorem eq_of_toLower_eq {char other : Char} (capital : isCapital char = true)
    (otherCapital : isCapital other = true) (same : char.toLower = other.toLower) :
    char = other := by
  have codes := congrArg Char.toNat same
  rw [toNat_toLower capital, toNat_toLower otherCapital] at codes
  exact Char.toNat_inj.mp (by omega)

/-- Lower-casing treats ASCII characters one by one. -/
theorem lowerAscii_eq_toLower (char : Char) : lowerAscii char = char.toLower := by
  unfold lowerAscii
  -- Both move capitals by the same distance and leave every other character.
  split
  · next capital =>
    have range := isCapital_iff.mp capital
    have valid : (char.toNat + 0x20).isValidChar := .inl (by omega)
    rw [← Char.toNat_inj, toNat_ofNat_of_isValidChar valid, toNat_toLower capital]
  · next other => exact (toLower_of_not_isCapital (eq_false_of_ne_true other)).symm

/-- An ASCII text is lower-cased character by character. -/
theorem lowerAfter_of_ascii {text : Text} (ascii : ∀ char ∈ text, char.toNat < 0x80)
    (before : Text) : lowerAfter before text = text.map Char.toLower := by
  induction text generalizing before with
  | nil => rfl
  | cons char text ih =>
    have low := ascii char List.mem_cons_self
    -- The two capitals with a longer or a varying small form lie beyond ASCII.
    have notDotted : char ≠ '\u0130' := by
      rintro rfl
      exact absurd low (by decide)
    have notSigma : char ≠ '\u03A3' := by
      rintro rfl
      exact absurd low (by decide)
    rw [lowerAfter, ih fun other held => ascii other (List.mem_cons_of_mem _ held), lowerBetween,
      if_neg notDotted, if_neg notSigma, lowerChar, if_pos low, lowerAscii_eq_toLower]
    rfl

/-- A capital with at least one small letter or digit behind it. -/
structure CapitalWord where
  capital : Char
  rest : Text
  startsCapital : isCapital capital = true
  nonempty : rest ≠ []
  continues : ∀ char ∈ rest, continuesWord char = true

namespace CapitalWord

/-- The word as it stands in a name. -/
def text (word : CapitalWord) : Text :=
  word.capital :: word.rest

/-- The word in small letters. -/
def smallText (word : CapitalWord) : Text :=
  word.text.map Char.toLower

/-- The name that words make up, one right behind the other. -/
def nameOf (words : List CapitalWord) : Text :=
  words.flatMap text

/-- No small letter stands where a name starts. -/
theorem head?_nameOf (words : List CapitalWord) :
    ∀ char ∈ (nameOf words).head?, isSmall char = false := by
  -- The name begins with the capital of its first word, if it has one.
  cases words with
  | nil => simp [nameOf]
  | cons word words =>
    intro char isHead
    cases Option.some.inj isHead
    have stops := continuesWord_of_isCapital word.startsCapital
    rw [continuesWord, Bool.or_eq_false_iff] at stops
    exact stops.1

/-- A pass over a name that changes nothing before a character that goes on with a word. -/
def SkipsInside (pass : Text → Text) : Prop :=
  ∀ (char next : Char) (rest : Text), continuesWord next = true →
    pass (char :: next :: rest) = char :: pass (next :: rest)

/-- So a word is passed from its capital on. -/
theorem SkipsInside.pass_text {pass : Text → Text} (skips : SkipsInside pass) (word : CapitalWord)
    (rest : Text) : pass (word.text ++ rest) = word.capital :: pass (word.rest ++ rest) := by
  obtain ⟨capital, _ | ⟨next, body⟩, -, nonempty, continues⟩ := word
  · exact absurd rfl nonempty
  · exact skips capital next (body ++ rest) (continues next List.mem_cons_self)

/-- And it is passed up to its last character. -/
theorem SkipsInside.pass_append {pass : Text → Text} (skips : SkipsInside pass) {body : Text}
    {last : Char} (continues : ∀ char ∈ body ++ [last], continuesWord char = true) (rest : Text) :
    pass (body ++ last :: rest) = body ++ pass (last :: rest) := by
  induction body with
  | nil => rfl
  | cons char body ih =>
    have later := ih fun other held => continues other (List.mem_cons_of_mem _ held)
    -- Behind the character stands another one of the word, if only its last one.
    obtain ⟨next, behind, follows, inside⟩ : ∃ next behind, body ++ last :: rest = next :: behind
        ∧ continuesWord next = true := by
      cases body with
      | nil => exact ⟨last, rest, rfl, continues last (by simp)⟩
      | cons next body => exact ⟨next, body ++ last :: rest, rfl, continues next (by simp)⟩
    rw [List.cons_append, follows, skips char next behind inside, ← follows, later,
      List.cons_append]

/-- Words behind another one, with a hyphen before some of them and none before the others. -/
inductive TailOf : List CapitalWord → Text → Prop
  | nil : TailOf [] []
  | close (word : CapitalWord) {words : List CapitalWord} {rest : Text}
    (behind : TailOf words rest) : TailOf (word :: words) (word.text ++ rest)
  | apart (word : CapitalWord) {words : List CapitalWord} {rest : Text}
    (behind : TailOf words rest) : TailOf (word :: words) ('-' :: (word.text ++ rest))

/-- The first pass looks for a capital behind each character. -/
theorem skipsInside_hyphenateWords : SkipsInside hyphenateWords := by
  intro char next rest continues
  rw [hyphenateWords, isCapital_of_continuesWord continues]
  simp only [Bool.and_false, Bool.false_and, Bool.false_eq_true, if_false]

/-- The first pass leaves all words in place and puts hyphens before some of them. -/
theorem exists_tailOf_hyphenateWords (words : List CapitalWord) {body : Text}
    (continues : ∀ char ∈ body, continuesWord char = true) :
    ∃ rest, TailOf words rest ∧ hyphenateWords (body ++ nameOf words) = body ++ rest := by
  have skips := skipsInside_hyphenateWords
  induction words generalizing body with
  | nil =>
    refine ⟨[], .nil, ?_⟩
    rw [nameOf, List.flatMap_nil, List.append_nil]
    rcases List.eq_nil_or_concat' body with rfl | ⟨front, last, rfl⟩
    · rw [hyphenateWords]
    · rw [skips.pass_append continues, hyphenateWords]
  | cons word words ih =>
    have starts : nameOf (word :: words) = word.capital :: (word.rest ++ nameOf words) := rfl
    -- Where no hyphen is put before the word, the scan goes on behind its capital.
    obtain ⟨behind, tail, passed⟩ := ih word.continues
    have plain : hyphenateWords (nameOf (word :: words)) = word.text ++ behind := by
      rw [starts, ← List.cons_append, ← text, skips.pass_text, passed]
      rfl
    rcases List.eq_nil_or_concat' body with rfl | ⟨front, last, rfl⟩
    · exact ⟨_, .close word tail, plain⟩
    · obtain ⟨taken, dropped⟩ := takeWhile_append_of_head (head?_nameOf words) word.rest
      rw [List.append_assoc, List.singleton_append, skips.pass_append continues, starts,
        hyphenateWords, taken, dropped]
      split
      · -- Where one is put, the scan goes on behind the small letters of the word.
        obtain ⟨later, laterTail, laterPassed⟩ :=
          ih fun char held => word.continues char ((List.dropWhile_sublist isSmall).subset held)
        have whole : word.rest.takeWhile isSmall ++ (word.rest.dropWhile isSmall ++ later)
            = word.rest ++ later := by
          rw [← List.append_assoc, List.takeWhile_append_dropWhile]
        refine ⟨_, .apart word laterTail, ?_⟩
        rw [laterPassed, List.append_assoc]
        simp only [List.cons_append, whole, text]
        rfl
      · rw [← starts, plain]
        exact ⟨_, .close word tail, by rw [List.append_assoc]; rfl⟩

/-- The second pass looks for a capital behind each character, too. -/
theorem skipsInside_hyphenateCapitals : SkipsInside hyphenateCapitals := by
  intro char next rest continues
  rw [hyphenateCapitals, isCapital_of_continuesWord continues]
  simp only [Bool.and_false, Bool.false_eq_true, if_false]

/-- The words with a hyphen before each of them. -/
def hyphened (words : List CapitalWord) : Text :=
  words.flatMap fun word => '-' :: word.text

/-- What a pass makes of a word and of what follows is settled at the last character of the word. -/
theorem SkipsInside.pass_word {pass : Text → Text} (skips : SkipsInside pass) {rest behind : Text}
    (fromLast : ∀ last, continuesWord last = true → pass (last :: rest) = last :: behind)
    (word : CapitalWord) : pass (word.text ++ rest) = word.text ++ behind := by
  -- Inside a word nothing is changed, so only its last letter meets what follows.
  obtain ⟨front, last, ends⟩ := (List.eq_nil_or_concat' word.rest).resolve_left word.nonempty
  have continues := word.continues
  rw [ends] at continues
  rw [skips.pass_text, text, ends, List.append_assoc, List.singleton_append,
    skips.pass_append continues, fromLast last (continues last (by simp))]
  simp

/-- The second pass puts a hyphen before exactly those words behind another one that have none. -/
theorem TailOf.hyphenateCapitals_eq {words : List CapitalWord} {rest : Text}
    (tail : TailOf words rest) {last : Char} (continues : continuesWord last = true) :
    hyphenateCapitals (last :: rest) = last :: hyphened words := by
  have skips := skipsInside_hyphenateCapitals
  induction tail generalizing last with
  | nil => rfl
  | @close word words rest behind ih =>
    -- The last character and the capital meet without a hyphen, so one is put between them.
    have meets : ((isSmall last || isDigit last) && isCapital word.capital) = true := by
      rw [← continuesWord, continues, word.startsCapital]
      rfl
    have parted : hyphenateCapitals (last :: (word.text ++ rest))
        = last :: '-' :: hyphenateCapitals (word.text ++ rest) := by
      rw [text, List.cons_append, hyphenateCapitals, if_pos meets]
    rw [parted, skips.pass_word (fun _ => ih) word]
    rfl
  | @apart word words rest behind ih =>
    -- The hyphen is no capital, and it does not go on with a word.
    have beforeHyphen : hyphenateCapitals (last :: '-' :: (word.text ++ rest))
        = last :: hyphenateCapitals ('-' :: (word.text ++ rest)) := by
      rw [hyphenateCapitals, show isCapital '-' = false from rfl, Bool.and_false,
        if_neg Bool.false_ne_true]
    have behindHyphen : hyphenateCapitals ('-' :: (word.text ++ rest))
        = '-' :: hyphenateCapitals (word.text ++ rest) := by
      rw [text, List.cons_append, hyphenateCapitals, ← continuesWord,
        show continuesWord '-' = false from rfl, Bool.false_and, if_neg Bool.false_ne_true]
    rw [beforeHyphen, behindHyphen, skips.pass_word (fun _ => ih) word]
    rfl

/-- Both passes together put one hyphen between any two neighbours. -/
theorem hyphenate_nameOf (words : List CapitalWord) :
    hyphenateCapitals (hyphenateWords (nameOf words)) = join ['-'] (words.map text) := by
  -- The first word gets no hyphen in front, and each later one gets it in one of the passes.
  cases words with
  | nil => rw [nameOf, List.flatMap_nil, hyphenateWords]; rfl
  | cons word words =>
    obtain ⟨rest, tail, passed⟩ := exists_tailOf_hyphenateWords words word.continues
    have first : hyphenateWords (nameOf (word :: words)) = word.text ++ rest := by
      rw [nameOf, List.flatMap_cons, ← nameOf, skipsInside_hyphenateWords.pass_text, passed]
      rfl
    rw [first, skipsInside_hyphenateCapitals.pass_word (fun _ => tail.hyphenateCapitals_eq) word,
      List.map_cons, join_cons, List.flatMap_map]
    rfl

/-- A word holds capitals, small letters and digits only. -/
theorem of_mem_text {word : CapitalWord} {char : Char} (member : char ∈ word.text) :
    isCapital char = true ∨ continuesWord char = true := by
  rcases List.mem_cons.mp member with rfl | inRest
  · exact .inl word.startsCapital
  · exact .inr (word.continues char inRest)

/-- So does a name made of words. -/
theorem of_mem_nameOf {words : List CapitalWord} {char : Char} (member : char ∈ nameOf words) :
    isCapital char = true ∨ continuesWord char = true := by
  obtain ⟨word, -, inWord⟩ := List.mem_flatMap.mp member
  exact of_mem_text inWord

/-- The hyphenated words are lower-cased one by one. -/
theorem kebabCase_nameOf (words : List CapitalWord) :
    kebabCase (nameOf words) = join ['-'] (words.map smallText) := by
  -- Whatever the passes put between the words or leave standing there is ASCII.
  have ascii : ∀ char ∈ hyphenateCapitals (hyphenateWords (nameOf words)), char.toNat < 0x80 := by
    intro char member
    rcases of_mem_hyphenateCapitals member with rfl | held
    · decide
    · rcases of_mem_hyphenateWords held with rfl | held
      · decide
      · rcases of_mem_nameOf held with capital | continues
        · have range := isCapital_iff.mp capital
          omega
        · have range := continuesWord_iff.mp continues
          omega
  rw [kebabCase, lower, lowerAfter_of_ascii ascii, hyphenate_nameOf, map_join, List.map_map]
  rfl

/-- Only the capital of a word has a small form other than itself. -/
theorem smallText_eq (word : CapitalWord) : word.smallText = word.capital.toLower :: word.rest := by
  -- Behind its capital, a word holds no other one.
  have same : word.rest.map Char.toLower = word.rest.map id :=
    List.map_congr_left fun char held =>
      toLower_of_not_isCapital (isCapital_of_continuesWord (word.continues char held))
  rw [smallText, text, List.map_cons, same, List.map_id]

/-- Words with the same small form are the same. -/
theorem text_eq_of_smallText_eq {word other : CapitalWord}
    (same : word.smallText = other.smallText) : word.text = other.text := by
  rw [smallText_eq, smallText_eq, List.cons.injEq] at same
  rw [text, text, eq_of_toLower_eq word.startsCapital other.startsCapital same.1, same.2]

/-- So words are told by their small forms. -/
theorem map_text_eq_of_map_smallText_eq {words others : List CapitalWord}
    (same : words.map smallText = others.map smallText) : words.map text = others.map text := by
  -- The words are compared one by one, and neither list ends before the other.
  induction words generalizing others with
  | nil =>
    rw [List.map_nil, eq_comm, List.map_eq_nil_iff] at same
    rw [same]
  | cons word words ih =>
    cases others with
    | nil => cases same
    | cons other others =>
      rw [List.map_cons, List.map_cons, List.cons.injEq] at same
      rw [List.map_cons, List.map_cons, text_eq_of_smallText_eq same.1, ih same.2]

/-- A small form holds no hyphen. -/
theorem hyphen_not_mem_smallText (word : CapitalWord) :
    ∀ char ∈ word.smallText, decide (char = '-') = false := by
  intro char member
  rw [decide_eq_false_iff_not]
  rintro rfl
  rw [smallText_eq] at member
  rcases List.mem_cons.mp member with isFirst | inRest
  · -- The hyphen lies before the capitals, and their small forms lie behind them.
    have moved := toNat_toLower word.startsCapital
    have range := isCapital_iff.mp word.startsCapital
    rw [← isFirst] at moved
    have code : '-'.toNat = 45 := rfl
    omega
  · exact absurd (word.continues _ inRest) (by decide)

/-- Cut at its hyphens, a hyphenated name falls into the small forms of its words. -/
theorem splitWhere_kebabCase {words : List CapitalWord} (some : words ≠ []) :
    splitWhere (fun char => char = '-') (kebabCase (nameOf words)) = words.map smallText := by
  rw [kebabCase_nameOf]
  -- No word holds a hyphen, so the name splits at those between the words alone.
  refine splitWhere_join rfl (mt List.map_eq_nil_iff.mp some) fun text listed => ?_
  obtain ⟨word, -, rfl⟩ := List.mem_map.mp listed
  exact word.hyphen_not_mem_smallText

/-- Only a name without words is hyphenated to nothing. -/
theorem kebabCase_nameOf_eq_nil_iff {words : List CapitalWord} :
    kebabCase (nameOf words) = [] ↔ words = [] := by
  rw [kebabCase_nameOf]
  -- Every word has a capital, so a name of words is not empty.
  cases words with
  | nil => exact iff_of_true rfl rfl
  | cons word words => simp [join_cons, smallText_eq]

/-- Names made of words are told by their hyphenated forms. -/
theorem kebabCase_nameOf_eq_iff {words others : List CapitalWord} :
    kebabCase (nameOf words) = kebabCase (nameOf others) ↔ nameOf words = nameOf others := by
  refine ⟨fun same => ?_, congrArg kebabCase⟩
  have bothEmpty : words = [] ↔ others = [] := by
    rw [← kebabCase_nameOf_eq_nil_iff, same, kebabCase_nameOf_eq_nil_iff]
  by_cases empty : words = []
  · rw [empty, bothEmpty.mp empty]
  · -- The pieces between the hyphens tell the words, and these make up the name.
    have pieces := congrArg (splitWhere fun char => decide (char = '-')) same
    rw [splitWhere_kebabCase empty, splitWhere_kebabCase (mt bothEmpty.mpr empty)] at pieces
    rw [nameOf, nameOf, List.flatMap_def, List.flatMap_def, map_text_eq_of_map_smallText_eq pieces]

/-- No point stands in a hyphenated name. -/
theorem point_not_mem_kebabCase (words : List CapitalWord) : '.' ∉ kebabCase (nameOf words) := by
  intro member
  -- A character of the result is one of a word, a hyphen or a letter, and a point is none.
  rcases of_mem_kebabCase member with held | hyphen | letter
  · rcases of_mem_nameOf held with capital | continues
    · exact absurd capital (by decide)
    · exact absurd continues (by decide)
  · exact absurd hyphen (by decide)
  · exact absurd letter (by decide)

/--
Each class named by words has two files of its own.

Their names are the words in small letters with one hyphen between neighbours, however long the
words are and whichever of their characters are digits. Two names made of words share a request file
or a response file only if they are the same, and no request file of such a class is the response
file of any class.
-/
theorem fileNames_apart (words : List CapitalWord) :
    kebabCase (nameOf words) = join ['-'] (words.map smallText)
    ∧ (∀ others, requestFileName (nameOf words) = requestFileName (nameOf others) ↔
      nameOf words = nameOf others)
    ∧ (∀ others, responseFileName (nameOf words) = responseFileName (nameOf others) ↔
      nameOf words = nameOf others)
    ∧ ∀ other, requestFileName (nameOf words) ≠ responseFileName other := by
  refine ⟨kebabCase_nameOf words, fun others => ?_, fun others => ?_, fun other same => ?_⟩
  · rw [requestFileName, requestFileName, List.append_left_inj, kebabCase_nameOf_eq_iff]
  · rw [responseFileName, responseFileName, List.append_left_inj, kebabCase_nameOf_eq_iff]
  · -- Without the common ending, the response file still has a point in its name.
    have ending : ".res.dto.ts".toList = ".res".toList ++ ".dto.ts".toList := rfl
    rw [requestFileName, responseFileName, ending, ← List.append_assoc,
      List.append_left_inj] at same
    refine point_not_mem_kebabCase words ?_
    rw [same]
    simp

example : kebabCase "H2oA1Bc2DeF9".toList = "h2o-a1-bc2-de-f9".toList := by
  decide +kernel

end CapitalWord

end EntityDto
