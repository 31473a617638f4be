import EntityDto.Entity
import EntityDto.Proofs.Text.Gaps
import EntityDto.Proofs.Text.LineEndings

/-! Where the search for an exported class stops, and which lines it passes over. -/

namespace EntityDto

open Text

/-- Somewhere in the text stand an export word, blanks and a class word in a row. -/
def ExportsClass (text : Text) : Prop :=
  ∃ blanks, blanks ≠ [] ∧ AllBlank blanks
    ∧ "export".toList ++ (blanks ++ "class".toList) <:+: text

/-- What follows an export word, blanks and a class word, for a text that starts with them. -/
def afterExportClass? (text : Text) : Option Text :=
  ((after? "export".toList text).bind afterBlanks?).bind (after? "class".toList)

/-- What is skipped at a class declaration is the two words and the blanks between them. -/
theorem afterExportClass?_eq_some_iff {text rest : Text} :
    afterExportClass? text = some rest ↔
      ∃ blanks, blanks ≠ [] ∧ AllBlank blanks
        ∧ text = "export".toList ++ (blanks ++ "class".toList) ++ rest := by
  simp only [afterExportClass?, Option.bind_eq_some_iff, after?_eq_some_iff,
    afterBlanks?_eq_some_iff, List.append_assoc]
  constructor
  · rintro ⟨_, ⟨_, rfl, blanks, nonempty, blank, _, rfl⟩, rfl⟩
    exact ⟨blanks, nonempty, blank, rfl⟩
  · rintro ⟨blanks, nonempty, blank, rfl⟩
    -- The class word starts with a letter, so the blanks end right before it.
    have solid : StartsSolid ("class".toList ++ rest) := startsSolid_cons (by decide) _
    exact ⟨_, ⟨_, rfl, blanks, nonempty, blank, solid, rfl⟩, rfl⟩

/-- The two words occur in a text exactly when they are found at some place of it. -/
theorem exportsClass_iff {text : Text} :
    ExportsClass text ↔
      holdsSomewhere (fun place => (afterExportClass? place).isSome) text = true := by
  simp only [ExportsClass, holdsSomewhere_iff, Option.isSome_iff_exists,
    afterExportClass?_eq_some_iff]
  -- The front of the occurrence is what stands before the place of the search.
  constructor
  · rintro ⟨blanks, nonempty, blank, front, back, rfl⟩
    exact ⟨front, _, List.append_assoc .., back, blanks, nonempty, blank, rfl⟩
  · rintro ⟨front, _, rfl, back, blanks, nonempty, blank, rfl⟩
    exact ⟨blanks, nonempty, blank, front, back, List.append_assoc ..⟩

instance (text : Text) : Decidable (ExportsClass text) :=
  decidable_of_iff _ exportsClass_iff.symm

/-- A class declaration spells its class word. -/
theorem ExportsClass.mem {text : Text} (exported : ExportsClass text) : 'c' ∈ text := by
  obtain ⟨blanks, -, -, occurs⟩ := exported
  have spelled : 'c' ∈ "class".toList := by decide
  exact occurs.subset (List.mem_append_right _ (List.mem_append_right _ spelled))

/-- A character that no class declaration holds keeps the texts around it apart. -/
theorem ExportsClass.of_append_cons {front back : Text} {stop : Char}
    (exported : ExportsClass (front ++ stop :: back)) (notBlank : isBlank stop = false)
    (notExport : stop ∉ "export".toList) (notClass : stop ∉ "class".toList) :
    ExportsClass front ∨ ExportsClass back := by
  obtain ⟨blanks, nonempty, blank, occurs⟩ := exported
  have outside : stop ∉ "export".toList ++ (blanks ++ "class".toList) := by
    simp only [List.mem_append, not_or]
    refine ⟨notExport, ?_, notClass⟩
    intro member
    rw [blank stop member] at notBlank
    exact Bool.false_ne_true notBlank.symm
  -- A part of the two words that reaches the stop would hold it.
  have noPrefix : ∀ part, part ≠ [] → part <+: stop :: back → stop ∈ part := by
    rintro part partNonempty ⟨rest, split⟩
    obtain ⟨first, part, rfl⟩ := List.exists_cons_of_ne_nil partNonempty
    rw [List.cons_append, List.cons.injEq] at split
    simp [split.1]
  rcases List.infix_append_iff_ne_nil.mp occurs with
    inFront | inBack | ⟨first, second, _, reaches, split, _, inBack⟩
  · exact .inl ⟨blanks, nonempty, blank, inFront⟩
  · rcases List.infix_cons_iff.mp inBack with atStop | inBack
    · exact absurd (noPrefix _ (by simp) atStop) outside
    · exact .inr ⟨blanks, nonempty, blank, inBack⟩
  · have held := noPrefix second reaches inBack
    rw [split] at outside
    exact absurd (List.mem_append_right first held) outside

/-- The name a class declaration gives, read off behind its two words. -/
theorem classNameHere?_eq (text : Text) :
    classNameHere? text =
      match afterExportClass? text with
      | none => none
      | some rest =>
        match afterBlanks? rest with
        | none => none
        | some rest =>
          if (rest.takeWhile isWord).isEmpty then none else some (rest.takeWhile isWord) :=
  rfl

/-- Where the two words are missing there is no class name. -/
theorem classNameHere?_eq_none {text : Text} (missing : afterExportClass? text = none) :
    classNameHere? text = none := by
  rw [classNameHere?_eq, missing]

/-- Behind a class declaration's two words and blanks, the whole word is the name. -/
theorem className?_of_declaration {name rest : Text} (nonempty : name ≠ [])
    (word : AllWord name) (ends : EndsWord rest) :
    className? ("export class ".toList ++ (name ++ rest)) = some name := by
  apply findFrom?_of_some
  -- The name starts solid, so the blank before it is skipped alone.
  have solid : StartsSolid (name ++ rest) := by
    obtain ⟨first, name, rfl⟩ := List.exists_cons_of_ne_nil nonempty
    exact startsSolid_cons (isBlank_eq_false_of_isWord (word first (by simp))) _
  have skipped : afterExportClass? ("export class ".toList ++ (name ++ rest))
      = some (" ".toList ++ (name ++ rest)) :=
    afterExportClass?_eq_some_iff.mpr ⟨[' '], by simp, by decide, by simp⟩
  have named : afterBlanks? (" ".toList ++ (name ++ rest)) = some (name ++ rest) :=
    afterBlanks?_eq_some_iff.mpr ⟨[' '], by simp, by decide, solid, rfl⟩
  simp only [classNameHere?_eq, skipped, named, takeWhile_append_of_stop word ends,
    List.isEmpty_eq_false_iff.mpr nonempty, Bool.false_eq_true, if_false]

/-- Whether the first thing in a text that is not blank is something else than a class word. -/
def OpensNoClass (text : Text) : Prop :=
  after? "class".toList (trimStart text) = none

/-- Lines that open no class may follow each other, blank ones included. -/
theorem OpensNoClass.append {line rest : Text} (lineOpens : OpensNoClass line)
    (restOpens : OpensNoClass rest) : OpensNoClass (line ++ '\n' :: rest) := by
  have feedBlank : isBlank '\n' = true := by decide
  unfold OpensNoClass
  by_cases left : trimStart line = []
  · -- A blank line is skipped with its break.
    have blank : AllBlank line := List.dropWhile_eq_nil_iff.mp left
    rw [trimStart_append blank, trimStart_cons feedBlank]
    exact restOpens
  · -- Something solid stands in the line, and what opens there is decided in the line alone.
    rw [trimStart_append_of_ne_nil left, after?_append_cons (by decide),
      show after? "class".toList (trimStart line) = none from lineOpens]
    rfl

/-- The two words are not found across the end of a line when the next one opens no class. -/
theorem afterExportClass?_append_line {line rest : Text} (missing : afterExportClass? line = none)
    (opens : OpensNoClass rest) : afterExportClass? (line ++ '\n' :: rest) = none := by
  have feedBlank : isBlank '\n' = true := by decide
  rw [afterExportClass?, after?_append_cons (by decide)]
  cases exported : after? "export".toList line with
  | none => rfl
  | some behind =>
    -- What matters is whether blanks and a class word follow, now with more text behind them.
    simp only [Option.map_some, Option.bind_some]
    cases behind with
    | nil =>
      -- The export word ends the line, so the blanks run on into the next one.
      simp only [List.nil_append, afterBlanks?, feedBlank, if_true, Option.bind_some]
      exact opens
    | cons char behind =>
      by_cases blank : isBlank char = true
      · -- The line itself has no class word behind the blanks, and so has none behind its end.
        simp only [List.cons_append, afterBlanks?, blank, if_true, Option.bind_some]
        have lineOpens : OpensNoClass behind := by
          simpa only [OpensNoClass, afterExportClass?, exported, Option.bind_some, afterBlanks?,
            blank, if_true] using missing
        exact lineOpens.append opens
      · simp [afterBlanks?, blank]

/-- A line without a class declaration is passed over when the next one opens no class. -/
theorem className?_append_line {line rest : Text} (noClass : ¬ ExportsClass line)
    (opens : OpensNoClass rest) : className? (line ++ '\n' :: rest) = className? rest := by
  induction line with
  | nil =>
    -- A break is no start of a declaration.
    exact findFrom?_cons_of_none (classNameHere?_eq_none rfl)
  | cons char line ih =>
    -- Neither here nor further on in the line do the two words stand.
    rw [exportsClass_iff, holdsSomewhere, Bool.or_eq_true, not_or, ← exportsClass_iff] at noClass
    have missing : afterExportClass? (char :: line) = none := by simpa using noClass.1
    have nothing := classNameHere?_eq_none (afterExportClass?_append_line missing opens)
    exact (findFrom?_cons_of_none nothing).trans (ih noClass.2)

/-- Lines without a class declaration, none of which opens a class, are passed over. -/
theorem className?_joinLines {front back : List Text} (more : back ≠ [])
    (noClass : ∀ line ∈ front, ¬ ExportsClass line) (opens : ∀ line ∈ front, OpensNoClass line)
    (backOpens : OpensNoClass (joinLines back)) :
    className? (joinLines (front ++ back)) = className? (joinLines back) := by
  -- The lines behind a line open no class either, which the induction carries along.
  suffices passed : OpensNoClass (joinLines (front ++ back))
      ∧ className? (joinLines (front ++ back)) = className? (joinLines back) from passed.2
  induction front with
  | nil => exact ⟨backOpens, rfl⟩
  | cons line front ih =>
    obtain ⟨restOpens, passed⟩ := ih (fun other member => noClass other (by simp [member]))
      fun other member => opens other (by simp [member])
    rw [List.cons_append, joinLines_cons line (by simp [more])]
    exact ⟨(opens line (by simp)).append restOpens,
      (className?_append_line (noClass line (by simp)) restOpens).trans passed⟩

/-- Merging breaks keeps where the two words of a class declaration stand. -/
theorem afterExportClass?_mergeBreaks (text : Text) :
    afterExportClass? (mergeBreaks text) = (afterExportClass? text).map mergeBreaks := by
  -- Neither word holds a break, and the blanks between them may well hold some.
  rw [afterExportClass?, afterExportClass?, after?_mergeBreaks (by decide) (by decide)]
  cases after? "export".toList text with
  | none => rfl
  | some behind =>
    simp only [Option.map_some, Option.bind_some, afterBlanks?_mergeBreaks]
    cases afterBlanks? behind with
    | none => rfl
    | some rest => simp only [Option.map_some, Option.bind_some,
        after?_mergeBreaks (by decide : '\r' ∉ "class".toList) (by decide)]

/-- Merging breaks keeps the class name declared at a place. -/
theorem classNameHere?_mergeBreaks (text : Text) :
    classNameHere? (mergeBreaks text) = classNameHere? text := by
  -- Behind the two words and their blanks, the name ends before any break.
  rw [classNameHere?_eq, classNameHere?_eq, afterExportClass?_mergeBreaks]
  cases afterExportClass? text with
  | none => rfl
  | some rest =>
    simp only [Option.map_some, afterBlanks?_mergeBreaks]
    cases afterBlanks? rest with
    | none => rfl
    | some rest => simp only [Option.map_some, takeWhile_isWord_mergeBreaks]

/-- Merging breaks keeps the class name of a source. -/
theorem className?_mergeBreaks (source : Text) :
    className? (mergeBreaks source) = className? source := by
  have feedStartsNone (rest : Text) : classNameHere? ('\n' :: rest) = none :=
    classNameHere?_eq_none rfl
  have returnStartsNone (rest : Text) : classNameHere? ('\r' :: rest) = none :=
    classNameHere?_eq_none rfl
  unfold className?
  fun_induction mergeBreaks source with
  | case1 => rfl
  | case2 rest ih =>
    -- Neither character of a pair starts a declaration, and nor does the line feed that stays.
    simp only [findFrom?, feedStartsNone, returnStartsNone, ih]
  | case3 char rest noPair ih =>
    -- At a character that stays, the same declaration starts on both sides, or none.
    have here := classNameHere?_mergeBreaks (char :: rest)
    rw [mergeBreaks.eq_3 char rest noPair] at here
    simp only [findFrom?, here, ih]

/-- The word that a text starts with, if it starts with one. -/
def wordHere? (text : Text) : Option Text :=
  if (text.takeWhile isWord).isEmpty then none else some (text.takeWhile isWord)

/-- The name a class declaration gives is the word behind its two words and their blanks. -/
theorem classNameHere?_eq_bind (text : Text) :
    classNameHere? text =
      (((after? "export".toList text).bind afterBlanks?).bind (after? "class".toList)).bind
        fun rest => (afterBlanks? rest).bind wordHere? := by
  rw [classNameHere?_eq, afterExportClass?]
  -- Without the two words in front, no name is looked for on either side.
  cases ((after? "export".toList text).bind afterBlanks?).bind (after? "class".toList) with
  | none => rfl
  | some rest =>
    simp only [Option.bind_some]
    cases afterBlanks? rest <;> rfl

/-- A class declaration is recognised however wide the gaps between its words are. -/
theorem ignoresGaps_classNameHere? : IgnoresGaps classNameHere? where
  squeezed text := by
    rw [classNameHere?_eq_bind, classNameHere?_eq_bind, after?_squeeze (by decide)]
    cases after? "export".toList text with
    | none => rfl
    | some behind =>
      simp only [Option.map_some, Option.bind_some, Option.bind_assoc]
      rw [bind_afterBlanks?_squeeze rfl]
      congr 1
      funext rest
      rw [after?_squeeze (by decide)]
      cases after? "class".toList rest with
      | none => rfl
      | some behind =>
        simp only [Option.map_some, Option.bind_some]
        rw [bind_afterBlanks?_squeeze rfl]
        congr 1
        funext rest
        simp only [wordHere?, takeWhile_isWord_squeeze]
  atBlank char rest blank := by
    -- The declaration would start with the first letter of its first word.
    have different : 'e' ≠ char := by
      rintro rfl
      exact absurd blank (by decide)
    have noWord := after?_eq_none_of_ne different "xport".toList rest
    rw [classNameHere?_eq_bind, show after? "export".toList (char :: rest) = none from noWord]
    rfl
  atEnd := rfl

/-- No class declaration runs across a character that is neither a blank nor part of a word. -/
theorem stopsAt_classNameHere? {stop : Char} (solid : isBlank stop = false)
    (ends : isWord stop = false) : StopsAt stop classNameHere? := by
  intro front back
  have noExport : stop ∉ "export".toList := AllWord.not_mem (by decide) ends
  have noClass : stop ∉ "class".toList := AllWord.not_mem (by decide) ends
  rw [classNameHere?_eq_bind, classNameHere?_eq_bind, after?_append_cons noExport]
  cases after? "export".toList front with
  | none => rfl
  | some behind =>
    simp only [Option.map_some, Option.bind_some, afterBlanks?_append_cons solid]
    cases afterBlanks? behind with
    | none => rfl
    | some rest =>
      simp only [Option.map_some, Option.bind_some]
      rw [after?_append_cons noClass]
      cases after? "class".toList rest with
      | none => rfl
      | some behind =>
        simp only [Option.map_some, Option.bind_some, afterBlanks?_append_cons solid]
        cases afterBlanks? behind with
        | none => rfl
        | some rest =>
          -- The name ends before the character at the latest.
          have name : (rest ++ stop :: back).takeWhile isWord = rest.takeWhile isWord := by
            induction rest with
            | nil => exact List.takeWhile_cons_of_neg (by simp [ends])
            | cons char rest ih => rw [List.cons_append, List.takeWhile_cons, List.takeWhile_cons, ih]
          simp only [Option.map_some, Option.bind_some, wordHere?, name]

/-- A text starts with a word exactly when it is that word with something behind that ends it. -/
theorem wordHere?_eq_some_iff {text name : Text} :
    wordHere? text = some name ↔
      name ≠ [] ∧ AllWord name ∧ ∃ rest, EndsWord rest ∧ text = name ++ rest := by
  constructor
  · intro found
    unfold wordHere? at found
    split at found
    · -- The longest run of word characters stops at what is no word character.
      cases found
    · next nonempty =>
      cases Option.some.inj found
      refine ⟨by simpa using nonempty, fun char member => List.mem_takeWhile_imp member,
        text.dropWhile isWord, ?_, List.takeWhile_append_dropWhile.symm⟩
      intro char isHead
      have stops := List.head?_dropWhile_not isWord text
      rw [isHead] at stops
      simpa using stops
  · rintro ⟨nonempty, word, rest, ends, rfl⟩
    rw [wordHere?, takeWhile_append_of_stop word ends, if_neg (by simpa using nonempty)]

/--
A class declaration starts right here: an export word, a class word and the name, with blanks between.

The name is the whole word that stands there, not a part of it.
-/
def DeclaresHere (name place : Text) : Prop :=
  ∃ blanks gap rest, blanks ≠ [] ∧ AllBlank blanks ∧ gap ≠ [] ∧ AllBlank gap
    ∧ name ≠ [] ∧ AllWord name ∧ EndsWord rest
    ∧ place = "export".toList ++ (blanks ++ "class".toList) ++ (gap ++ (name ++ rest))

/-- The name that is read here is the one of the declaration that starts here. -/
theorem classNameHere?_eq_some_iff {place name : Text} :
    classNameHere? place = some name ↔ DeclaresHere name place := by
  have steps : classNameHere? place =
      (afterExportClass? place).bind fun rest => (afterBlanks? rest).bind wordHere? :=
    classNameHere?_eq_bind place
  simp only [steps, Option.bind_eq_some_iff, afterExportClass?_eq_some_iff,
    afterBlanks?_eq_some_iff, wordHere?_eq_some_iff]
  constructor
  · rintro ⟨_, ⟨blanks, apart, blank, rfl⟩, _, ⟨gap, wide, gapBlank, -, rfl⟩,
      nonempty, word, rest, ends, rfl⟩
    exact ⟨blanks, gap, rest, apart, blank, wide, gapBlank, nonempty, word, ends, rfl⟩
  · rintro ⟨blanks, gap, rest, apart, blank, wide, gapBlank, nonempty, word, ends, rfl⟩
    -- The name starts solid, so the gap is skipped up to it.
    have solid : StartsSolid (name ++ rest) := by
      obtain ⟨first, name, rfl⟩ := List.exists_cons_of_ne_nil nonempty
      exact startsSolid_cons (isBlank_eq_false_of_isWord (word first (by simp))) _
    exact ⟨_, ⟨blanks, apart, blank, rfl⟩, _, ⟨gap, wide, gapBlank, solid, rfl⟩,
      nonempty, word, rest, ends, rfl⟩

/-- The leftmost class declaration of a source gives it the name. -/
def DeclaresFirst (name source : Text) : Prop :=
  ∃ above place, source = above ++ place ∧ DeclaresHere name place
    ∧ ∀ before behind, source = before ++ behind → before.length < above.length →
      ∀ other, ¬ DeclaresHere other behind

/-- The class search finds the name of the leftmost class declaration. -/
theorem className?_eq_some_iff {source name : Text} :
    className? source = some name ↔ DeclaresFirst name source := by
  simp only [className?, findFrom?_eq_some_iff, Option.eq_none_iff_forall_ne_some, ne_eq,
    classNameHere?_eq_some_iff, DeclaresFirst]

/-- A class name is a word that is not empty. -/
theorem allWord_of_className?_eq_some {source name : Text} (found : className? source = some name) :
    name ≠ [] ∧ AllWord name := by
  obtain ⟨-, -, -, ⟨-, -, -, -, -, -, -, nonempty, word, -⟩, -⟩ := className?_eq_some_iff.mp found
  exact ⟨nonempty, word⟩

/-- A class declaration starts here exactly when its two words and a name do, with blanks between. -/
theorem isSome_classNameHere?_iff {text : Text} :
    (classNameHere? text).isSome = true ↔
      ∃ blanks gap char rest, blanks ≠ [] ∧ AllBlank blanks ∧ gap ≠ [] ∧ AllBlank gap
        ∧ isWord char = true
        ∧ text = "export".toList ++ (blanks ++ "class".toList) ++ (gap ++ char :: rest) := by
  simp only [Option.isSome_iff_exists, classNameHere?_eq_some_iff, DeclaresHere]
  constructor
  · rintro ⟨name, blanks, gap, rest, apart, blank, wide, gapBlank, nonempty, word, -, rfl⟩
    obtain ⟨char, name, rfl⟩ := List.exists_cons_of_ne_nil nonempty
    exact ⟨blanks, gap, char, name ++ rest, apart, blank, wide, gapBlank, word char (by simp), rfl⟩
  · rintro ⟨blanks, gap, char, rest, apart, blank, wide, gapBlank, word, rfl⟩
    -- The name goes on from its first character as far as the word does.
    have isRead : wordHere? (char :: rest) = some (char :: rest.takeWhile isWord) := by
      simp [wordHere?, word]
    obtain ⟨nonempty, allWord, behind, ends, split⟩ := wordHere?_eq_some_iff.mp isRead
    exact ⟨_, blanks, gap, behind, apart, blank, wide, gapBlank, nonempty, allWord, ends,
      by rw [← split]⟩

/-- Somewhere in a source stand an export word, a class word and a name, with blanks between. -/
def DeclaresClass (source : Text) : Prop :=
  ∃ above blanks gap char rest, blanks ≠ [] ∧ AllBlank blanks ∧ gap ≠ [] ∧ AllBlank gap
    ∧ isWord char = true
    ∧ source = above ++ ("export".toList ++ (blanks ++ "class".toList) ++ (gap ++ char :: rest))

/-- The class search finds a name exactly in the sources that declare a class. -/
theorem isSome_className?_iff {source : Text} :
    (className? source).isSome = true ↔ DeclaresClass source := by
  rw [className?, isSome_findFrom?, holdsSomewhere_iff]
  -- The place where the search stops splits the text as the declaration does.
  constructor
  · rintro ⟨above, place, rfl, here⟩
    obtain ⟨blanks, gap, char, rest, apart, blank, wide, gapBlank, word, rfl⟩ :=
      isSome_classNameHere?_iff.mp here
    exact ⟨above, blanks, gap, char, rest, apart, blank, wide, gapBlank, word, rfl⟩
  · rintro ⟨above, blanks, gap, char, rest, apart, blank, wide, gapBlank, word, rfl⟩
    exact ⟨above, _, rfl, isSome_classNameHere?_iff.mpr
      ⟨blanks, gap, char, rest, apart, blank, wide, gapBlank, word, rfl⟩⟩

/-- The class of the first lines is a class of all lines. -/
theorem isSome_className?_append {front : Text} (named : (className? front).isSome = true)
    (back : Text) : (className? (front ++ back)).isSome = true := by
  rw [isSome_className?_iff] at named ⊢
  obtain ⟨above, blanks, gap, char, rest, apart, blank, wide, gapBlank, word, rfl⟩ := named
  exact ⟨above, blanks, gap, char, rest ++ back, apart, blank, wide, gapBlank, word, by simp⟩

/-- The class search sees a source as its lines joined again. -/
theorem className?_joinLines_sourceLines (source : Text) :
    className? (joinLines (sourceLines source)) = className? source := by
  rw [joinLines_sourceLines, className?_mergeBreaks]

/-- Neither blank lines nor the blanks around other lines matter to the class search. -/
theorem className?_eq_compact (source : Text) :
    className? source = className? (joinLines (compact (sourceLines source))) := by
  have atFeed (text : Text) : className? ('\n' :: text) = className? text :=
    ignoresGaps_classNameHere?.findFrom?_append_blank (by decide : AllBlank ['\n']) text
  have squeezed (text : Text) : className? (squeeze text) = className? text :=
    ignoresGaps_classNameHere?.findFrom?_squeeze text
  -- The source is as good as its lines joined again, and these as good as squeezed.
  rw [← className?_joinLines_sourceLines, ← atFeed, ← squeezed, squeeze_feed_joinLines, squeezed,
    atFeed]

end EntityDto
