import EntityDto.File.Path
import EntityDto.FileName
import EntityDto.Proofs.Text.Words

/-!
The names of generated files: whatever class they are named for, each is one component of a path and
ends as a source file does.
-/

namespace EntityDto

open Text

/-- Every small form beyond ASCII is a character, with a code no lower than that of the letter a. -/
theorem lowerRuns_letters :
    ∀ run ∈ lowerRuns, 0x61 ≤ run.target
      ∧ (run.target + (run.last - run.first) < 0xD800
        ∨ 0xE000 ≤ run.target ∧ run.target + (run.last - run.first) < 0x110000) := by
  decide +kernel

/-- A number that is the code of a character is the code of the character made from it. -/
theorem toNat_ofNat_of_isValidChar {number : Nat} (valid : number.isValidChar) :
    (Char.ofNat number).toNat = number := by
  rw [Char.ofNat, dif_pos valid]
  rfl

/-- The capitals have the codes from that of the letter A to that of Z. -/
theorem isCapital_iff {char : Char} :
    isCapital char = true ↔ 65 ≤ char.toNat ∧ char.toNat ≤ 90 := by
  simp [isCapital, Char.le_def, UInt32.le_iff_toNat_le]

/-- The small form of a character is the character itself or lies among or behind the letters. -/
theorem lowerChar_eq_or_le (char : Char) :
    lowerChar char = char ∨ 0x61 ≤ (lowerChar char).toNat := by
  unfold lowerChar
  split
  · unfold lowerAscii
    split
    · -- The small letters lie as far behind the capitals as the form is moved.
      next capital =>
      have range := isCapital_iff.mp capital
      have valid : (char.toNat + 0x20).isValidChar := .inl (by omega)
      right
      rw [toNat_ofNat_of_isValidChar valid]
      omega
    · exact .inl rfl
  · split
    · next run found =>
      have covers := List.find?_some found
      obtain ⟨letter, range⟩ := lowerRuns_letters run (List.mem_of_find?_eq_some found)
      simp only [LowerRun.covers, Bool.and_eq_true, decide_eq_true_eq] at covers
      have valid : (run.target + (char.toNat - run.first)).isValidChar := by
        rcases range with low | ⟨high, within⟩
        · exact .inl (by omega)
        · exact .inr ⟨by omega, by omega⟩
      right
      rw [toNat_ofNat_of_isValidChar valid]
      omega
    · exact .inl rfl

/-- Between other characters, too, a small form is the character or no sign before the letters. -/
theorem of_mem_lowerBetween {before behind : Text} {char small : Char}
    (member : small ∈ lowerBetween before behind char) : small = char ∨ 0x61 ≤ small.toNat := by
  unfold lowerBetween at member
  split at member
  · -- The dotted capital gives a letter and a combining mark.
    right
    simp only [List.mem_cons, List.not_mem_nil, or_false] at member
    rcases member with rfl | rfl <;> decide
  · split at member
    · right
      rw [List.mem_singleton] at member
      subst member
      split <;> decide
    · rw [List.mem_singleton] at member
      subst member
      exact lowerChar_eq_or_le char

/-- Lower-casing brings no sign before the letters into a text. -/
theorem of_mem_lowerAfter {before text : Text} {small : Char}
    (member : small ∈ lowerAfter before text) : small ∈ text ∨ 0x61 ≤ small.toNat := by
  induction text generalizing before with
  | nil => simp [lowerAfter] at member
  | cons char text ih =>
    rcases List.mem_append.mp member with here | behind
    · -- The form of the first character is that character, if it is no letter.
      rcases of_mem_lowerBetween here with rfl | letter
      · exact .inl List.mem_cons_self
      · exact .inr letter
    · rcases ih behind with held | letter
      · exact .inl (List.mem_cons_of_mem _ held)
      · exact .inr letter

/-- The hyphens before capitalised words are all that is added. -/
theorem of_mem_hyphenateWords {name : Text} {char : Char} (member : char ∈ hyphenateWords name) :
    char = '-' ∨ char ∈ name := by
  fun_induction hyphenateWords name with
  | case1 => simp at member
  | case2 last => exact .inr member
  | case3 first capital rest starts ih =>
    -- The word itself is copied, and the rest is hyphenated on its own.
    simp only [List.cons_append, List.mem_cons, List.mem_append] at member
    rcases member with rfl | rfl | rfl | inWord | behind
    · simp
    · simp
    · simp
    · right
      simp [(List.takeWhile_sublist isSmall).subset inWord]
    · rcases ih behind with hyphen | held
      · exact .inl hyphen
      · right
        simp [(List.dropWhile_sublist isSmall).subset held]
  | case4 first capital rest starts ih =>
    rcases List.mem_cons.mp member with rfl | behind
    · simp
    · exact (ih behind).imp_right (List.mem_cons_of_mem _)

/-- The hyphens before capitals are all that is added. -/
theorem of_mem_hyphenateCapitals {name : Text} {char : Char}
    (member : char ∈ hyphenateCapitals name) : char = '-' ∨ char ∈ name := by
  -- Along the recursion, one hyphen is put in at most between two characters that stay.
  fun_induction hyphenateCapitals name with
  | case1 => simp at member
  | case2 last => exact .inr member
  | case3 first next rest meets ih =>
    rcases List.mem_cons.mp member with rfl | member
    · simp
    · rcases List.mem_cons.mp member with rfl | behind
      · simp
      · exact (ih behind).imp_right (List.mem_cons_of_mem _)
  | case4 first next rest meets ih =>
    rcases List.mem_cons.mp member with rfl | behind
    · simp
    · exact (ih behind).imp_right (List.mem_cons_of_mem _)

/-- A hyphenated name holds hyphens, characters of the name and small forms of these. -/
theorem of_mem_kebabCase {name : Text} {char : Char} (member : char ∈ kebabCase name) :
    char ∈ name ∨ char = '-' ∨ 0x61 ≤ char.toNat := by
  -- Each of the two passes adds hyphens at most, and small forms are letters.
  rcases of_mem_lowerAfter member with held | letter
  · rcases of_mem_hyphenateCapitals held with hyphen | held
    · exact .inr (.inl hyphen)
    · rcases of_mem_hyphenateWords held with hyphen | held
      · exact .inr (.inl hyphen)
      · exact .inl held
  · exact .inr (.inr letter)

/-- A text that names a source file: one component of a path, which holds no null character. -/
structure IsFileName (name : Text) : Prop where
  noSlash : '/' ∉ name
  noNull : '\u0000' ∉ name
  ending : name.endsWith ".ts".toList = true

/-- A class name gives a file name, whatever the ending says of the file's content. -/
theorem isFileName_append {baseName ending : Text} (word : AllWord baseName)
    (noSlash : '/' ∉ ending) (noNull : '\u0000' ∉ ending)
    (typed : ".ts".toList <:+ ending) : IsFileName (kebabCase baseName ++ ending) where
  noSlash := by
    simp only [List.mem_append, not_or]
    refine ⟨fun member => ?_, noSlash⟩
    -- A slash is part of no word, no hyphen, and stands before the letters.
    rcases of_mem_kebabCase member with held | hyphen | letter
    · exact word.not_mem (by decide) held
    · exact absurd hyphen (by decide)
    · exact absurd letter (by decide)
  noNull := by
    simp only [List.mem_append, not_or]
    refine ⟨fun member => ?_, noNull⟩
    rcases of_mem_kebabCase member with held | hyphen | letter
    · exact word.not_mem (by decide) held
    · exact absurd hyphen (by decide)
    · exact absurd letter (by decide)
  ending := by
    obtain ⟨front, rfl⟩ := typed
    rw [endsWith, ← List.append_assoc, before?_append]
    rfl

/-- The request file of a class has a file name. -/
theorem isFileName_requestFileName {baseName : Text} (word : AllWord baseName) :
    IsFileName (requestFileName baseName) :=
  isFileName_append word (by decide) (by decide) ⟨".dto".toList, rfl⟩

/-- The response file of a class has a file name. -/
theorem isFileName_responseFileName {baseName : Text} (word : AllWord baseName) :
    IsFileName (responseFileName baseName) :=
  isFileName_append word (by decide) (by decide) ⟨".res.dto".toList, rfl⟩

/-- The two files of a class have different names. -/
theorem requestFileName_ne_responseFileName (baseName : Text) :
    requestFileName baseName ≠ responseFileName baseName := by
  intro same
  -- Behind the same front the two endings would have to agree.
  exact absurd (List.append_cancel_left same) (by decide)

namespace IsFileName

variable {name : Text}

/-- A file name is longer than its ending, so it is neither empty nor made of dots. -/
theorem exists_eq_append (isName : IsFileName name) : ∃ front, name = front ++ ".ts".toList := by
  obtain ⟨front, found⟩ := Option.isSome_iff_exists.mp isName.ending
  exact ⟨front, eq_append_of_before? found⟩

/-- A file name does not lead up. -/
theorem ne_up (isName : IsFileName name) : name ≠ Path.up := by
  rintro rfl
  exact absurd isName.ending (by decide)

/-- Read as a path, a file name is a relative path of one component. -/
theorem ofText (isName : IsFileName name) : Path.ofText name = ⟨[], [name]⟩ := by
  -- The name holds no slash and is no point, so it is one part of a relative path.
  have uncut : ∀ char ∈ name, decide (char = '/') = false := by
    intro char member
    rw [decide_eq_false_iff_not]
    rintro rfl
    exact isName.noSlash member
  have noRoot : name.takeWhile (· = '/') = [] := by
    cases name with
    | nil => rfl
    | cons char rest => exact List.takeWhile_cons_of_neg (by simp [uncut char List.mem_cons_self])
  have kept : (!name.isEmpty && decide (name ≠ ['.'])) = true := by
    obtain ⟨front, rfl⟩ := isName.exists_eq_append
    cases front <;> simp
  rw [Path.ofText, Path.rootOf, noRoot, splitWhere_of_all uncut]
  simp only [List.length_nil, List.filter_cons, kept, if_true, List.filter_nil]

/-- Below a directory, a file name is a direct child. -/
theorem append (isName : IsFileName name) (directory : Path) :
    directory.append (Path.ofText name) = ⟨directory.root, directory.parts ++ [name]⟩ := by
  rw [isName.ofText]
  rfl

end IsFileName

end EntityDto
