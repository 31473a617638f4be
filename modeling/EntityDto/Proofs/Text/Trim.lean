import EntityDto.Text.Basic
import Mathlib.Data.List.DropRight

/-! Trimming takes exactly the blanks around a text, so a text between solid ends stays as it is. -/

namespace EntityDto.Text

/-- Every character of the text is blank. -/
def AllBlank (text : Text) : Prop :=
  ∀ char ∈ text, isBlank char = true

instance (text : Text) : Decidable (AllBlank text) :=
  List.decidableBAll (fun char => isBlank char = true) text

/-- No character of the text is blank. -/
def AllSolid (text : Text) : Prop :=
  ∀ char ∈ text, isBlank char = false

instance (text : Text) : Decidable (AllSolid text) :=
  List.decidableBAll (fun char => isBlank char = false) text

/-- The text does not start with a blank. -/
def StartsSolid (text : Text) : Prop :=
  ∀ char ∈ text.head?, isBlank char = false

/-- The text does not end with a blank. -/
def EndsSolid (text : Text) : Prop :=
  ∀ char ∈ text.getLast?, isBlank char = false

instance (text : Text) : Decidable (StartsSolid text) :=
  Option.decidableForallMem text.head?

instance (text : Text) : Decidable (EndsSolid text) :=
  Option.decidableForallMem text.getLast?

/-- The empty text has nothing in it that is not blank. -/
theorem allBlank_nil : AllBlank [] :=
  List.forall_mem_nil _

/-- A solid first character makes a solid start. -/
theorem startsSolid_cons {char : Char} (solid : isBlank char = false) (rest : Text) :
    StartsSolid (char :: rest) := by
  intro first isHead
  cases Option.some.inj isHead
  exact solid

/-- A solid last character makes a solid end. -/
theorem endsSolid_concat {char : Char} (solid : isBlank char = false) (front : Text) :
    EndsSolid (front ++ [char]) := by
  -- The last character is the one that was put there.
  intro last isLast
  rw [List.getLast?_concat] at isLast
  cases Option.some.inj isLast
  exact solid

/-- The front of a solid start starts solid. -/
theorem StartsSolid.of_append {front back : Text} (solid : StartsSolid (front ++ back)) :
    StartsSolid front :=
  fun char isHead => solid char (List.mem_head?_append_of_mem_head? isHead)

/-- Where the front is empty, the back starts. -/
theorem StartsSolid.append {front back : Text} (frontSolid : StartsSolid front)
    (backSolid : StartsSolid back) : StartsSolid (front ++ back) := by
  -- The first character is the front's if it has one.
  cases front with
  | nil => exact backSolid
  | cons char front => exact startsSolid_cons (frontSolid char rfl) _

/-- A back that is not empty ends the text as it ends itself. -/
theorem EndsSolid.append {back : Text} (solid : EndsSolid back) (nonempty : back ≠ [])
    (front : Text) : EndsSolid (front ++ back) := by
  rw [EndsSolid, List.getLast?_append_of_ne_nil front nonempty]
  exact solid

/-- A blank in front is skipped with those behind it. -/
theorem trimStart_cons {char : Char} (blank : isBlank char = true) (rest : Text) :
    trimStart (char :: rest) = trimStart rest :=
  List.dropWhile_cons_of_pos blank

/-- Blanks in front are skipped together with those behind them. -/
theorem trimStart_append {front : Text} (blank : AllBlank front) (text : Text) :
    trimStart (front ++ text) = trimStart text :=
  List.dropWhile_append_of_pos blank

/-- Blanks alone leave nothing. -/
theorem trimStart_eq_nil {text : Text} (blank : AllBlank text) : trimStart text = [] := by
  have skipped := trimStart_append blank []
  rwa [List.append_nil] at skipped

/-- A text with a solid start keeps its front. -/
theorem trimStart_eq_self {text : Text} (solid : StartsSolid text) : trimStart text = text := by
  cases text with
  | nil => rfl
  | cons char text =>
    -- Already the first character stops the cut.
    have charSolid : isBlank char = false := solid char rfl
    simp [trimStart, charSolid]

/-- What is left of the front starts solid. -/
theorem startsSolid_trimStart (text : Text) : StartsSolid (trimStart text) := by
  intro char isHead
  -- What is left begins with the first character that is not dropped.
  have dropped := List.head?_dropWhile_not isBlank text
  rw [trimStart] at isHead
  rw [isHead] at dropped
  simpa using dropped

/-- Something solid shields what stands behind it. -/
theorem trimStart_append_of_ne_nil {text : Text} (left : trimStart text ≠ []) (back : Text) :
    trimStart (text ++ back) = trimStart text ++ back := by
  have nonempty : (text.dropWhile isBlank).isEmpty = false := by simpa [trimStart] using left
  simp only [trimStart, List.dropWhile_append, nonempty, Bool.false_eq_true, if_false]

/-- Blanks are skipped up to what starts solid behind them. -/
theorem trimStart_eq_iff {text rest : Text} :
    trimStart text = rest ↔ StartsSolid rest ∧ ∃ blanks, AllBlank blanks ∧ text = blanks ++ rest := by
  -- The blanks that were dropped are the longest run of them in front.
  constructor
  · rintro rfl
    exact ⟨startsSolid_trimStart text, text.takeWhile isBlank,
      fun char member => List.mem_takeWhile_imp member, List.takeWhile_append_dropWhile.symm⟩
  · rintro ⟨solid, blanks, blank, rfl⟩
    rw [trimStart_append blank, trimStart_eq_self solid]

/-- What is cut off the back all goes, and the text that is left ends with something that stays. -/
theorem exists_eq_dropEndWhile_append (drop : Char → Bool) (text : Text) :
    ∃ back, text = text.dropEndWhile drop ++ back ∧ (∀ char ∈ back, drop char = true)
      ∧ ∀ last ∈ (text.dropEndWhile drop).getLast?, drop last = false := by
  refine ⟨text.rtakeWhile drop, List.rdropWhile_append_rtakeWhile.symm, ?_, ?_⟩
  · exact fun char member => List.mem_rtakeWhile_imp member
  · -- The cut stops at the first such character it meets.
    intro last isLast
    obtain ⟨nonempty, rfl⟩ := List.mem_getLast?_eq_getLast isLast
    exact eq_false_of_ne_true (List.rdropWhile_last_not drop text nonempty)

/-- A text with a solid end keeps its back. -/
theorem dropEndWhile_eq_self {text : Text} (solid : EndsSolid text) :
    dropEndWhile isBlank text = text := by
  -- Nothing is cut exactly when the last character is not.
  apply List.rdropWhile_eq_self_iff.mpr
  intro nonempty
  have lastSolid := solid (text.getLast nonempty) (List.getLast?_eq_some_getLast nonempty)
  simp [lastSolid]

/-- Something solid shields what stands before it. -/
theorem dropEndWhile_append_cons (char : Char) (solid : isBlank char = false) (front back : Text) :
    dropEndWhile isBlank (front ++ char :: back) = front ++ char :: dropEndWhile isBlank back := by
  -- Read backwards, either the cut reaches the solid character or it stops before.
  simp only [dropEndWhile, List.reverse_append, List.reverse_cons, List.append_assoc,
    List.singleton_append, List.dropWhile_append]
  by_cases blank : back.reverse.dropWhile isBlank = []
  · simp [blank, solid]
  · simp [blank]

/-- Blanks in front of a text do not survive trimming. -/
theorem trim_append_left {front : Text} (blank : AllBlank front) (text : Text) :
    trim (front ++ text) = trim text := by
  rw [trim, trim, trimStart_append blank]

/-- A text between solid ends is left alone. -/
theorem trim_eq_self {text : Text} (front : StartsSolid text) (back : EndsSolid text) :
    trim text = text := by
  rw [trim, trimStart_eq_self front, dropEndWhile_eq_self back]

/-- A text without blanks is left alone. -/
theorem trim_of_allSolid {text : Text} (solid : AllSolid text) : trim text = text := by
  -- Neither end of the text is a blank, so nothing is trimmed off.
  apply trim_eq_self
  · intro char isHead
    exact solid char (List.mem_of_mem_head? isHead)
  · intro char isLast
    exact solid char (List.mem_of_getLast? isLast)

/-- Cutting the back keeps the front of what the front cut left. -/
theorem trim_prefix_trimStart (text : Text) : trim text <+: trimStart text :=
  List.rdropWhile_prefix isBlank _

/-- A trimmed text starts solid. -/
theorem startsSolid_trim (text : Text) : StartsSolid (trim text) := by
  -- Trimming the end leaves a front of what was trimmed at the start.
  obtain ⟨back, split⟩ := trim_prefix_trimStart text
  have solid := startsSolid_trimStart text
  rw [← split] at solid
  exact solid.of_append

/-- A trimmed text ends solid. -/
theorem endsSolid_trim (text : Text) : EndsSolid (trim text) := by
  obtain ⟨-, -, -, solid⟩ := exists_eq_dropEndWhile_append isBlank (trimStart text)
  exact solid

/-- Trimming twice trims once. -/
@[simp] theorem trim_trim (text : Text) : trim (trim text) = trim text :=
  trim_eq_self (startsSolid_trim text) (endsSolid_trim text)

/-- Trimming adds no character. -/
theorem mem_of_mem_trim {text : Text} {char : Char} (member : char ∈ trim text) : char ∈ text := by
  -- Both cuts only drop characters.
  have cut : trim text ⊆ trimStart text := (trim_prefix_trimStart text).subset
  exact List.dropWhile_subset isBlank (cut member)

/-- Trimming leaves nothing exactly of blanks. -/
theorem trim_eq_nil_iff {text : Text} : trim text = [] ↔ AllBlank text := by
  constructor
  · intro empty
    -- The back cut took everything, but the front cut leaves a solid first character.
    by_contra notBlank
    have left : trimStart text ≠ [] := fun none => notBlank (List.dropWhile_eq_nil_iff.mp none)
    obtain ⟨char, rest, split⟩ := List.exists_cons_of_ne_nil left
    have charSolid := startsSolid_trimStart text char (by rw [split]; rfl)
    have allBlank := List.rdropWhile_eq_nil_iff.mp empty char (by rw [split]; simp)
    rw [charSolid] at allBlank
    exact Bool.false_ne_true allBlank
  · intro blank
    rw [trim, trimStart_eq_nil blank]
    rfl

/-- Trimming takes blanks off both ends and nothing else. -/
theorem exists_trim_eq (text : Text) :
    ∃ before after, AllBlank before ∧ AllBlank after ∧ text = before ++ (trim text ++ after) := by
  obtain ⟨after, back, blank, -⟩ := exists_eq_dropEndWhile_append isBlank (trimStart text)
  refine ⟨text.takeWhile isBlank, after, ?_, blank, ?_⟩
  · exact fun char member => List.mem_takeWhile_imp member
  · -- The front cut leaves what stands behind the run it takes, and the back cut works on that.
    change trimStart text = trim text ++ after at back
    rw [← back]
    exact List.takeWhile_append_dropWhile.symm

/-- Blanks behind a text do not survive trimming. -/
theorem trim_append_right {back : Text} (blank : AllBlank back) (text : Text) :
    trim (text ++ back) = trim text := by
  by_cases left : trimStart text = []
  · -- Then the whole text is blank, with the blanks behind it and without them.
    have textBlank : AllBlank text := List.dropWhile_eq_nil_iff.mp left
    rw [trim_eq_nil_iff.mpr textBlank,
      trim_eq_nil_iff.mpr (List.forall_mem_append.mpr ⟨textBlank, blank⟩)]
  · rw [trim, trimStart_append_of_ne_nil left, trim, dropEndWhile, dropEndWhile,
      List.reverse_append, List.dropWhile_append_of_pos]
    exact fun char member => blank char (List.mem_reverse.mp member)

end EntityDto.Text
