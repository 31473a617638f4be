import EntityDto.Proofs.Text.Scan
import EntityDto.Token

/-!
The texts that are read as property declarations: modifiers, a name, a mark, a colon and a type up
to a semicolon. Each text of this form is read as the declaration it spells, and no other is read.
-/

namespace EntityDto.Declaration

open Text

/-- A name starts with a letter or underscore, and digits may follow. -/
def IsName : Text → Prop
  | [] => False
  | first :: rest => startsName first = true ∧ ∀ char ∈ rest, continuesName char = true

instance : (name : Text) → Decidable (IsName name)
  | [] => isFalse id
  | _ :: rest =>
    have := List.decidableBAll (fun char => continuesName char = true) rest
    instDecidableAnd

/-- What can stand in a name can stand in a word. -/
theorem isWord_of_continuesName {char : Char} (continues : continuesName char = true) :
    isWord char = true := by
  -- The characters of names are all ASCII, where words may hold the same ones.
  have ascii : char.toNat < 0x80 := by
    simp only [continuesName, startsName, isCapital, isSmall, isDigit, Bool.or_eq_true,
      Bool.and_eq_true, decide_eq_true_eq, Char.le_def, UInt32.le_iff_toNat_le] at continues
    rcases continues with ((letter | letter) | rfl) | digit
    · have : char.toNat ≤ 90 := letter.2
      omega
    · have : char.toNat ≤ 122 := letter.2
      omega
    · decide
    · have : char.toNat ≤ 57 := digit.2
      omega
  simp only [continuesName, startsName, Bool.or_eq_true, decide_eq_true_eq] at continues
  simp only [isWord, if_pos ascii, Bool.or_eq_true, decide_eq_true_eq]
  tauto

/-- Every character of a name can stand inside one. -/
theorem IsName.continues {name : Text} (isName : IsName name) :
    ∀ char ∈ name, continuesName char = true := by
  cases name with
  | nil => simp
  | cons first rest =>
    intro char member
    -- What can start a name can stand inside it as well.
    rcases List.mem_cons.mp member with rfl | member
    · simp [continuesName, isName.1]
    · exact isName.2 char member

/-- A name is not empty. -/
theorem IsName.ne_nil {name : Text} (isName : IsName name) : name ≠ [] := by
  rintro rfl
  exact isName

/-- A name has no blank in it. -/
theorem IsName.solid {name : Text} (isName : IsName name) :
    ∀ char ∈ name, isBlank char = false :=
  fun char member =>
    isBlank_eq_false_of_isWord (isWord_of_continuesName (isName.continues char member))

/-- A name before the text ends where the text starts. -/
def EndsName (text : Text) : Prop :=
  ∀ char ∈ text.head?, continuesName char = false

/-- A name is split off where it ends. -/
theorem splitName?_append {name rest : Text} (isName : IsName name)
    (ends : EndsName rest) :
    splitName? (name ++ rest) = some (name, rest) := by
  cases name with
  | nil => exact absurd isName id
  | cons first name =>
    -- Behind the first character, the span of the others ends with the name.
    simp only [List.cons_append, splitName?, isName.1, if_true,
      takeWhile_append_of_stop isName.2 ends, dropWhile_append_of_stop isName.2 ends]

/-- What is split off is a name, and all of it. -/
theorem of_splitName?_eq_some {text name rest : Text}
    (found : splitName? text = some (name, rest)) :
    text = name ++ rest ∧ IsName name ∧ EndsName rest := by
  cases text with
  | nil => simp [splitName?] at found
  | cons first text =>
    simp only [splitName?] at found
    split at found
    · next starts =>
      simp only [Option.some.injEq, Prod.mk.injEq] at found
      obtain ⟨rfl, rfl⟩ := found
      refine ⟨by simp, ⟨starts, fun char member => List.mem_takeWhile_imp member⟩, ?_⟩
      -- The span took all it could.
      intro char isHead
      have dropped := List.head?_dropWhile_not continuesName text
      rw [isHead] at dropped
      simpa using dropped
    · simp at found

/-- Names that end where they stand in one text are the same. -/
theorem IsName.eq_of_append_eq {name other rest otherRest : Text} (isName : IsName name)
    (otherName : IsName other) (ends : EndsName rest)
    (otherEnds : EndsName otherRest)
    (same : name ++ rest = other ++ otherRest) : name = other ∧ rest = otherRest :=
  Text.eq_of_append_eq isName.continues otherName.continues ends otherEnds same

/-- The type text runs from the colon to the first semicolon. -/
theorem typeText?_eq_some_iff {text written : Text} :
    typeText? text = some written ↔
      written ≠ [] ∧ ';' ∉ written ∧ ∃ rest, text = ':' :: (written ++ ';' :: rest) := by
  constructor
  · intro found
    unfold typeText? at found
    split at found
    · simp at found
    · next behind isAfter =>
      simp only at found
      split at found
      · simp at found
      · next inside =>
        cases Option.some.inj found
        simp only [Bool.or_eq_true, decide_eq_true_eq, not_or, List.isEmpty_iff] at inside
        have split := List.takeWhile_append_dropWhile
          (p := fun char => decide (char ≠ ';')) (l := behind)
        refine ⟨inside.1, ?_, ?_⟩
        · intro member
          simpa using List.mem_takeWhile_imp member
        · -- Something is left, and it starts with the semicolon that ended the span.
          have dropped := List.head?_dropWhile_not (fun char => decide (char ≠ ';')) behind
          cases left : behind.dropWhile (fun char => decide (char ≠ ';')) with
          | nil =>
            rw [left, List.append_nil] at split
            exact absurd (congrArg List.length split) inside.2
          | cons stop rest =>
            rw [left] at dropped split
            simp only [List.head?_cons, ne_eq, decide_not, Bool.not_eq_false',
              decide_eq_true_eq] at dropped
            subst dropped
            exact ⟨rest, by rw [eq_append_of_after? isAfter, split]; rfl⟩
  · -- Conversely the span from the colon on ends at the given semicolon.
    rintro ⟨nonempty, noStop, rest, rfl⟩
    have inside : ∀ char ∈ written, decide (char ≠ ';') = true := by
      intro char member
      simp only [ne_eq, decide_not, Bool.not_eq_eq_eq_not, Bool.not_true, decide_eq_false_iff_not]
      rintro rfl
      exact noStop member
    have taken : (written ++ ';' :: rest).takeWhile (fun char => decide (char ≠ ';')) = written :=
      takeWhile_append_of_stop inside (by simp)
    -- The semicolon is left over, so the span does not reach the end.
    have cut : ¬ (written.isEmpty
        || decide (written.length = (written ++ ';' :: rest).length)) = true := by
      simp [nonempty]
    have isAfter : after? [':'] (':' :: (written ++ ';' :: rest)) = some (written ++ ';' :: rest) :=
      after?_append [':'] _
    simp only [typeText?, isAfter, taken, if_neg cut]

/-- The mark between the name of a property and its colon. -/
inductive Mark where
  | plain
  | optional
  /-- Promises that a value is assigned, which leaves the property as it is. -/
  | definite
  deriving DecidableEq

/-- The mark as it is written. -/
def Mark.text : Mark → Text
  | .plain => []
  | .optional => ['?']
  | .definite => ['!']

/-- A modifier as it is written before a property name. -/
structure Modifier where
  word : Text
  /-- The blanks behind the word. -/
  blanks : Text
  listed : word ∈ modifiers
  nonempty : blanks ≠ []
  blank : AllBlank blanks

/-- The modifier with the blanks behind it. -/
def Modifier.text (modifier : Modifier) : Text :=
  modifier.word ++ modifier.blanks

/-- How the declaration of a property is written. -/
structure Spelling where
  modifiers : List Modifier
  name : Text
  mark : Mark
  /-- The blanks before the colon. -/
  gap : Text
  /-- What stands between the colon and the first semicolon. -/
  written : Text
  /-- What stands behind the semicolon. -/
  rest : Text
  isName : IsName name
  gapBlank : AllBlank gap
  writtenNonempty : written ≠ []
  writtenOpen : ';' ∉ written

namespace Spelling

/-- What is written behind the name. -/
def tail (spelling : Spelling) : Text :=
  spelling.mark.text
    ++ (spelling.gap ++ ':' :: (spelling.written ++ ';' :: spelling.rest))

/-- The declaration as it is written. -/
def text (spelling : Spelling) : Text :=
  spelling.modifiers.flatMap Modifier.text ++ (spelling.name ++ spelling.tail)

/-- The declaration that is written. -/
def declaration (spelling : Spelling) : Declaration :=
  ⟨spelling.name, spelling.mark = .optional, trim spelling.written⟩

end Spelling

/-- A name ends before blanks. -/
theorem endsName_append {blanks : Text} (nonempty : blanks ≠ []) (blank : AllBlank blanks)
    (rest : Text) : EndsName (blanks ++ rest) := by
  obtain ⟨first, blanks, rfl⟩ := List.exists_cons_of_ne_nil nonempty
  intro char isHead
  cases Option.some.inj isHead
  -- A blank that went on with a name would be a word character.
  rw [← Bool.not_eq_true]
  intro continues
  have solid := isBlank_eq_false_of_isWord (isWord_of_continuesName continues)
  rw [blank first (by simp)] at solid
  exact Bool.false_ne_true solid.symm

/-- Behind the name stand blanks and a colon, or a mark right away. -/
theorem Spelling.exists_tail_eq (spelling : Spelling) :
    ∃ blanks stop rest, spelling.tail = blanks ++ stop :: rest ∧ AllBlank blanks
      ∧ (stop = ':' ∨ blanks = [] ∧ (stop = '?' ∨ stop = '!')) := by
  -- Only where there is no mark may there be a gap before the colon.
  unfold tail
  cases spelling.mark with
  | plain => exact ⟨spelling.gap, ':', _, rfl, spelling.gapBlank, .inl rfl⟩
  | optional => exact ⟨[], '?', _, rfl, allBlank_nil, .inr ⟨rfl, .inl rfl⟩⟩
  | definite => exact ⟨[], '!', _, rfl, allBlank_nil, .inr ⟨rfl, .inr rfl⟩⟩

/-- The name ends where its mark, blanks or colon begin. -/
theorem Spelling.tail_ends (spelling : Spelling) : EndsName spelling.tail := by
  obtain ⟨blanks, stop, rest, split, blank, isStop⟩ := spelling.exists_tail_eq
  rw [split]
  by_cases noGap : blanks = []
  · -- Right behind the name stands a mark or the colon, none of which goes on with it.
    subst noGap
    intro char isHead
    cases Option.some.inj isHead
    rcases isStop with rfl | ⟨-, rfl | rfl⟩ <;> decide
  · exact endsName_append noGap blank _

/-- Blanks before a colon are no mark. -/
theorem head?_append_colon_ne {gap : Text} (blank : AllBlank gap) (mark : Char)
    (notBlank : isBlank mark = false) (notColon : mark ≠ ':') (rest : Text) :
    (gap ++ ':' :: rest).head? ≠ some mark := by
  -- The first character is the colon or, where there is a gap, a blank.
  intro isHead
  cases gap with
  | nil => exact notColon (Option.some.inj isHead).symm
  | cons char gap =>
    obtain rfl : char = mark := Option.some.inj isHead
    rw [blank char (by simp)] at notBlank
    cases notBlank

/-- Without its modifiers a spelling is read as what it declares. -/
theorem Spelling.unmodified?_eq (spelling : Spelling) :
    unmodified? (spelling.name ++ spelling.tail) = some spelling.declaration := by
  have atColon : trimStart (spelling.gap ++ ':' :: (spelling.written ++ ';' :: spelling.rest))
      = ':' :: (spelling.written ++ ';' :: spelling.rest) := by
    rw [trimStart_append spelling.gapBlank, trimStart_eq_self (startsSolid_cons (by decide) _)]
  have typed : typeText? (':' :: (spelling.written ++ ';' :: spelling.rest))
      = some spelling.written :=
    typeText?_eq_some_iff.mpr ⟨spelling.writtenNonempty, spelling.writtenOpen, _, rfl⟩
  -- The name is split off, then the mark if there is one, then the type behind the colon.
  rw [unmodified?, splitName?_append spelling.isName spelling.tail_ends]
  cases marked : spelling.mark with
  | plain =>
    simp only [tail, marked, Mark.text, List.nil_append, declaration]
    have noQuestion := head?_append_colon_ne spelling.gapBlank '?' (by decide) (by decide)
      (spelling.written ++ ';' :: spelling.rest)
    have noExclamation := head?_append_colon_ne spelling.gapBlank '!' (by decide) (by decide)
      (spelling.written ++ ';' :: spelling.rest)
    split
    · next same => exact absurd (congrArg List.head? same) noQuestion
    · next same => exact absurd (congrArg List.head? same) noExclamation
    · -- Without a mark the text behind the name is left as it is.
      simp only [atColon, typed, Option.map_some, noQuestion, reduceCtorEq]
  | optional =>
    simp only [tail, marked, Mark.text, List.cons_append, List.nil_append, declaration]
    simp [atColon, typed]
  | definite =>
    simp only [tail, marked, Mark.text, List.cons_append, List.nil_append, declaration]
    simp [atColon, typed]

/-- Every modifier is itself a name. -/
theorem isName_of_mem_modifiers : ∀ word ∈ modifiers, IsName word := by
  decide

/-- A modifier is skipped exactly when it is there with blanks behind it, to the end of these. -/
theorem afterModifier?_eq_some_iff {text rest : Text} :
    afterModifier? text = some rest ↔
      StartsSolid rest ∧ ∃ modifier : Modifier, text = modifier.text ++ rest := by
  constructor
  · intro found
    obtain ⟨word, listed, found⟩ := List.exists_of_findSome?_eq_some found
    obtain ⟨behind, isAfter, skipped⟩ := Option.bind_eq_some_iff.mp found
    obtain ⟨blanks, nonempty, blank, solid, rfl⟩ := afterBlanks?_eq_some_iff.mp skipped
    refine ⟨solid, ⟨word, blanks, listed, nonempty, blank⟩, ?_⟩
    rw [eq_append_of_after? isAfter, Modifier.text, List.append_assoc]
  · rintro ⟨solid, modifier, rfl⟩
    -- Some modifier is found, and it is this one because both end at the first blank.
    have skipped : (after? modifier.word (modifier.text ++ rest)).bind afterBlanks?
        = some rest := by
      rw [Modifier.text, List.append_assoc, after?_append, Option.bind_some]
      exact afterBlanks?_eq_some_iff.mpr
        ⟨modifier.blanks, modifier.nonempty, modifier.blank, solid, rfl⟩
    cases found : afterModifier? (modifier.text ++ rest) with
    | none =>
      -- It cannot be that no word of the list is found, for this one is.
      have missing := List.findSome?_eq_none_iff.mp found modifier.word modifier.listed
      rw [skipped] at missing
      simp at missing
    | some other =>
      obtain ⟨word, listed, found⟩ := List.exists_of_findSome?_eq_some found
      obtain ⟨behind, isAfter, otherSkipped⟩ := Option.bind_eq_some_iff.mp found
      obtain ⟨blanks, nonempty, blank, _, rfl⟩ := afterBlanks?_eq_some_iff.mp otherSkipped
      have split := eq_append_of_after? isAfter
      rw [Modifier.text, List.append_assoc] at split
      obtain ⟨rfl, same⟩ := (isName_of_mem_modifiers _ modifier.listed).eq_of_append_eq
        (isName_of_mem_modifiers _ listed)
        (endsName_append modifier.nonempty modifier.blank rest)
        (endsName_append nonempty blank other) split
      exact found.symm.trans skipped

/-- A text that starts with a modifier declares what is declared behind it, or the word itself. -/
theorem read?_of_afterModifier? {text rest : Text} (found : afterModifier? text = some rest) :
    read? text = (read? rest).or (unmodified? text) := by
  rw [read?]
  split
  · next missing =>
    rw [found] at missing
    simp at missing
  · -- The branch with a modifier found is the one for this rest.
    next other otherFound =>
    rw [found, Option.some.injEq] at otherFound
    subst otherFound
    cases read? rest <;> rfl

/-- A text that starts with no modifier declares what it spells right away. -/
theorem read?_of_no_modifier {text : Text} (missing : afterModifier? text = none) :
    read? text = unmodified? text := by
  rw [read?]
  -- Reading asks for a modifier first, and there is none.
  split
  · rfl
  · next found =>
    rw [missing] at found
    simp at found

/-- A text declares nothing when it starts with something that starts no name. -/
theorem read?_eq_none_of_head? {text : Text}
    (noName : ∀ char ∈ text.head?, startsName char = false) : read? text = none := by
  have noModifier : afterModifier? text = none := by
    rw [← Option.not_isSome_iff_eq_none, Option.isSome_iff_exists]
    rintro ⟨rest, found⟩
    obtain ⟨_, modifier, rfl⟩ := afterModifier?_eq_some_iff.mp found
    -- The first letter of the modifier would start a name.
    have isName := isName_of_mem_modifiers _ modifier.listed
    cases worded : modifier.word with
    | nil => exact isName.ne_nil worded
    | cons first word =>
      rw [worded] at isName
      have starts := noName first (by simp [Modifier.text, worded])
      rw [isName.1] at starts
      exact Bool.false_ne_true starts.symm
  -- So the text is read as it stands, and no name can be split off.
  rw [read?_of_no_modifier noModifier]
  cases text with
  | nil => rfl
  | cons char text => simp [unmodified?, splitName?, noName char rfl]

/-- Behind the name and its blanks no other name follows. -/
theorem Spelling.trimStart_tail (spelling : Spelling) :
    ∀ char ∈ (trimStart spelling.tail).head?, startsName char = false := by
  obtain ⟨blanks, stop, rest, split, blank, isStop⟩ := spelling.exists_tail_eq
  have solid : isBlank stop = false := by
    rcases isStop with rfl | ⟨-, rfl | rfl⟩ <;> decide
  -- The first thing there that is not blank is the mark, or the colon where there is none.
  intro char isHead
  rw [split, trimStart_append blank, trimStart_eq_self (startsSolid_cons solid rest)] at isHead
  cases Option.some.inj isHead
  rcases isStop with rfl | ⟨-, rfl | rfl⟩ <;> decide

/-- A modifier word that is the name is skipped to the colon at most, where nothing is declared. -/
theorem Spelling.read?_unmodified (spelling : Spelling) :
    read? (spelling.name ++ spelling.tail) = some spelling.declaration := by
  -- Where a modifier is found, it is the name, and all that stands behind it is the tail.
  cases found : afterModifier? (spelling.name ++ spelling.tail) with
  | none => rw [read?_of_no_modifier found, spelling.unmodified?_eq]
  | some rest =>
    obtain ⟨solid, modifier, split⟩ := afterModifier?_eq_some_iff.mp found
    rw [Modifier.text, List.append_assoc] at split
    obtain ⟨-, tailSplit⟩ := spelling.isName.eq_of_append_eq
      (isName_of_mem_modifiers _ modifier.listed) spelling.tail_ends
      (endsName_append modifier.nonempty modifier.blank rest) split
    have nothing : read? rest = none := by
      apply read?_eq_none_of_head?
      rw [← trimStart_eq_self solid, ← trimStart_append modifier.blank rest, ← tailSplit]
      exact spelling.trimStart_tail
    rw [read?_of_afterModifier? found, nothing, Option.none_or, spelling.unmodified?_eq]

/-- A name in front makes a solid start. -/
theorem IsName.startsSolid {name : Text} (isName : IsName name) (rest : Text) :
    StartsSolid (name ++ rest) := by
  obtain ⟨first, name, rfl⟩ := List.exists_cons_of_ne_nil isName.ne_nil
  exact startsSolid_cons (isName.solid first (by simp)) _

/-- Modifiers start with the word of the first one. -/
theorem flatMap_text_cons_append (modifier : Modifier) (modifiers : List Modifier) (rest : Text) :
    (modifier :: modifiers).flatMap Modifier.text ++ rest
      = modifier.word ++ (modifier.blanks ++ (modifiers.flatMap Modifier.text ++ rest)) := by
  rw [List.flatMap_cons, Modifier.text, List.append_assoc, List.append_assoc]

/-- Behind any modifiers a name follows, or one of the modifiers in the place of a name. -/
theorem Spelling.exists_isName_append (spelling : Spelling) (modifiers : List Modifier) :
    ∃ word rest, IsName word
      ∧ modifiers.flatMap Modifier.text ++ (spelling.name ++ spelling.tail) = word ++ rest := by
  -- A modifier is itself a name, and without one the declared name comes first.
  cases modifiers with
  | nil => exact ⟨spelling.name, spelling.tail, spelling.isName, rfl⟩
  | cons modifier modifiers =>
    exact ⟨modifier.word, _, isName_of_mem_modifiers _ modifier.listed,
      flatMap_text_cons_append modifier modifiers _⟩

/-- A declaration starts solid, with modifiers or without. -/
theorem Spelling.startsSolid (spelling : Spelling) (modifiers : List Modifier) :
    StartsSolid (modifiers.flatMap Modifier.text ++ (spelling.name ++ spelling.tail)) := by
  obtain ⟨word, rest, isName, split⟩ := spelling.exists_isName_append modifiers
  rw [split]
  exact isName.startsSolid rest

/-- A spelling is read as what it declares. -/
theorem Spelling.read?_text (spelling : Spelling) :
    read? spelling.text = some spelling.declaration := by
  -- Modifiers are taken off one by one, whichever they are.
  suffices general : ∀ modifiers : List Modifier,
      read? (modifiers.flatMap Modifier.text ++ (spelling.name ++ spelling.tail))
        = some spelling.declaration from general spelling.modifiers
  intro modifiers
  induction modifiers with
  | nil => exact spelling.read?_unmodified
  | cons modifier modifiers ih =>
    rw [List.flatMap_cons, List.append_assoc]
    -- The modifier is skipped to the solid start behind it, where the declaration is read already.
    have found := afterModifier?_eq_some_iff.mpr ⟨spelling.startsSolid modifiers, modifier, rfl⟩
    rw [read?_of_afterModifier? found, ih, Option.some_or]

/-- A name, a mark and the blanks before a colon are the start of a spelling. -/
theorem exists_spelling_of_colon {name unmarked written behind : Text} (isName : IsName name)
    (mark : Mark) (nonempty : written ≠ []) (noStop : ';' ∉ written)
    (atColon : trimStart unmarked = ':' :: (written ++ ';' :: behind)) :
    ∃ spelling : Spelling, spelling.modifiers = []
      ∧ name ++ (mark.text ++ unmarked) = spelling.name ++ spelling.tail
      ∧ spelling.declaration = ⟨name, mark = .optional, trim written⟩ := by
  -- The blanks that are skipped are the gap before the colon.
  have gapped : unmarked = unmarked.takeWhile isBlank ++ ':' :: (written ++ ';' :: behind) := by
    rw [← atColon]
    exact List.takeWhile_append_dropWhile.symm
  refine ⟨⟨[], name, mark, unmarked.takeWhile isBlank, written, behind, isName,
    fun char member => List.mem_takeWhile_imp member, nonempty, noStop⟩, rfl, ?_, rfl⟩
  simp only [Spelling.tail, ← gapped]

/-- What is read without modifiers is spelled that way. -/
theorem exists_spelling_of_unmodified?_eq_some {text : Text} {declaration : Declaration}
    (isRead : unmodified? text = some declaration) :
    ∃ spelling : Spelling, spelling.modifiers = [] ∧ text = spelling.name ++ spelling.tail
      ∧ spelling.declaration = declaration := by
  unfold unmodified? at isRead
  split at isRead
  · simp at isRead
  · next name rest splitName =>
    obtain ⟨rfl, isName, -⟩ := of_splitName?_eq_some splitName
    simp only [Option.map_eq_some_iff] at isRead
    obtain ⟨written, typed, rfl⟩ := isRead
    obtain ⟨nonempty, noStop, behind, atColon⟩ := typeText?_eq_some_iff.mp typed
    -- One case for each mark, the last being that there is none.
    split at atColon
    · exact exists_spelling_of_colon isName .optional nonempty noStop atColon
    · exact exists_spelling_of_colon isName .definite nonempty noStop atColon
    · next noQuestion _ =>
      have unmarked : rest.head? ≠ some '?' := by
        intro isHead
        obtain ⟨behind, split⟩ := List.head?_eq_some_iff.mp isHead
        exact noQuestion behind split
      obtain ⟨spelling, noModifiers, split, declares⟩ :=
        exists_spelling_of_colon isName .plain nonempty noStop atColon
      refine ⟨spelling, noModifiers, split, ?_⟩
      rw [declares, decide_eq_false unmarked]
      rfl

/-- What is read is spelled that way. -/
theorem exists_spelling_of_read?_eq_some {text : Text} {declaration : Declaration}
    (isRead : read? text = some declaration) :
    ∃ spelling : Spelling, text = spelling.text ∧ spelling.declaration = declaration := by
  -- What is read without modifiers is a spelling without them.
  have unmodified (isUnmodified : unmodified? text = some declaration) :
      ∃ spelling : Spelling, text = spelling.text ∧ spelling.declaration = declaration := by
    obtain ⟨spelling, noModifiers, split, declares⟩ :=
      exists_spelling_of_unmodified?_eq_some isUnmodified
    exact ⟨spelling, by rw [Spelling.text, noModifiers]; exact split, declares⟩
  cases found : afterModifier? text with
  | none =>
    rw [read?_of_no_modifier found] at isRead
    exact unmodified isRead
  | some rest =>
    rw [read?_of_afterModifier? found, Option.or_eq_some_iff] at isRead
    rcases isRead with behind | ⟨-, isUnmodified⟩
    · -- The modifier goes in front of what is spelled behind it.
      have shorter := length_afterModifier?_lt found
      obtain ⟨spelling, rfl, declares⟩ := exists_spelling_of_read?_eq_some behind
      obtain ⟨-, modifier, rfl⟩ := afterModifier?_eq_some_iff.mp found
      refine ⟨{ spelling with modifiers := modifier :: spelling.modifiers }, ?_, declares⟩
      simp only [Spelling.text, List.flatMap_cons, List.append_assoc]
      rfl
    · exact unmodified isUnmodified
  termination_by text.length

/-- A text declares something exactly when it spells it. -/
theorem read?_eq_some_iff {text : Text} {declaration : Declaration} :
    read? text = some declaration ↔
      ∃ spelling : Spelling, text = spelling.text ∧ spelling.declaration = declaration := by
  -- A reading is printed as a spelling, and every spelling is read back.
  constructor
  · exact exists_spelling_of_read?_eq_some
  · rintro ⟨spelling, rfl, rfl⟩
    exact spelling.read?_text

/-- Blanks behind a spelling do not change what it declares. -/
theorem Spelling.read?_trim (spelling : Spelling) :
    read? (trim spelling.text) = some spelling.declaration := by
  have solid : StartsSolid spelling.text := spelling.startsSolid spelling.modifiers
  -- The semicolon ends the cut, so only what stands behind it gets shorter.
  have cut : trim spelling.text
      = Spelling.text { spelling with rest := dropEndWhile isBlank spelling.rest } := by
    have shield := fun front => dropEndWhile_append_cons ';' (by decide) front spelling.rest
    rw [trim, trimStart_eq_self solid]
    simpa [text, tail] using shield (spelling.modifiers.flatMap Modifier.text ++ (spelling.name
      ++ (spelling.mark.text ++ (spelling.gap ++ ':' :: spelling.written))))
  rw [cut, Spelling.read?_text]
  rfl

/-- A word before blanks declares nothing unless it is a modifier or a colon follows. -/
theorem read?_eq_none_of_word {word blanks rest : Text} (isName : IsName word)
    (notModifier : word ∉ modifiers) (nonempty : blanks ≠ []) (blank : AllBlank blanks)
    (solid : StartsSolid rest) (noColon : rest.head? ≠ some ':') :
    read? (word ++ (blanks ++ rest)) = none := by
  have ends := endsName_append nonempty blank rest
  rw [Option.eq_none_iff_forall_ne_some]
  intro declaration isRead
  obtain ⟨spelling, split, -⟩ := read?_eq_some_iff.mp isRead
  unfold Spelling.text at split
  cases modified : spelling.modifiers with
  | cons modifier modifiers =>
    -- The word ends where the first modifier does, so it would be that modifier.
    rw [modified, flatMap_text_cons_append] at split
    obtain ⟨same, -⟩ := isName.eq_of_append_eq (isName_of_mem_modifiers _ modifier.listed) ends
      (endsName_append modifier.nonempty modifier.blank _) split
    exact notModifier (same ▸ modifier.listed)
  | nil =>
    -- The word would be the name, with the blanks as the gap before a colon.
    rw [modified] at split
    obtain ⟨-, same⟩ := isName.eq_of_append_eq spelling.isName ends spelling.tail_ends split
    obtain ⟨gap, stop, behind, tailSplit, gapBlank, isStop⟩ := spelling.exists_tail_eq
    rw [tailSplit] at same
    rcases isStop with rfl | ⟨rfl, isMark⟩
    · have atColon := congrArg trimStart same
      rw [trimStart_append blank, trimStart_eq_self solid, trimStart_append gapBlank,
        trimStart_eq_self (startsSolid_cons (by decide) behind)] at atColon
      exact noColon (atColon ▸ rfl)
    · -- A mark would stand right behind the word, where a blank is.
      obtain ⟨first, blanks, rfl⟩ := List.exists_cons_of_ne_nil nonempty
      have markBlank := blank first (by simp)
      rw [(List.cons.inj same).1] at markBlank
      rcases isMark with rfl | rfl <;> exact absurd markBlank (by decide)

/-- What a declaration that was read looks like. -/
structure WellFormed (declaration : Declaration) : Prop where
  isName : IsName declaration.name
  typeTrimmed : trim declaration.type = declaration.type
  typeOpen : ';' ∉ declaration.type

/-- Every declaration that is read has a name and a trimmed type without a semicolon. -/
theorem wellFormed_of_read? {text : Text} {declaration : Declaration}
    (isRead : read? text = some declaration) : declaration.WellFormed := by
  -- A spelling carries these facts with it, and trimming the type keeps them.
  obtain ⟨spelling, -, rfl⟩ := read?_eq_some_iff.mp isRead
  exact ⟨spelling.isName, trim_trim _, fun member => spelling.writtenOpen (mem_of_mem_trim member)⟩

/-- The declared type is made of characters of the line. -/
theorem mem_of_mem_type {text : Text} {declaration : Declaration} {char : Char}
    (isRead : read? text = some declaration) (member : char ∈ declaration.type) : char ∈ text := by
  obtain ⟨spelling, rfl, rfl⟩ := read?_eq_some_iff.mp isRead
  have written : char ∈ spelling.written := mem_of_mem_trim member
  simp [Spelling.text, Spelling.tail, written]

/--
Where a line declares something, a front of name characters that no modifier starts like is a front
of the declared name, which then stands at the start of the line.
-/
theorem prefix_iff_of_read? {text front : Text} {first : Char} {declaration : Declaration}
    (isRead : read? text = some declaration)
    (continues : ∀ char ∈ first :: front, continuesName char = true)
    (noModifier : ∀ word ∈ modifiers, word.head? ≠ some first) :
    first :: front <+: text ↔ first :: front <+: declaration.name ∧ declaration.name <+: text := by
  constructor
  · intro starts
    obtain ⟨spelling, rfl, rfl⟩ := read?_eq_some_iff.mp isRead
    -- A modifier in front would be there instead of the first character.
    have unmodified : spelling.text = spelling.name ++ spelling.tail := by
      unfold Spelling.text at starts ⊢
      cases listed : spelling.modifiers with
      | nil => rfl
      | cons modifier others =>
        rw [listed, flatMap_text_cons_append] at starts
        obtain ⟨letter, word, isWord⟩ :=
          List.exists_cons_of_ne_nil (isName_of_mem_modifiers _ modifier.listed).ne_nil
        rw [isWord, List.cons_append, List.cons_prefix_cons] at starts
        refine absurd ?_ (noModifier _ modifier.listed)
        rw [isWord, starts.1]
        rfl
    have named : spelling.name <+: spelling.text := unmodified ▸ List.prefix_append _ _
    refine ⟨?_, named⟩
    rcases List.prefix_or_prefix_of_prefix starts named with inName | ⟨more, longer⟩
    · exact inName
    · cases more with
      | nil =>
        rw [List.append_nil] at longer
        exact longer ▸ List.prefix_rfl
      | cons char more =>
        -- The front would go on behind the name, where no name character stands.
        rw [unmodified, ← longer, List.prefix_append_right_inj] at starts
        obtain ⟨rest, split⟩ := starts
        have ends := spelling.tail_ends char (by rw [← split]; rfl)
        have goesOn := continues char (by rw [← longer]; simp)
        rw [goesOn] at ends
        cases ends
  · rintro ⟨inName, named⟩
    exact inName.trans named

end EntityDto.Declaration
