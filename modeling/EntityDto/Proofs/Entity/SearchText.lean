import EntityDto.Entity
import EntityDto.Proofs.Text.Lines
import EntityDto.Proofs.Text.Scan

/-! What waits for a property is searched for one attribute, which never runs across two texts. -/

namespace EntityDto

open Text

/-- A text behind a line break that cannot carry on an attribute from before it. -/
def StartsAfresh (text : Text) : Prop :=
  ∀ char ∈ text.head?, char = '@'

/-- Blanks before a break lead to nothing but the sign of a decorator. -/
theorem trimStart_feed_cons {back : Text} (afresh : StartsAfresh back) :
    trimStart ('\n' :: back) = back := by
  have feedBlank : isBlank '\n' = true := by decide
  rw [trimStart_cons feedBlank]
  -- Behind the break stands nothing, or a sign that is not blank.
  apply trimStart_eq_self
  intro char isHead
  rw [afresh char isHead]
  decide

/-- A front that does not start with the sign of a decorator does not start a fresh text. -/
theorem after?_eq_none_of_afresh {wanted : Char} (notSign : wanted ≠ '@') (front : Text)
    {back : Text} (afresh : StartsAfresh back) : after? (wanted :: front) back = none := by
  -- Its first character, if any, is the sign.
  cases back with
  | nil => rfl
  | cons char back =>
    have isSign : char = '@' := afresh char rfl
    exact after?_eq_none_of_ne (by rw [isSign]; exact notSign) front back

/--
Blanks and a front are found before a break exactly when they are found without what is behind it.

The blanks may reach the break, but then nothing of the front follows.
-/
theorem after?_trimStart_append {wanted : Char} {front back : Text} (notSign : wanted ≠ '@')
    (noFeed : '\n' ∉ wanted :: front) (afresh : StartsAfresh back) (text : Text) :
    after? (wanted :: front) (trimStart (text ++ '\n' :: back)) =
      (after? (wanted :: front) (trimStart text)).map (· ++ '\n' :: back) := by
  by_cases left : trimStart text = []
  · -- Only blanks stand before the break, so the skip crosses it and stops at the sign.
    have blank : AllBlank text := List.dropWhile_eq_nil_iff.mp left
    rw [trimStart_append blank, trimStart_feed_cons afresh, left,
      after?_eq_none_of_afresh notSign front afresh]
    rfl
  · -- The skip stops before the break, and the front cannot hold it.
    rw [trimStart_append_of_ne_nil left, after?_append_cons noFeed]

/-- The attribute starts somewhere before a break exactly when it does so without what is behind. -/
theorem nullableHere_append {back : Text} (afresh : StartsAfresh back) (text : Text) :
    Attribute.nullableHere (text ++ '\n' :: back) = Attribute.nullableHere text := by
  -- Its three parts are looked for one behind the other, with blanks skipped before each.
  unfold Attribute.nullableHere afterColon?
  rw [after?_append_cons (by decide)]
  cases after? "nullable".toList text with
  | none => rfl
  | some behind =>
    simp only [Option.map_some, Option.bind_some]
    rw [after?_trimStart_append (by decide) (by decide) afresh]
    cases after? [':'] (trimStart behind) with
    | none => rfl
    | some value =>
      simp only [Option.map_some, startsWith]
      rw [show "true".toList = 't' :: "rue".toList from rfl,
        after?_trimStart_append (by decide) (by decide) afresh, Option.isSome_map]

/-- A break before a fresh text parts the places where the attribute can start. -/
theorem holdsSomewhere_nullableHere_append {back : Text} (afresh : StartsAfresh back)
    (text : Text) :
    holdsSomewhere Attribute.nullableHere (text ++ '\n' :: back) =
      (holdsSomewhere Attribute.nullableHere text
        || holdsSomewhere Attribute.nullableHere back) := by
  induction text with
  | nil =>
    -- At the break itself the attribute cannot start.
    have atBreak := nullableHere_append afresh []
    rw [List.nil_append] at atBreak
    show (Attribute.nullableHere ('\n' :: back) || holdsSomewhere Attribute.nullableHere back) = _
    rw [atBreak]
    rfl
  | cons char text ih =>
    -- What starts here is decided before the break.
    have here := nullableHere_append afresh (char :: text)
    rw [List.cons_append] at here
    rw [List.cons_append, holdsSomewhere, here, ih, holdsSomewhere, Bool.or_assoc]

/-- Joined decorators start with the sign of the first of them. -/
theorem startsAfresh_joinLines {decorators : List Text}
    (signed : ∀ line ∈ decorators, line.startsWith ['@'] = true) :
    StartsAfresh (joinLines decorators) := by
  intro char isHead
  cases decorators with
  | nil => simp [joinLines, join] at isHead
  | cons line decorators =>
    obtain ⟨rest, rfl⟩ := startsWith_iff.mp (signed line (by simp))
    -- Whether other lines follow does not change what the first line starts with.
    by_cases more : decorators = []
    · subst more
      exact (Option.some.inj isHead).symm
    · rw [joinLines_cons _ more] at isHead
      exact (Option.some.inj isHead).symm

/-- The attribute is found in joined decorators exactly when one of them alone holds it. -/
theorem holdsSomewhere_nullableHere_joinLines {decorators : List Text}
    (signed : ∀ line ∈ decorators, line.startsWith ['@'] = true) :
    holdsSomewhere Attribute.nullableHere (joinLines decorators) =
      decorators.any (holdsSomewhere Attribute.nullableHere) := by
  induction decorators with
  | nil => rfl
  | cons line decorators ih =>
    have restSigned : ∀ other ∈ decorators, other.startsWith ['@'] = true :=
      fun other member => signed other (by simp [member])
    by_cases more : decorators = []
    · -- A single decorator is joined with nothing.
      subst more
      simp [joinLines, join]
    · -- The others start with a sign, so the attribute does not reach into them.
      rw [joinLines_cons _ more,
        holdsSomewhere_nullableHere_append (startsAfresh_joinLines restSigned), ih restSigned,
        List.any_cons]

/-- The attribute is found among what waits exactly when the block or one decorator holds it. -/
theorem holdsSomewhere_nullableHere_searchText {pending : Pending}
    (signed : ∀ line ∈ pending.decorators, line.startsWith ['@'] = true) :
    holdsSomewhere Attribute.nullableHere pending.searchText =
      (holdsSomewhere Attribute.nullableHere (pending.columnMeta.getD [])
        || pending.decorators.any (holdsSomewhere Attribute.nullableHere)) := by
  -- The block comes first, and all decorators stand behind a break.
  rw [Pending.searchText, holdsSomewhere_nullableHere_append (startsAfresh_joinLines signed),
    holdsSomewhere_nullableHere_joinLines signed]

end EntityDto
