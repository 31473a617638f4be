import EntityDto.Proofs.Entity.ClassSearch
import EntityDto.Proofs.Entity.InStep
import EntityDto.Proofs.Field.Attributes
import EntityDto.Proofs.Token.Lines

/-!
Sources that differ only in blank lines and in the blanks around their lines are read alike, inside
column blocks and class headers as well.
-/

namespace EntityDto

open Text

/-- Related options stay related under related functions. -/
theorem rel_map {α β : Type} {same next : α → β → Prop} {first : α → α} {second : β → β}
    {found : Option α} {other : Option β} (related : Option.Rel same found other)
    (step : ∀ {value otherValue}, same value otherValue → next (first value) (second otherValue)) :
    Option.Rel next (found.map first) (other.map second) := by
  cases related with
  | some isSame => exact .some (step isSame)
  | none => exact .none

/-- Blanks around lines and blank lines do not move the line that closes a column block. -/
theorem closingIndex?_compact {depth : Int} (isOpen : 0 < depth) (lines : List Text) :
    Option.Rel (fun index other =>
        compact (lines.take (index + 1)) = (compact lines).take (other + 1)
          ∧ compact (lines.drop (index + 1)) = (compact lines).drop (other + 1))
      (closingIndex? depth lines) (closingIndex? depth (compact lines)) := by
  induction lines generalizing depth with
  | nil => exact .none
  | cons line lines ih =>
    by_cases blank : AllBlank line
    · -- A blank line opens and closes nothing, so the block stays open across it.
      have notClosed : ¬ depth + parenBalance line ≤ 0 := by
        rw [parenBalance_of_allBlank blank]
        omega
      rw [compact_cons_blank blank, closingIndex?, if_neg notClosed,
        parenBalance_of_allBlank blank, Int.add_zero,
        ← Option.map_id_apply (x := closingIndex? depth (compact lines))]
      refine rel_map (ih isOpen) ?_
      rintro index other ⟨block, below⟩
      rw [List.take_succ_cons, compact_cons_blank blank]
      exact ⟨block, below⟩
    · rw [compact_cons_solid blank, closingIndex?, closingIndex?, parenBalance_trim]
      by_cases closes : depth + parenBalance line ≤ 0
      · rw [if_pos closes, if_pos closes]
        exact .some ⟨compact_cons_solid blank [], rfl⟩
      · rw [if_neg closes, if_neg closes]
        refine rel_map (ih (by omega)) ?_
        rintro index other ⟨block, below⟩
        rw [List.take_succ_cons, compact_cons_solid blank, block, List.take_succ_cons]
        exact ⟨rfl, below⟩

/-- The lines of a column block are the same lines, but for blank ones, in any layout. -/
theorem closingIndex?_compact_cons (line : Text) (lines : List Text) :
    Option.Rel (fun index other =>
        compact (lines.take index) = (compact lines).take other
          ∧ compact (lines.drop index) = (compact lines).drop other)
      (closingIndex? 0 (line :: lines)) (closingIndex? 0 (trim line :: compact lines)) := by
  -- The first line is kept even where it is blank, and trimming keeps its parentheses.
  rw [closingIndex?, closingIndex?, parenBalance_trim]
  by_cases closes : 0 + parenBalance line ≤ 0
  · rw [if_pos closes, if_pos closes]
    exact .some ⟨rfl, rfl⟩
  · rw [if_neg closes, if_neg closes]
    exact rel_map (closingIndex?_compact (by omega) lines) id

/-- The same attributes are found in joined lines in any layout. -/
theorem sameBlock_compact (lines : List Text) :
    SameBlock (joinLines lines) (joinLines (compact lines)) where
  column := holdsSomewhere_joinLines_compact ignoresGaps_columnHere lines
  nullable := holdsSomewhere_joinLines_compact Attribute.ignoresGaps_nullableHere lines
  tinyint := holdsSomewhere_joinLines_compact Attribute.ignoresGaps_tinyintHere lines
  widthOne := holdsSomewhere_joinLines_compact Attribute.ignoresGaps_widthOneHere lines
  date := holdsSomewhere_joinLines_compact Attribute.ignoresGaps_dateHere lines

/-- Decorators that are the same text. -/
def EqualDecorator (text other : Text) : Prop :=
  text = other ∧ text.startsWith ['@'] = true

/-- A line that starts with the sign of a decorator is not blank. -/
theorem not_allBlank_of_startsWith {line : Text} (signed : (trim line).startsWith ['@'] = true) :
    ¬ AllBlank line := by
  intro blank
  rw [trim_eq_nil_iff.mpr blank] at signed
  exact absurd signed (by decide)

/-- A blank line is neither a decorator nor a declaration. -/
theorem isSkipped_of_allBlank {line : Text} (blank : AllBlank line) : IsSkipped line := by
  apply isSkipped_of_head?
  rw [trim_eq_nil_iff.mpr blank]
  simp

/-- The lines that are not blank make the same tokens by themselves, under lower numbers. -/
theorem inStep_compact (number otherNumber : Nat) (lines : List Text) :
    InStep EqualDecorator SameBlock (Token.ofLinesFrom number lines)
      (Token.ofLinesFrom otherNumber (compact lines)) := by
  fun_induction Token.ofLinesFrom number lines generalizing otherNumber with
  | case1 =>
    rw [compact, List.map_nil, List.filter_nil, Token.ofLinesFrom]
    exact .nil
  | case2 number line rest text opens index closes ih =>
    have signed := startsWith_of_opensColumnBlock opens
    have opensToo : Token.opensColumnBlock (trim (trim line)) = true := by rwa [trim_trim]
    have related := closingIndex?_compact_cons line rest
    have raw := sameBlock_compact (line :: rest.take index)
    rw [compact_cons_solid (not_allBlank_of_startsWith signed)] at raw ⊢
    generalize closesToo : closingIndex? 0 (trim line :: compact rest) = found at related
    rw [closes] at related
    -- The block takes the same lines on both sides, and the scan goes on at the same line.
    cases related with
    | some sameLines =>
      rw [sameLines.1] at raw
      rw [Token.ofLinesFrom_closed opensToo closesToo, trim_trim, ← sameLines.2]
      exact .columnBlock ⟨rfl, signed⟩ raw (ih _)
  | case3 number line rest text opens unclosed ih =>
    have signed := startsWith_of_opensColumnBlock opens
    have opensToo : Token.opensColumnBlock (trim (trim line)) = true := by rwa [trim_trim]
    have related := closingIndex?_compact_cons line rest
    have raw := sameBlock_compact (line :: rest)
    rw [compact_cons_solid (not_allBlank_of_startsWith signed)] at raw ⊢
    generalize unclosedToo : closingIndex? 0 (trim line :: compact rest) = found at related
    rw [unclosed] at related
    cases related with
    | none =>
      rw [Token.ofLinesFrom_unclosed opensToo unclosedToo, trim_trim]
      exact .columnBlock ⟨rfl, signed⟩ raw (ih _)
  | case4 number line rest text single ih =>
    have single : Token.opensColumnBlock (trim line) = false := by simpa using single
    by_cases blank : AllBlank line
    · -- A blank line is skipped, and there is none for it on the other side.
      rw [compact_cons_blank blank, show Token.singleKind text = .other from
        (isSkipped_of_allBlank blank).singleKind_eq]
      exact .skip (ih _)
    · rw [compact_cons_solid blank, Token.ofLinesFrom_single (by rwa [trim_trim]), trim_trim]
      exact InStep.cons_singleKind (fun signed => ⟨rfl, signed⟩) (ih _) _ _

/-- All there is to a field apart from the raw text of its column block. -/
def Field.traitsAndDecorators (field : Field) : FieldTraits × List Text :=
  (field.traits, field.decorators)

/-- Equal decorators say the same of a field, which then also keeps them as they are. -/
theorem traitsAndDecorators_field {pending other : Pending}
    (waits : pending.InStep EqualDecorator SameBlock other) (declaration : Declaration) :
    (pending.field declaration).traitsAndDecorators
      = (other.field declaration).traitsAndDecorators := by
  -- Equal decorators say the same, so all that is seen of the field but their texts agrees.
  have alike : pending.InStep SameDecorator SameBlock other := by
    refine waits.imp ?_
    rintro text _ ⟨rfl, signed⟩
    exact .refl signed
  have equal : pending.decorators = other.decorators :=
    List.forall₂_eq_eq_eq ▸ waits.decorators.imp fun _ _ same => same.1
  exact Prod.ext (alike.traits_field declaration) equal

/-- The lines that are not blank, without the blanks around them, tell all of that. -/
theorem outline_ofSource?_compact (source : Text) :
    (Entity.ofSource? source).map (Entity.outline Field.traitsAndDecorators)
      = (className? (joinLines (compact (sourceLines source)))).map fun className =>
        (className, withoutEntitySuffix className,
          (fieldsFrom .none (Token.ofLines (compact (sourceLines source)))).map
            Field.traitsAndDecorators) := by
  -- The tokens stay in step without blanks, and the class search does not see the difference.
  have fields := (inStep_compact 1 1 (sourceLines source)).map_fieldsFrom .none
    traitsAndDecorators_field
  rw [Entity.ofSource?, Option.map_map, className?_eq_compact]
  congr 1
  funext className
  exact congrArg (fun seen => (className, withoutEntitySuffix className, seen)) fields

/--
Lines laid out anew: blanks come or go at the ends of a line, and so do whole lines of blanks.

Nothing else changes, so the lines that hold more than blanks keep their order and their text.
-/
inductive Relaid : List Text → List Text → Prop
  | nil : Relaid [] []
  | line {before after otherBefore otherAfter : Text} (text : Text)
      (beforeBlank : AllBlank before) (afterBlank : AllBlank after)
      (otherBeforeBlank : AllBlank otherBefore) (otherAfterBlank : AllBlank otherAfter)
      {lines others : List Text} (rest : Relaid lines others) :
      Relaid ((before ++ (text ++ after)) :: lines) ((otherBefore ++ (text ++ otherAfter)) :: others)
  | delete {line : Text} (blank : AllBlank line) {lines others : List Text}
      (rest : Relaid lines others) : Relaid (line :: lines) others
  | insert {line : Text} (blank : AllBlank line) {lines others : List Text}
      (rest : Relaid lines others) : Relaid lines (line :: others)

/-- A line may be laid out as any other one with the same text in the middle. -/
theorem Relaid.cons {line other : Text} (same : trim line = trim other) {lines others : List Text}
    (rest : Relaid lines others) : Relaid (line :: lines) (other :: others) := by
  -- Either line is the trimmed one with its own blanks around it.
  obtain ⟨before, after, beforeBlank, afterBlank, split⟩ := exists_trim_eq line
  obtain ⟨otherBefore, otherAfter, otherBeforeBlank, otherAfterBlank, otherSplit⟩ :=
    exists_trim_eq other
  rw [split, otherSplit, ← same]
  exact .line _ beforeBlank afterBlank otherBeforeBlank otherAfterBlank rest

/-- Lines can be laid out as others exactly when both have the same lines that are not blank. -/
theorem relaid_iff {lines others : List Text} :
    Relaid lines others ↔ compact lines = compact others := by
  constructor
  · intro relaid
    induction relaid with
    | nil => rfl
    | line text beforeBlank afterBlank otherBeforeBlank otherAfterBlank _ ih =>
      simp only [compact, List.map_cons, trim_append_left beforeBlank,
        trim_append_left otherBeforeBlank, trim_append_right afterBlank,
        trim_append_right otherAfterBlank, List.filter_cons] at ih ⊢
      rw [ih]
    | delete blank _ ih => rw [compact_cons_blank blank, ih]
    | insert blank _ ih => rw [compact_cons_blank blank, ih]
  · intro same
    -- Blank lines are taken away on either side until both sides show a line that is not blank.
    induction lines generalizing others with
    | nil =>
      induction others with
      | nil => exact .nil
      | cons other others ih =>
        by_cases blank : AllBlank other
        · rw [compact_cons_blank blank] at same
          exact .insert blank (ih same)
        · rw [compact_cons_solid blank] at same
          exact absurd same (List.cons_ne_nil _ _).symm
    | cons line lines ih =>
      by_cases blank : AllBlank line
      · rw [compact_cons_blank blank] at same
        exact .delete blank (ih same)
      · rw [compact_cons_solid blank] at same
        induction others with
        | nil => exact absurd same (List.cons_ne_nil _ _)
        | cons other others findNext =>
          by_cases otherBlank : AllBlank other
          · rw [compact_cons_blank otherBlank] at same
            exact .insert otherBlank (findNext same)
          · rw [compact_cons_solid otherBlank, List.cons.injEq] at same
            exact .cons same.1 (ih same.2)

instance (lines others : List Text) : Decidable (Relaid lines others) :=
  decidable_of_iff _ relaid_iff.symm

namespace Entity

/--
Layout does not matter: sources laid out anew have the same class with the same fields, or no class.

Only the raw text of a column block shows how it was laid out; all that is read from it does not.
-/
theorem ofSource?_relaid {source other : Text}
    (relaid : Relaid (sourceLines source) (sourceLines other)) :
    (ofSource? source).map (outline Field.traitsAndDecorators)
      = (ofSource? other).map (outline Field.traitsAndDecorators) := by
  rw [outline_ofSource?_compact, outline_ofSource?_compact, relaid_iff.mp relaid]

/-- A class without indentation and without blank lines. -/
def denseSource : Text :=
  "export\nclass A \x7b\n@Column(\x7b type:\n'tinyint', width:\n1, nullable:\ntrue \x7d)\nx: T;\n\x7d".toList

/-- The same class with blank lines in its header and in its block, and blanks around its lines. -/
def airySource : Text :=
  "  export\n\n\tclass A \x7b \n  @Column(\x7b type:  \n\t\n 'tinyint', width:\n\n1, nullable:\n \n  true \x7d)\n\n  x: T;\n\x7d\n".toList

/-- The class is read alike in both layouts, with its optional truth value. -/
theorem ofSource?_relaid_airy :
    Relaid (sourceLines denseSource) (sourceLines airySource)
    ∧ (ofSource? denseSource).map (outline Field.traitsAndDecorators)
      = (ofSource? airySource).map (outline Field.traitsAndDecorators)
    ∧ (ofSource? airySource).map (outline Field.traitsAndDecorators)
      = some ("A".toList, "A".toList,
        [(⟨"x".toList, "T".toList, true, false, false, false, true, false⟩,
          ["@Column(\x7b type:".toList])]) := by
  have relaid : Relaid (sourceLines denseSource) (sourceLines airySource) := by decide +kernel
  exact ⟨relaid, ofSource?_relaid relaid, by decide +kernel⟩

end Entity

end EntityDto
