import EntityDto.Proofs.Entity.InStep
import EntityDto.Proofs.Token.Lines

/-!
Replacing a run of lines by another one. Whatever column blocks open above the run, the tokens stay
in step, as long as such a block finds the same end and says the same with either run.
-/

namespace EntityDto

open Text

/-- A line that opens a column block brings the sign of a column decorator into its raw text. -/
theorem contains_column_of_opens {line : Text} (opens : Token.opensColumnBlock (trim line) = true)
    (lines : List Text) : (joinLines (line :: lines)).contains "@Column(".toList = true := by
  simp only [Token.opensColumnBlock, Bool.and_eq_true, startsWith_iff] at opens
  obtain ⟨⟨rest, trimmed⟩, -⟩ := opens
  -- The sign stands behind the blanks that trimming takes off the line.
  obtain ⟨before, after, -, -, split⟩ := exists_trim_eq line
  obtain ⟨more, joined⟩ := joinLines_prefix [line] lines
  have first : joinLines [line] = before ++ ("@Column(".toList ++ (rest ++ after)) := by
    rw [← List.append_assoc "@Column(".toList, ← trimmed]
    exact split
  rw [List.singleton_append, first] at joined
  refine holdsSomewhere_iff.mpr ⟨before, "@Column(".toList ++ (rest ++ after ++ more), ?_, ?_⟩
  · rw [← joined]
    simp only [List.append_assoc]
  · exact startsWith_iff.mpr ⟨_, rfl⟩

/-- Lines that may stand for each other in every column block that opens above them. -/
structure Replaceable (run other : List Text) : Prop where
  length : run.length = other.length
  closes : ∀ depth : Int, 0 < depth → ∀ below,
    closingIndex? depth (run ++ below) = closingIndex? depth (other ++ below)
  /-- Such a block takes all of the lines, if it closes at all. -/
  reaches : ∀ depth : Int, 0 < depth → ∀ below index,
    closingIndex? depth (run ++ below) = some index → run.length ≤ index + 1
  block : ∀ above below : List Text,
    (joinLines (above ++ (run ++ below))).contains "@Column(".toList
        = (joinLines (above ++ (other ++ below))).contains "@Column(".toList →
      SameBlock (joinLines (above ++ (run ++ below))) (joinLines (above ++ (other ++ below)))

section InStep

variable {sameText : Text → Text → Prop}
  (refl : ∀ {text : Text}, text.startsWith ['@'] = true → sameText text text)

include refl

/-- Tokens are in step with themselves. -/
theorem inStep_refl (number : Nat) (lines : List Text) :
    InStep sameText SameBlock (Token.ofLinesFrom number lines)
      (Token.ofLinesFrom number lines) := by
  -- Every token is in step with itself, whether its block closes or not.
  fun_induction Token.ofLinesFrom number lines with
  | case1 => exact .nil
  | case2 number line rest text opens index closes ih =>
    exact .columnBlock (refl (startsWith_of_opensColumnBlock opens)) (.refl _) ih
  | case3 number line rest text opens unclosed ih =>
    exact .columnBlock (refl (startsWith_of_opensColumnBlock opens)) (.refl _) ih
  | case4 number line rest text single ih => exact ih.cons_singleKind refl number number

/--
Replacing lines leaves the tokens in step if it does so where a token starts at the first of them.

The induction is on the lines above; a block that opens there closes at the same line as before.
-/
theorem inStep_replace {run other : List Text} (same : Replaceable run other) {number : Nat}
    {above below : List Text}
    (atRun : Token.ofLinesFrom (number + above.length) (run ++ below)
        <:+ Token.ofLinesFrom number (above ++ (run ++ below)) →
      Token.ofLinesFrom (number + above.length) (other ++ below)
        <:+ Token.ofLinesFrom number (above ++ (other ++ below)) →
      InStep sameText SameBlock (Token.ofLinesFrom (number + above.length) (run ++ below))
        (Token.ofLinesFrom (number + above.length) (other ++ below))) :
    InStep sameText SameBlock (Token.ofLinesFrom number (above ++ (run ++ below)))
      (Token.ofLinesFrom number (above ++ (other ++ below))) := by
  fun_induction Token.ofLinesFrom number above with
  | case1 number => exact atRun List.suffix_rfl List.suffix_rfl
  | case2 number first rest text opens index closes ih =>
    -- The block closes above the lines, so its text is the same.
    obtain ⟨inside, -, -⟩ := closingIndex?_eq_some_iff.mp closes
    simp only [List.length_cons] at inside
    have sameNumber : number + (first :: rest).length
        = number + index + 1 + (rest.drop index).length := by
      simp only [List.length_cons, List.length_drop]
      omega
    rw [sameNumber, Token.ofLinesFrom_closed_append opens closes,
      Token.ofLinesFrom_closed_append opens closes] at atRun
    rw [Token.ofLinesFrom_closed_append opens closes, Token.ofLinesFrom_closed_append opens closes]
    refine .columnBlock (refl (startsWith_of_opensColumnBlock opens)) (.refl _) (ih ?_)
    exact fun inside otherInside =>
      atRun (inside.trans (List.suffix_cons _ _)) (otherInside.trans (List.suffix_cons _ _))
  | case3 number first rest text opens unclosed ih =>
    -- The block is open at the lines, so its text changes, but not what it says or where it ends.
    have isOpen := linesBalance_pos_of_unclosed (.inr (List.cons_ne_nil first rest)) unclosed
    have closesAlike : closingIndex? 0 (first :: rest ++ (run ++ below))
        = closingIndex? 0 (first :: rest ++ (other ++ below)) := by
      rw [closingIndex?_append_of_unclosed unclosed, closingIndex?_append_of_unclosed unclosed,
        same.closes _ isOpen]
    have block (lines : List Text) : SameBlock (joinLines (first :: rest ++ (run ++ lines)))
        (joinLines (first :: rest ++ (other ++ lines))) :=
      same.block (first :: rest) lines
        ((contains_column_of_opens opens _).trans (contains_column_of_opens opens _).symm)
    cases closes : closingIndex? 0 (first :: rest ++ (run ++ below)) with
    | some index =>
      -- The block takes the lines with it and closes at the last of them or further down.
      have inRun := closes
      rw [closingIndex?_append_of_unclosed unclosed, Option.map_eq_some_iff] at inRun
      obtain ⟨place, closesIn, rfl⟩ := inRun
      obtain ⟨count, counted⟩ := Nat.exists_eq_add_of_le (same.reaches _ isOpen below place closesIn)
      rw [Token.ofLinesFrom_closed_behind opens closes counted,
        Token.ofLinesFrom_closed_behind opens (closesAlike ▸ closes) (same.length ▸ counted)]
      exact .columnBlock (refl (startsWith_of_opensColumnBlock opens)) (block _)
        (inStep_refl refl _ _)
    | none =>
      -- The block never closes, and the scan goes on below its first line.
      have sameNumber : number + (first :: rest).length = number + 1 + rest.length := by
        rw [List.length_cons]
        omega
      have alone {lines : List Text} (closes : closingIndex? 0 (first :: rest ++ lines) = .none) :
          Token.ofLinesFrom number (first :: rest ++ lines) =
            ⟨.columnBlock (joinLines (first :: rest ++ lines)) false, number, trim first⟩
              :: Token.ofLinesFrom (number + 1) (rest ++ lines) :=
        Token.ofLinesFrom_unclosed opens closes number
      rw [sameNumber, alone closes, alone (closesAlike ▸ closes)] at atRun
      rw [alone closes, alone (closesAlike ▸ closes)]
      refine .columnBlock (refl (startsWith_of_opensColumnBlock opens)) (block _) (ih ?_)
      exact fun inside otherInside =>
        atRun (inside.trans (List.suffix_cons _ _)) (otherInside.trans (List.suffix_cons _ _))
  | case4 number first rest text single ih =>
    have single : Token.opensColumnBlock (trim first) = false := by simpa using single
    have sameNumber : number + (first :: rest).length = number + 1 + rest.length := by
      rw [List.length_cons]
      omega
    rw [List.cons_append, List.cons_append, Token.ofLinesFrom_single single,
      Token.ofLinesFrom_single single, sameNumber] at atRun
    rw [List.cons_append, List.cons_append, Token.ofLinesFrom_single single,
      Token.ofLinesFrom_single single]
    refine (ih ?_).cons_singleKind refl number number
    exact fun inside otherInside =>
      atRun (inside.trans (List.suffix_cons _ _)) (otherInside.trans (List.suffix_cons _ _))

end InStep

end EntityDto
