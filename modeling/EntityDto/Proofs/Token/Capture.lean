import EntityDto.Proofs.Token.Runs

/-!
Which lines the capture of a column block takes, from any index on: those up to the first one at
which the parentheses balance, or all lines that are left when they balance at none.
-/

namespace EntityDto

open Text

namespace ColumnBlock

/--
The lines that follow each other from an index on.

An index below zero counts back from the end, and behind the last line all lines come once more.
-/
def window (lines : List Text) (start : Int) : List Text :=
  if start < 0 then lines.drop (lines.length + start).toNat ++ lines
  else lines.drop start.toNat

/-- Behind the last line there is nothing left. -/
theorem window_eq_nil {lines : List Text} {start : Int} (past : lines.length ≤ start) :
    window lines start = [] := by
  rw [window, if_neg (by omega), List.drop_eq_nil_iff]
  omega

/-- The lines from a line on are those below all lines above it. -/
theorem window_append (above below : List Text) :
    window (above ++ below) above.length = below := by
  rw [window, if_neg (by omega), Int.toNat_natCast, List.drop_left]

/-- From an index between the ends on, the line at the index comes first and the others follow. -/
theorem exists_window_eq_cons {lines : List Text} {index : Int} (reaches : -lines.length ≤ index)
    (within : index < lines.length) :
    ∃ line, lineAt? lines index = some line
      ∧ window lines index = line :: window lines (index + 1) := by
  by_cases below : index < 0
  · have place : (lines.length + index).toNat < lines.length := by omega
    have next : (lines.length + (index + 1)).toNat = (lines.length + index).toNat + 1 := by omega
    refine ⟨lines[(lines.length + index).toNat], ?_, ?_⟩
    · rw [lineAt?, if_pos below, if_neg (by omega), List.getElem?_eq_getElem place]
    · rw [window, if_pos below, List.drop_eq_getElem_cons place, List.cons_append, ← next]
      -- From the last line the index goes on to zero, which is where all lines begin.
      by_cases last : index + 1 < 0
      · rw [window, if_pos last]
      · have atEnd : lines.length ≤ (lines.length + (index + 1)).toNat := by omega
        have atStart : (index + 1).toNat = 0 := by omega
        rw [window, if_neg last, List.drop_eq_nil_of_le atEnd, List.nil_append, atStart,
          List.drop_zero]
  · have place : index.toNat < lines.length := by omega
    have next : (index + 1).toNat = index.toNat + 1 := by omega
    refine ⟨lines[index.toNat], ?_, ?_⟩
    · rw [lineAt?, if_neg below, if_neg below, List.getElem?_eq_getElem place]
    · rw [window, if_neg below, List.drop_eq_getElem_cons place, window, if_neg (by omega), next]

/-- No line stands further before the first one than there are lines. -/
theorem lineAt?_eq_none {lines : List Text} {index : Int} (before : index < -lines.length) :
    lineAt? lines index = none := by
  rw [lineAt?, if_pos (by omega)]

/-- A walk that starts too far before the first line fails at once. -/
theorem walk_of_before {lines : List Text} {start : Int} (before : start < -lines.length)
    (depth : Int) : walk lines depth start = .error .startOutOfRange := by
  rw [walk, if_pos (by omega), lineAt?_eq_none before]

/--
A walk that starts late enough takes the lines that follow each other up to the closing one.

The walk and the search for the closing line go on line by line together, at the same depth.
-/
theorem walk_eq {lines : List Text} {start : Int} (reaches : -lines.length ≤ start) (depth : Int) :
    walk lines depth start = .ok
      (match closingIndex? depth (window lines start) with
      | some index => ((window lines start).take (index + 1), some (start + index))
      | none => (window lines start, none)) := by
  fun_induction walk lines depth start with
  | case1 depth start within missing =>
    -- An index in this range always has a line.
    obtain ⟨line, found, -⟩ := exists_window_eq_cons reaches within
    rw [missing] at found
    cases found
  | case2 depth start within line found here closes =>
    obtain ⟨other, sameFound, window⟩ := exists_window_eq_cons reaches within
    obtain rfl : line = other := Option.some.inj (found.symm.trans sameFound)
    rw [window, closingIndex?, if_pos closes]
    simp
  | case3 depth start within line found here isOpen ih =>
    obtain ⟨other, sameFound, window⟩ := exists_window_eq_cons reaches within
    obtain rfl : line = other := Option.some.inj (found.symm.trans sameFound)
    rw [ih (by omega), window, closingIndex?, if_neg isOpen]
    cases closingIndex? here (ColumnBlock.window lines (start + 1)) with
    | none => rfl
    | some index =>
      -- The closing line is one further from this line than from the next one.
      have last : start + 1 + index = start + (index + 1 : Nat) := by omega
      simp only [Except.map, Option.map_some, List.take_succ_cons, last]
  | case4 depth start past =>
    rw [window_eq_nil (by omega), closingIndex?]

/-- A capture fails exactly when it starts further before the first line than there are lines. -/
theorem capture_eq_error_iff {lines : List Text} {start : Int} :
    capture lines start = .error .startOutOfRange ↔ start < -lines.length := by
  -- A walk that begins within the lines always has a result.
  constructor
  · intro failed
    by_contra reaches
    rw [capture, walk_eq (by omega)] at failed
    cases closes : closingIndex? 0 (window lines start) <;> simp [closes] at failed
  · intro before
    rw [capture, walk_of_before before]

/-- A capture that succeeds starts late enough. -/
theorem reaches_of_capture {lines : List Text} {start : Int} {block : Logged ColumnBlock}
    (captured : capture lines start = .ok block) : -lines.length ≤ start := by
  by_contra before
  rw [capture_eq_error_iff.mpr (by omega)] at captured
  cases captured

/-- Where a line closes the block, the capture takes the lines up to this one. -/
theorem capture_of_closes {lines : List Text} {start : Int} (reaches : -lines.length ≤ start)
    {index : Nat} (closes : closingIndex? 0 (window lines start) = some index) :
    capture lines start
      = .ok ⟨⟨joinLines ((window lines start).take (index + 1)), start + index, true⟩, []⟩ := by
  simp only [capture, walk_eq reaches, closes]

/-- Where no line closes the block, the capture takes all lines that are left, with a warning. -/
theorem capture_of_unclosed {lines : List Text} {start : Int} (reaches : -lines.length ≤ start)
    (unclosed : closingIndex? 0 (window lines start) = none) :
    capture lines start
      = .ok ⟨⟨joinLines (window lines start), lines.length - 1, false⟩,
        [.unterminatedBlock (start + 1)]⟩ := by
  simp only [capture, walk_eq reaches, unclosed]

/-- A capture that takes the lines up to some line is one that this line closes. -/
theorem capture_eq_closed_iff {lines : List Text} {start : Int} {index : Nat} :
    capture lines start
        = .ok ⟨⟨joinLines ((window lines start).take (index + 1)), start + index, true⟩, []⟩
      ↔ -lines.length ≤ start ∧ closingIndex? 0 (window lines start) = some index := by
  constructor
  · intro captured
    have reaches := reaches_of_capture captured
    refine ⟨reaches, ?_⟩
    cases found : closingIndex? 0 (window lines start) with
    | none =>
      rw [capture_of_unclosed reaches found] at captured
      simp at captured
    | some other =>
      -- The last index tells which line closed the block.
      rw [capture_of_closes reaches found] at captured
      have same : start + (other : Int) = start + index :=
        congrArg (fun logged => logged.value.lastIndex) (Except.ok.inj captured)
      exact congrArg some (by omega)
  · rintro ⟨reaches, closes⟩
    exact capture_of_closes reaches closes

/-- A capture that takes all lines that are left is one that no line closes. -/
theorem capture_eq_open_iff {lines : List Text} {start : Int} :
    capture lines start
        = .ok ⟨⟨joinLines (window lines start), lines.length - 1, false⟩,
          [.unterminatedBlock (start + 1)]⟩
      ↔ -lines.length ≤ start ∧ StaysOpen (window lines start) := by
  rw [← closingIndex?_eq_none_iff]
  -- A block that closes is reported as closed, so an open one has no closing line.
  constructor
  · intro captured
    have reaches := reaches_of_capture captured
    refine ⟨reaches, ?_⟩
    cases found : closingIndex? 0 (window lines start) with
    | none => rfl
    | some index =>
      rw [capture_of_closes reaches found] at captured
      simp at captured
  · rintro ⟨reaches, unclosed⟩
    exact capture_of_unclosed reaches unclosed

/--
What is captured from an index on, over all lines and all indices.

The capture fails exactly when the index lies too far before the first line. Otherwise it is closed
exactly when over some number of the lines from there on no more parentheses open than close, and
then it takes the least such number of lines. It is left open, with all these lines and the last of
all lines for its end, exactly when there is no such number.
-/
theorem capture_eq_iff (lines : List Text) (start : Int) :
    (capture lines start = .error .startOutOfRange ↔ start < -lines.length)
    ∧ (∀ index : Nat,
      capture lines start
          = .ok ⟨⟨joinLines ((window lines start).take (index + 1)), start + index, true⟩, []⟩
        ↔ -lines.length ≤ start ∧ index < (window lines start).length
          ∧ linesBalance ((window lines start).take (index + 1)) ≤ 0
          ∧ ∀ earlier < index, 0 < linesBalance ((window lines start).take (earlier + 1)))
    ∧ (capture lines start
          = .ok ⟨⟨joinLines (window lines start), lines.length - 1, false⟩,
            [.unterminatedBlock (start + 1)]⟩
        ↔ -lines.length ≤ start ∧ StaysOpen (window lines start)) := by
  refine ⟨capture_eq_error_iff, fun index => ?_, capture_eq_open_iff⟩
  rw [capture_eq_closed_iff, closingIndex?_eq_some_iff]
  simp only [Int.zero_add]

/-- A block that opens in the last line goes on in the first one, when the index is below zero. -/
example : capture ["b)".toList, "a(".toList] (-1) = .ok ⟨⟨"a(\nb)".toList, 0, true⟩, []⟩ := by
  decide +kernel

end ColumnBlock

namespace Token

/-- A column block among the tokens is what is captured from its line on, with the same warning. -/
theorem capture_of_mem_ofLines {lines : List Text} {token : Token} {text : Text} {closed : Bool}
    (member : token ∈ ofLines lines) (isBlock : token.kind = .columnBlock text closed) :
    ∃ last, ColumnBlock.capture lines (token.lineNumber - 1)
      = .ok ⟨⟨text, last, closed⟩, token.warning?.toList⟩ := by
  obtain ⟨above, run, below, split, numbered, made⟩ := exists_run_of_mem member
  have start : (token.lineNumber : Int) - 1 = above.length := by omega
  have reaches : -(lines.length : Int) ≤ above.length := by omega
  have walked : ColumnBlock.window lines above.length = run ++ below := by
    rw [split, ColumnBlock.window_append]
  rw [start]
  cases made with
  | @single line number _ =>
    -- A line by itself is no column block.
    rcases singleKind_cases line with ⟨-, kind⟩ | ⟨declaration, -, kind⟩ | ⟨-, kind⟩ <;>
      simp [kind] at isBlock
  | @closed line rest number opens closes =>
    cases isBlock
    have found : closingIndex? 0 (ColumnBlock.window lines above.length) = some rest.length := by
      rw [walked]
      exact closes.closingIndex?_eq below
    rw [ColumnBlock.capture_of_closes reaches found, walked, List.take_left' List.length_cons]
    exact ⟨_, rfl⟩
  | @unclosed line number opens isOpen =>
    cases isBlock
    have found : closingIndex? 0 (ColumnBlock.window lines above.length) = none := by
      rw [walked]
      exact closingIndex?_eq_none_iff.mpr isOpen
    -- The warning names the line of the token, which is one more than the index.
    have warned : (above.length : Int) + 1 = number := by rw [← start, Int.sub_add_cancel]
    rw [ColumnBlock.capture_of_unclosed reaches found, walked, warned]
    exact ⟨_, rfl⟩

end Token

end EntityDto
