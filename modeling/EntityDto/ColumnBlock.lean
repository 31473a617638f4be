import EntityDto.Log
import EntityDto.Text.Lines

/-! Column decorators that run over several lines, captured by balancing parentheses. -/

namespace EntityDto

open Text

/-- How many parentheses a line opens beyond those it closes. -/
def parenBalance (line : Text) : Int :=
  line.count '(' - line.count ')'

/--
The index of the first line at which the running balance falls to zero or below.

The balance starts at `depth`; there is no index when the lines run out before.
-/
def closingIndex? (depth : Int) : List Text → Option Nat
  | [] => none
  | line :: rest =>
    let depth := depth + parenBalance line
    -- Only whole lines count: what happens inside a line may dip below zero and come back.
    if depth ≤ 0 then some 0 else (closingIndex? depth rest).map (· + 1)

/-- The raw text of a column decorator and where it ends. -/
structure ColumnBlock where
  text : Text
  /-- Index of the last line taken; below zero when the capture ends before the first line. -/
  lastIndex : Int
  /-- False when the lines ran out before the parentheses balanced. -/
  closed : Bool
  deriving DecidableEq

/-- Why no column block can be captured. -/
inductive CaptureError where
  /-- The start lies further before the first line than there are lines. -/
  | startOutOfRange
  deriving DecidableEq

/-- The wording of a capture error. -/
def CaptureError.message : CaptureError → Text
  | .startOutOfRange => "list index out of range".toList

namespace ColumnBlock

/-- The line at an index; one below zero counts back from the end. -/
def lineAt? (lines : List Text) (index : Int) : Option Text :=
  let place := if index < 0 then lines.length + index else index
  if place < 0 then none else lines[place.toNat]?

/--
Takes lines from an index on until the balance falls to zero or below, with the index of the last.

There is no last index when the lines run out before. The balance starts at `depth`.
-/
def walk (lines : List Text) (depth index : Int) :
    Except CaptureError (List Text × Option Int) :=
  if index < lines.length then
    match lineAt? lines index with
    -- Only the first line can be missing, for the indices get no lower.
    | none => .error .startOutOfRange
    | some line =>
      let depth := depth + parenBalance line
      if depth ≤ 0 then .ok ([line], some index)
      else (walk lines depth (index + 1)).map fun (taken, last?) => (line :: taken, last?)
  else .ok ([], none)
  termination_by (lines.length - index).toNat
  decreasing_by omega

/-- Takes lines from `start` on until the parentheses balance, warning when they never do. -/
def capture (lines : List Text) (start : Int) : Except CaptureError (Logged ColumnBlock) :=
  match walk lines 0 start with
  | .error error => .error error
  | .ok (taken, some last) => .ok ⟨⟨joinLines taken, last, true⟩, []⟩
  | .ok (taken, none) =>
    -- Everything walked over is kept, and the end is the end of the lines.
    .ok ⟨⟨joinLines taken, lines.length - 1, false⟩, [.unterminatedBlock (start + 1)]⟩

end ColumnBlock

end EntityDto
