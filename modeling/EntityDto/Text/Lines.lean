import EntityDto.Text.Basic

/-! The ways a text is cut into lines, and how lines are put together again. -/

namespace EntityDto.Text

/-- Cuts at every line feed; a carriage return right before one belongs to the break. -/
def sourceLines : Text → List Text
  | [] => [[]]
  | '\n' :: rest => [] :: sourceLines rest
  | '\r' :: '\n' :: rest => [] :: sourceLines rest
  -- Any other character, a lone carriage return included, extends the line that follows.
  | char :: rest =>
    match sourceLines rest with
    | [] => [[char]]
    | line :: lines => (char :: line) :: lines

/-- Joins lines with line feeds. -/
def joinLines (lines : List Text) : Text :=
  join ['\n'] lines

/-- The characters that break a line wherever Unicode knows a line or paragraph boundary. -/
def breakCodes : CodeRanges :=
  [(0x0A, 0x0D), (0x1C, 0x1E), (0x85, 0x85), (0x2028, 0x2029)]

/--
Cuts at every kind of line boundary, a carriage return with its line feed being one.

A boundary at the end of the text opens no further line, so the empty text has none.
-/
def brokenLines : Text → List Text
  | [] => []
  | '\r' :: '\n' :: rest => [] :: brokenLines rest
  | char :: rest =>
    if breakCodes.has char then [] :: brokenLines rest
    else
      -- A last line without a boundary behind it still counts.
      match brokenLines rest with
      | [] => [[char]]
      | line :: lines => (char :: line) :: lines

/-- Turns carriage returns, alone or before a line feed, into line feeds. -/
def unifyBreaks : Text → Text
  | [] => []
  | '\r' :: '\n' :: rest => '\n' :: unifyBreaks rest
  | char :: rest => (if char = '\r' then '\n' else char) :: unifyBreaks rest

end EntityDto.Text
