import EntityDto.Text.Basic

/-! Integers as people write them, with white space, grouping underscores and fractions of zeros. -/

namespace EntityDto

/-- Why a text is not read as an integer. -/
inductive IntegerFault where
  | unreadable
  | tooLong
  deriving DecidableEq

namespace Text

/--
White space around a written integer.

The separator controls of ASCII, which are blank elsewhere, are not white space here.
-/
def isNumberSpace (char : Char) : Bool :=
  isBlank char && !(0x1C ≤ char.toNat && char.toNat ≤ 0x1F)

/-- The value of decimal digits, each worth ten times the next. -/
def digitsValue (digits : Text) : Nat :=
  digits.foldl (fun value digit => value * 10 + (digit.toNat - '0'.toNat)) 0

/--
What is left of a number from which zeros were taken, `last` being the last character taken.

Underscores count as zeros here, and a minus sign may follow them.
-/
def afterZeros? (last : Char) : Text → Option Text
  -- Zeros alone leave one of them, since a number needs a digit.
  | [] => some [last]
  | char :: rest =>
    if char = '0' || char = '_' then afterZeros? char rest
    -- A point needs a digit before it.
    else if char = '.' then some (last :: char :: rest)
    else if char = '-' || isDigit char then some (char :: rest)
    else none

/-- A number without the needless zeros at its front; it must start with a digit. -/
def withoutLeadingZeros? : Text → Option Text
  | [] => none
  | char :: rest =>
    if char = '0' then afterZeros? char rest
    else if isDigit char then some (char :: rest)
    else none

/-- What stands before the point, when zeros alone follow it, and at least one. -/
def wholePart (text : Text) : Text :=
  match text.spanOf (· ≠ '.') with
  | (whole, _ :: first :: others) => if (first :: others).all (· = '0') then whole else text
  | _ => text

/-- A number without its underscores, if each of them stands alone and none at an end. -/
def withoutUnderscores (number : Text) : Text :=
  let groups := splitWhere (· = '_') number
  -- An empty group shows an underscore at an end or beside another one.
  if groups.any List.isEmpty then number else groups.flatten

/-- A number as its digits alone, behind a minus sign where one follows leading zeros. -/
def plainNumber? (number : Text) : Option Text :=
  (withoutLeadingZeros? number).map fun number => withoutUnderscores (wholePart number)

/-- The most characters that a plain integer may have, its minus sign included. -/
def integerLimit : Nat := 4300

/-- Reads digits, at most `limit` of them, without needless zeros. -/
def readMagnitude (limit : Nat) (text : Text) : Except IntegerFault Nat :=
  match text.spanOf isDigit with
  | ([], _) => .error .unreadable
  | (first :: others, behind) =>
    if first = '0' then
      if others.isEmpty && behind.isEmpty then .ok 0 else .error .unreadable
    -- The digits are counted before what follows them is looked at.
    else if limit < others.length + 1 then .error .tooLong
    else if behind.isEmpty then .ok (digitsValue (first :: others))
    else .error .unreadable

/-- Reads an integer in plain digits, behind a minus sign when it is negative. -/
def readPlainInteger : Text → Except IntegerFault Int
  | '-' :: digits =>
    (readMagnitude (integerLimit - 1) digits).map fun magnitude => -(magnitude : Int)
  | digits => (readMagnitude integerLimit digits).map Int.ofNat

/--
Reads an integer.

It may have white space around it, a sign, leading zeros, single underscores between digits, and
a fraction of zeros. Among leading zeros underscores stand anywhere, and a minus sign may follow.
-/
def toInteger (text : Text) : Except IntegerFault Int :=
  let plain? :=
    match dropEndWhile isNumberSpace (text.dropWhile isNumberSpace) with
    | '-' :: number => (plainNumber? number).map ('-' :: ·)
    | '+' :: number => plainNumber? number
    | number => plainNumber? number
  match plain? with
  | some plain => readPlainInteger plain
  | none => .error .unreadable

end Text

end EntityDto
