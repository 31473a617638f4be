/-! Text as a list of characters, with blank characters, trimming and searching. -/

namespace EntityDto

/-- Text is a list of characters, so that every scan is an ordinary list recursion. -/
abbrev Text := List Char

instance : LawfulBEq Text := inferInstance

/-- Inclusive ranges of character codes. -/
abbrev CodeRanges := List (Nat × Nat)

/-- A character belongs to the ranges when one of them encloses its code. -/
def CodeRanges.has (ranges : CodeRanges) (char : Char) : Bool :=
  ranges.any fun range => range.1 ≤ char.toNat && char.toNat ≤ range.2

/--
The blank characters: the ASCII and Latin-1 controls that separate text, and every Unicode space.

A zero-width space, a word joiner and a byte order mark are not blank.
-/
def blankCodes : CodeRanges :=
  [(0x09, 0x0D), (0x1C, 0x20), (0x85, 0x85), (0xA0, 0xA0), (0x1680, 0x1680), (0x2000, 0x200A),
    (0x2028, 0x2029), (0x202F, 0x202F), (0x205F, 0x205F), (0x3000, 0x3000)]

/-- Whether a character is white space. -/
def isBlank (char : Char) : Bool :=
  blankCodes.has char

/-- Whether a character is an ASCII capital. -/
def isCapital (char : Char) : Bool :=
  'A' ≤ char && char ≤ 'Z'

/-- Whether a character is an ASCII small letter. -/
def isSmall (char : Char) : Bool :=
  'a' ≤ char && char ≤ 'z'

/-- Whether a character is an ASCII digit. -/
def isDigit (char : Char) : Bool :=
  '0' ≤ char && char ≤ '9'

/-- The small form of an ASCII capital; any other character stands for itself. -/
def lowerAscii (char : Char) : Char :=
  if isCapital char then Char.ofNat (char.toNat + 0x20) else char

namespace Text

/-- Removes the characters of a class from the end of the text. -/
def dropEndWhile (drop : Char → Bool) (text : Text) : Text :=
  (text.reverse.dropWhile drop).reverse

/-- Removes blanks from the front of the text. -/
def trimStart (text : Text) : Text :=
  text.dropWhile isBlank

/-- Removes blanks from both ends of the text. -/
def trim (text : Text) : Text :=
  -- The back is cut second, so a text of blanks is already empty by then.
  text.trimStart.dropEndWhile isBlank

/-- Removes every blank, wherever it stands. -/
def withoutBlanks (text : Text) : Text :=
  text.filter fun char => !isBlank char

/-- What follows `front`, for a text that starts with it. -/
def after? : (front text : Text) → Option Text
  | [], text => some text
  | _ :: _, [] => none
  | wanted :: front, char :: text => if wanted = char then after? front text else none

/-- Whether the text starts with `front`. -/
def startsWith (text front : Text) : Bool :=
  (after? front text).isSome

/-- What stands before `back`, for a text that ends with it. -/
def before? (back text : Text) : Option Text :=
  -- Read backwards, the end is a front.
  (after? back.reverse text.reverse).map List.reverse

/-- Whether the text ends with `back`. -/
def endsWith (text back : Text) : Bool :=
  (before? back text).isSome

/-- What follows a run of at least one blank, for a text that starts with one. -/
def afterBlanks? : Text → Option Text
  | [] => none
  | char :: rest => if isBlank char then some (trimStart rest) else none

/-- What `read` makes of the text at the leftmost place where it finds something. -/
def findFrom? (read : Text → Option α) : Text → Option α
  -- The end is a place too, where only a reader of the empty text finds something.
  | [] => read []
  | char :: rest =>
    match read (char :: rest) with
    | some found => some found
    | none => findFrom? read rest

/-- Whether `test` holds of the text from some place on. -/
def holdsSomewhere (test : Text → Bool) : Text → Bool
  | [] => test []
  | char :: rest => test (char :: rest) || holdsSomewhere test rest

/-- Whether `part` occurs in the text. -/
def contains (text part : Text) : Bool :=
  text.holdsSomewhere fun place => place.startsWith part

/-- The longest front made of characters of a class, and what follows it. -/
def spanOf (keep : Char → Bool) (text : Text) : Text × Text :=
  (text.takeWhile keep, text.dropWhile keep)

/-- The pieces between the characters at which the text is cut, empty ones included. -/
def splitWhere (cut : Char → Bool) : Text → List Text
  | [] => [[]]
  | char :: rest =>
    -- A cut closes an empty piece here, and the piece before it grows no further.
    if cut char then [] :: splitWhere cut rest
    else
      match splitWhere cut rest with
      | [] => [[char]]
      | piece :: pieces => (char :: piece) :: pieces

/-- Writes texts one after another with `separator` between neighbours. -/
def join (separator : Text) : List Text → Text
  | [] => []
  | [last] => last
  | first :: second :: rest => first ++ separator ++ join separator (second :: rest)

/-- Decimal digits of a natural number. -/
def ofNat (number : Nat) : Text :=
  Nat.toDigits 10 number

/-- Decimal digits of an integer, after a minus sign when it is negative. -/
def ofInt : Int → Text
  | .ofNat magnitude => ofNat magnitude
  | .negSucc lessOne => '-' :: ofNat (lessOne + 1)

/-- Dropping characters never lengthens a text. -/
theorem length_dropWhile_le (drop : Char → Bool) (text : Text) :
    (text.dropWhile drop).length ≤ text.length :=
  -- What is left is part of the text.
  (List.dropWhile_sublist drop).length_le

/-- Trimming never lengthens a text. -/
theorem length_trim_le (text : Text) : text.trim.length ≤ text.length := by
  -- Both ends are cut by `dropWhile`, and reversal keeps the length.
  have back := length_dropWhile_le isBlank text.trimStart.reverse
  have front := length_dropWhile_le isBlank text
  simp only [trim, dropEndWhile, trimStart, List.length_reverse] at *
  omega

/-- A front is found wherever it stands. -/
theorem after?_append (front rest : Text) : after? front (front ++ rest) = some rest := by
  -- Each character of the front meets itself.
  induction front with
  | nil => rfl
  | cons char front ih => simp [after?, ih]

/-- A text from which a front was taken is that front with the rest behind it. -/
theorem eq_append_of_after? {front text rest : Text} (found : after? front text = some rest) :
    text = front ++ rest := by
  -- The front is read off the text one character after the other.
  induction front generalizing text with
  | nil => simpa [after?] using found
  | cons wanted front ih =>
    cases text with
    | nil => simp [after?] at found
    | cons char text =>
      simp only [after?] at found
      split at found
      · next same => simp [same, ih found]
      · simp at found

/-- Taking a front off leaves a rest exactly where the two make up the text. -/
theorem after?_eq_some_iff {front text rest : Text} :
    after? front text = some rest ↔ text = front ++ rest :=
  ⟨eq_append_of_after?, fun same => same ▸ after?_append front rest⟩

/-- A back is found wherever a text ends with it. -/
theorem before?_append (rest back : Text) : before? back (rest ++ back) = some rest := by
  -- The same fact about fronts, read backwards.
  simp [before?, List.reverse_append, after?_append]

/-- A text from which a back was taken is the rest with that back behind it. -/
theorem eq_append_of_before? {back text rest : Text} (found : before? back text = some rest) :
    text = rest ++ back := by
  -- The same fact about fronts, read backwards.
  simp only [before?, Option.map_eq_some_iff] at found
  obtain ⟨reversed, found, rfl⟩ := found
  have split := congrArg List.reverse (eq_append_of_after? found)
  simpa using split

/-- Taking a back off leaves a rest exactly where the two make up the text. -/
theorem before?_eq_some_iff {back text rest : Text} :
    before? back text = some rest ↔ text = rest ++ back :=
  ⟨eq_append_of_before?, fun same => same ▸ before?_append rest back⟩

/-- A run of blanks that was skipped was not empty. -/
theorem length_afterBlanks?_lt {text rest : Text} (found : afterBlanks? text = some rest) :
    rest.length < text.length := by
  cases text with
  | nil => simp [afterBlanks?] at found
  | cons char text =>
    simp only [afterBlanks?] at found
    split at found
    · -- The first blank is gone, and dropping more only shortens the rest.
      simp only [Option.some.injEq] at found
      subst found
      have shorter := length_dropWhile_le isBlank text
      simp only [trimStart, List.length_cons]
      omega
    · simp at found

end Text

end EntityDto
