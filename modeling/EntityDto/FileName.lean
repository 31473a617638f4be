import EntityDto.Text.Lower

/-! File names made from the words of a class name. -/

namespace EntityDto

open Text

/--
Puts a hyphen before each capital that starts a capitalised word, unless nothing stands before it.

Scanning goes on behind the word, so the character before the next word is never one of its letters.
-/
def hyphenateWords : Text → Text
  | [] => []
  | [last] => [last]
  | char :: capital :: rest =>
    if char ≠ '\n' && isCapital capital && !(rest.takeWhile isSmall).isEmpty then
      -- The whole word is consumed, its small letters included.
      char :: '-' :: capital :: rest.takeWhile isSmall ++ hyphenateWords (rest.dropWhile isSmall)
    else char :: hyphenateWords (capital :: rest)
  termination_by text => text.length
  decreasing_by
    · have shorter := length_dropWhile_le isSmall rest
      simp only [List.length_cons]
      omega
    · simp only [List.length_cons]
      omega

/-- Puts a hyphen between a small letter or digit and a capital behind it. -/
def hyphenateCapitals : Text → Text
  | [] => []
  | [last] => [last]
  | char :: next :: rest =>
    if (isSmall char || isDigit char) && isCapital next then
      char :: '-' :: hyphenateCapitals (next :: rest)
    else char :: hyphenateCapitals (next :: rest)

/-- The words of a name in small letters with hyphens between them. -/
def kebabCase (name : Text) : Text :=
  (hyphenateCapitals (hyphenateWords name)).lower

/-- The name of the file that holds the request class. -/
def requestFileName (baseName : Text) : Text :=
  kebabCase baseName ++ ".dto.ts".toList

/-- The name of the file that holds the response class. -/
def responseFileName (baseName : Text) : Text :=
  kebabCase baseName ++ ".res.dto.ts".toList

end EntityDto
