import EntityDto.Text.Lower

/-! Attributes of column decorators, recognised in raw text where they start. -/

namespace EntityDto

open Text

/-- What follows a colon and the blanks around it. -/
def afterColon? (text : Text) : Option Text :=
  (after? [':'] (trimStart text)).map trimStart

/-- What follows a single or double quote. -/
def afterQuote? : Text → Option Text
  | [] => none
  | char :: rest => if char = '\'' || char = '"' then some rest else none

/-- Whether a character is some form of a small letter; an i may have its dot or lack it. -/
def isFormOf (small char : Char) : Bool :=
  lowerChar char = small || (small = 'i' && (char = '\u0130' || char = '\u0131'))

/-- What follows `front`, given in small letters, for a text that starts with any form of it. -/
def afterAnyCase? : (front text : Text) → Option Text
  | [], text => some text
  | _ :: _, [] => none
  | small :: front, char :: text => if isFormOf small char then afterAnyCase? front text else none

namespace Attribute

/-- Whether `nullable: true` starts here. -/
def nullableHere (text : Text) : Bool :=
  match (after? "nullable".toList text).bind afterColon? with
  | some value => value.startsWith "true".toList
  | none => false

/-- Whether `type: 'tinyint'` starts here, in letters of any case. -/
def tinyintHere (text : Text) : Bool :=
  match ((afterAnyCase? "type".toList text).bind afterColon?).bind afterQuote? with
  | some value => ((afterAnyCase? "tinyint".toList value).bind afterQuote?).isSome
  | none => false

/-- Whether `width: 1` starts here, with no further digit or letter behind the one. -/
def widthOneHere (text : Text) : Bool :=
  match (after? "width".toList text).bind afterColon? with
  | some value => value.startsWithWordEnd ['1']
  | none => false

/-- Whether a type attribute starts here whose value begins with `date`. -/
def dateHere (text : Text) : Bool :=
  match ((after? "type".toList text).bind afterColon?).bind afterQuote? with
  | some value => value.startsWith "date".toList
  | none => false

end Attribute

end EntityDto
