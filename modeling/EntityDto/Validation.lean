import EntityDto.Json
import EntityDto.Text.Integer

/-! Faults found in values that come from outside, and the readings of texts as values. -/

namespace EntityDto

open Text

/-- What is wrong with a value. -/
inductive Fault where
  | missing
  | notText
  | notObject
  | unreadableInteger
  /-- A text with more digits than are read. -/
  | oversizedInteger
  /-- A text or small integer that stands for no truth value. -/
  | unreadableBoolean
  /-- A value of a kind that cannot stand for a truth value. -/
  | notBoolean
  deriving DecidableEq

namespace Fault

/-- The fault's short name. -/
def code : Fault → Text
  | .missing => "missing".toList
  | .notText => "string_type".toList
  | .notObject => "model_attributes_type".toList
  | .unreadableInteger => "int_parsing".toList
  | .oversizedInteger => "int_parsing_size".toList
  | .unreadableBoolean => "bool_parsing".toList
  | .notBoolean => "bool_type".toList

/-- The fault's wording. -/
def message : Fault → Text
  | .missing => "Field required".toList
  | .notText => "Input should be a valid string".toList
  | .notObject => "Input should be a valid dictionary or object to extract fields from".toList
  | .unreadableInteger =>
    "Input should be a valid integer, unable to parse string as an integer".toList
  | .oversizedInteger =>
    "Unable to parse input string as an integer, exceeded maximum size".toList
  | .unreadableBoolean => "Input should be a valid boolean, unable to interpret input".toList
  | .notBoolean => "Input should be a valid boolean".toList

end Fault

/-- A fault with the place where it was found. -/
structure Problem where
  fault : Fault
  /-- The names that lead to the value. -/
  location : List Text
  /-- The value at fault. -/
  input : Json

/-- The problem of a value that could not be read. -/
def Problem.of? : Except Problem α → Option Problem
  | .ok _ => none
  | .error problem => some problem

/-- Words that stand for true, in small letters. -/
def trueWords : List Text :=
  ["1".toList, "true".toList, "t".toList, "yes".toList, "y".toList, "on".toList]

/-- Words that stand for false, in small letters. -/
def falseWords : List Text :=
  ["0".toList, "false".toList, "f".toList, "no".toList, "n".toList, "off".toList]

/-- The truth value of a word in ASCII letters of any case, blanks not allowed. -/
def readBoolean (text : Text) : Except Fault Bool :=
  let word := text.map lowerAscii
  if word ∈ trueWords then .ok true
  else if word ∈ falseWords then .ok false
  else .error .unreadableBoolean

/-- What is wrong with a text that is no integer. -/
def Fault.ofInteger : IntegerFault → Fault
  | .unreadable => .unreadableInteger
  | .tooLong => .oversizedInteger

/-- The integer that a text stands for. -/
def readInteger (text : Text) : Except Fault Int :=
  text.toInteger.mapError Fault.ofInteger

end EntityDto
