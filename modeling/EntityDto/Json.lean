import EntityDto.Text.Basic

/-! Structured values as they travel in request and response bodies. -/

namespace EntityDto

/-- A structured value. -/
inductive Json where
  | null
  | bool (value : Bool)
  | integer (value : Int)
  /-- A number written with a fraction: `digits` divided by ten to the power `places`. -/
  | decimal (digits : Int) (places : Nat)
  | text (value : Text)
  | list (items : List Json)
  | object (members : List (Text × Json))
  deriving Inhabited

namespace Json

/-- The member of an object with a given name. -/
def member? (name : Text) : Json → Option Json
  | .object members => (members.find? fun entry => entry.1 = name).map Prod.snd
  | _ => none

/-- Writes a natural number below 65536 with four hexadecimal digits. -/
def hexUnit (code : Nat) : Text :=
  [Nat.digitChar (code / 0x1000 % 16), Nat.digitChar (code / 0x100 % 16),
    Nat.digitChar (code / 0x10 % 16), Nat.digitChar (code % 16)]

/-- One character inside a quoted text. -/
def escapedChar (char : Char) : Text :=
  if char = '"' then ['\\', '"']
  else if char = '\\' then ['\\', '\\']
  else if char = '\n' then ['\\', 'n']
  else if char = '\r' then ['\\', 'r']
  else if char = '\t' then ['\\', 't']
  else if char = '\x08' then ['\\', 'b']
  else if char = '\x0c' then ['\\', 'f']
  else if char.toNat < 0x20 then ['\\', 'u'] ++ hexUnit char.toNat
  else [char]

/-- A text between quotes. -/
def quoted (value : Text) : Text :=
  '"' :: value.flatMap escapedChar ++ ['"']

/-- A decimal number with all its places. -/
def decimalText (digits : Int) (places : Nat) : Text :=
  let magnitude := digits.natAbs
  let fraction := Text.ofNat (magnitude % Nat.pow 10 places)
  (if digits < 0 then ['-'] else []) ++ Text.ofNat (magnitude / Nat.pow 10 places)
    ++ '.' :: List.replicate (places - fraction.length) '0' ++ fraction

mutual

/-- Writes a value without any space. -/
def compact : Json → Text
  | .null => "null".toList
  | .bool value => if value then "true".toList else "false".toList
  | .integer value => Text.ofInt value
  | .decimal digits places => decimalText digits places
  | .text value => quoted value
  | .list items => '[' :: compactItems items ++ [']']
  | .object members => '\x7b' :: compactMembers members ++ ['\x7d']

/-- Writes list items with commas between them. -/
def compactItems : List Json → Text
  | [] => []
  | [last] => compact last
  | first :: second :: rest => compact first ++ ',' :: compactItems (second :: rest)

/-- Writes object members with commas between them. -/
def compactMembers : List (Text × Json) → Text
  | [] => []
  | [(name, value)] => quoted name ++ ':' :: compact value
  | (name, value) :: second :: rest =>
    quoted name ++ ':' :: compact value ++ ',' :: compactMembers (second :: rest)

end

end Json

end EntityDto
