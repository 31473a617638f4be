import EntityDto.Text.Printable

/-! Names in quotes, as messages show them. -/

namespace EntityDto.Text

/-- The lowest hexadecimal digits of a number, the given count of them. -/
def hexDigits (count number : Nat) : Text :=
  match count with
  | 0 => []
  | count + 1 => hexDigits count (number / 16) ++ [Nat.digitChar (number % 16)]

/-- A character by its code, in the shortest of the three escape forms that holds it. -/
def codeEscape (char : Char) : Text :=
  if char.toNat < 0x100 then ['\\', 'x'] ++ hexDigits 2 char.toNat
  else if char.toNat < 0x10000 then ['\\', 'u'] ++ hexDigits 4 char.toNat
  else ['\\', 'U'] ++ hexDigits 8 char.toNat

/-- One character between quotes. -/
def quotedChar (quote char : Char) : Text :=
  if char = quote || char = '\\' then ['\\', char]
  else if char = '\n' then ['\\', 'n']
  else if char = '\r' then ['\\', 'r']
  else if char = '\t' then ['\\', 't']
  else if isPrintable char then [char]
  else codeEscape char

/-- The quote around a text: double only where the text holds single quotes and no double ones. -/
def quoteFor (text : Text) : Char :=
  if text.elem '\'' && !text.elem '"' then '"' else '\''

/-- A text in quotes. -/
def inQuotes (text : Text) : Text :=
  let quote := quoteFor text
  quote :: text.flatMap (quotedChar quote) ++ [quote]

end EntityDto.Text
