import EntityDto.Text.Quoted

/-! Text in bytes: the encoding of characters in one to four bytes, and the faults of bad bytes. -/

namespace EntityDto

/-- Bytes are a list, so that every reading is an ordinary list recursion. -/
abbrev Bytes := List UInt8

namespace Utf8

/-- Why bytes are no text. -/
inductive Reason where
  | invalidStart
  | invalidContinuation
  | unexpectedEnd
  deriving DecidableEq

/-- The wording of a reason. -/
def Reason.message : Reason → Text
  | .invalidStart => "invalid start byte".toList
  | .invalidContinuation => "invalid continuation byte".toList
  | .unexpectedEnd => "unexpected end of data".toList

/-- Bytes that are no text: where they start, the first of them, and how many they are. -/
structure BadBytes where
  position : Nat
  first : UInt8
  count : Nat
  reason : Reason
  deriving DecidableEq

/-- The fault as a message. -/
def BadBytes.message (bad : BadBytes) : Text :=
  "'utf-8' codec can't decode ".toList
    ++ (if bad.count = 1 then
        "byte 0x".toList ++ Text.hexDigits 2 bad.first.toNat ++ " in position ".toList
          ++ Text.ofNat bad.position
      else
        "bytes in position ".toList ++ Text.ofNat bad.position ++ ['-']
          ++ Text.ofNat (bad.position + bad.count - 1))
    ++ ": ".toList ++ bad.reason.message

/-- The bytes of a character. -/
def encodeChar (char : Char) : Bytes :=
  let code := char.toNat
  if code < 0x80 then [code.toUInt8]
  else if code < 0x800 then [(0xC0 + code / 0x40).toUInt8, (0x80 + code % 0x40).toUInt8]
  else if code < 0x10000 then
    [(0xE0 + code / 0x1000).toUInt8, (0x80 + code / 0x40 % 0x40).toUInt8,
      (0x80 + code % 0x40).toUInt8]
  else
    [(0xF0 + code / 0x40000).toUInt8, (0x80 + code / 0x1000 % 0x40).toUInt8,
      (0x80 + code / 0x40 % 0x40).toUInt8, (0x80 + code % 0x40).toUInt8]

/-- The bytes of a text. -/
def encode (text : Text) : Bytes :=
  text.flatMap encodeChar

/-- How many bytes continue a character, and the part of its code that the first byte holds. -/
def lead? (byte : Nat) : Option (Nat × Nat) :=
  if byte < 0x80 then some (0, byte)
  else if byte < 0xC2 then none
  else if byte < 0xE0 then some (1, byte - 0xC0)
  else if byte < 0xF0 then some (2, byte - 0xE0)
  else if byte < 0xF5 then some (3, byte - 0xF0)
  else none

/--
Whether a byte can continue a character that starts with `lead`, `taken` bytes being read.

The first continuation is bounded more tightly where a code would be overlong, a surrogate or too
high.
-/
def continues (lead taken byte : Nat) : Bool :=
  -- Overlong codes start too low, surrogates and codes past the last one too high.
  let low := if taken ≠ 1 then 0x80 else if lead = 0xE0 then 0xA0 else if lead = 0xF0 then 0x90
    else 0x80
  let high := if taken ≠ 1 then 0xBF else if lead = 0xED then 0x9F else if lead = 0xF4 then 0x8F
    else 0xBF
  low ≤ byte && byte ≤ high

/-- Reads the remaining bytes of a character; a fault tells how many bytes were read before it. -/
def readTail (lead code taken : Nat) :
    (count : Nat) → Bytes → Except (Nat × Reason) (Nat × Bytes)
  | 0, rest => .ok (code, rest)
  | _ + 1, [] => .error (taken, .unexpectedEnd)
  | count + 1, byte :: rest =>
    if continues lead taken byte.toNat then
      readTail lead (code * 0x40 + byte.toNat % 0x40) (taken + 1) count rest
    else .error (taken, .invalidContinuation)

/-- What is left after a character is no longer than what stood behind its first byte. -/
theorem length_readTail_le {lead code taken count : Nat} {bytes rest : Bytes} {final : Nat}
    (found : readTail lead code taken count bytes = .ok (final, rest)) :
    rest.length ≤ bytes.length := by
  -- Each byte that is read leaves fewer, and a code ends after a given number of them.
  induction count generalizing code taken bytes with
  | zero => simp_all [readTail]
  | succ count ih =>
    cases bytes with
    | nil => simp [readTail] at found
    | cons byte bytes =>
      simp only [readTail] at found
      split at found
      · exact Nat.le_succ_of_le (ih found)
      · simp at found

/-- Decodes bytes, the first of which stands at `position`. -/
def decodeFrom (position : Nat) : Bytes → Except BadBytes Text
  | [] => .ok []
  | byte :: rest =>
    match lead? byte.toNat with
    | none => .error ⟨position, byte, 1, .invalidStart⟩
    | some (count, code) =>
      match _found : readTail byte.toNat code 1 count rest with
      | .error (taken, reason) => .error ⟨position, byte, taken, reason⟩
      | .ok (code, behind) => (decodeFrom (position + 1 + count) behind).map (Char.ofNat code :: ·)
  termination_by bytes => bytes.length
  decreasing_by exact Nat.lt_succ_of_le (length_readTail_le _found)

/-- Decodes bytes to the text they encode, or tells the first fault. -/
def decode (bytes : Bytes) : Except BadBytes Text :=
  decodeFrom 0 bytes

end Utf8

end EntityDto
