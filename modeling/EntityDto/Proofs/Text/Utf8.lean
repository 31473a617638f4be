import EntityDto.Text.Utf8
import Mathlib.Tactic.SplitIfs

/-! The bytes of a text are decoded to that text, whichever lengths its characters take. -/

namespace EntityDto.Utf8

/-- A number that fits a byte is kept by it. -/
theorem toNat_toUInt8 {number : Nat} (fits : number < 256) : number.toUInt8.toNat = number :=
  UInt8.toNat_ofNat_of_lt fits

/-- A first byte announces how many bytes follow it, and these are read with their code. -/
theorem decodeFrom_of_lead? {byte : UInt8} {rest behind : Bytes} {count code final : Nat}
    (leads : lead? byte.toNat = some (count, code))
    (tail : readTail byte.toNat code 1 count rest = .ok (final, behind)) (position : Nat) :
    decodeFrom position (byte :: rest)
      = (decodeFrom (position + 1 + count) behind).map (Char.ofNat final :: ·) := by
  rw [decodeFrom]
  simp only [leads]
  -- The reader of the tail has only one outcome, which is the given one.
  split
  · next failed => simp [tail] at failed
  · next found =>
    rw [tail] at found
    cases found
    rfl

/--
A continuation byte adds its six bits to the code.

Right behind the first byte it must also keep clear of the codes that are overlong, surrogates or too
high.
-/
theorem readTail_continuation {lead taken : Nat} (low : Nat) (sixBits : low < 0x40)
    (clear : taken = 1 → (lead = 0xE0 → 0x20 ≤ low) ∧ (lead = 0xF0 → 0x10 ≤ low)
      ∧ (lead = 0xED → low < 0x20) ∧ (lead = 0xF4 → low < 0x10))
    (code count : Nat) (rest : Bytes) :
    readTail lead code taken (count + 1) ((0x80 + low).toUInt8 :: rest)
      = readTail lead (code * 0x40 + low) (taken + 1) count rest := by
  have byte : ((0x80 + low).toUInt8).toNat = 0x80 + low := toNat_toUInt8 (by omega)
  have continued : continues lead taken (0x80 + low) = true := by
    simp only [continues, Bool.and_eq_true, decide_eq_true_eq]
    by_cases second : taken = 1
    · -- The four special first bytes are the only ones with tighter bounds.
      obtain ⟨overlong, overlongToo, surrogate, high⟩ := clear second
      split_ifs <;> omega
    · simp only [if_pos second]
      omega
  have bits : (0x80 + low) % 0x40 = low := by omega
  rw [readTail, byte, if_pos continued, bits]

/-- A character is decoded from its bytes, and the bytes behind them are left. -/
theorem decodeFrom_encodeChar (position : Nat) (char : Char) (rest : Bytes) :
    ∃ next, decodeFrom position (encodeChar char ++ rest)
      = (decodeFrom next rest).map (char :: ·) := by
  have valid : char.toNat < 0xD800 ∨ 0xDFFF < char.toNat ∧ char.toNat < 0x110000 := char.valid
  simp only [encodeChar]
  -- There is one case for each number of bytes.
  split_ifs with one two three
  · refine ⟨position + 1 + 0, ?_⟩
    have first : (char.toNat.toUInt8).toNat = char.toNat := toNat_toUInt8 (by omega)
    have leads : lead? (char.toNat.toUInt8).toNat = some (0, char.toNat) := by
      rw [first, lead?, if_pos one]
    rw [List.singleton_append, decodeFrom_of_lead? leads rfl, Char.ofNat_toNat]
  · refine ⟨position + 1 + 1, ?_⟩
    have first : ((0xC0 + char.toNat / 0x40).toUInt8).toNat = 0xC0 + char.toNat / 0x40 :=
      toNat_toUInt8 (by omega)
    have leads : lead? ((0xC0 + char.toNat / 0x40).toUInt8).toNat
        = some (1, char.toNat / 0x40) := by
      rw [first, lead?, if_neg (by omega), if_neg (by omega), if_pos (by omega),
        Nat.add_sub_cancel_left]
    rw [List.cons_append, decodeFrom_of_lead? leads ?_, Char.ofNat_toNat]
    rw [first, List.singleton_append, readTail_continuation _ (by omega) (by omega), readTail]
    congr 2
    omega
  · refine ⟨position + 1 + 2, ?_⟩
    have first : ((0xE0 + char.toNat / 0x1000).toUInt8).toNat = 0xE0 + char.toNat / 0x1000 :=
      toNat_toUInt8 (by omega)
    have leads : lead? ((0xE0 + char.toNat / 0x1000).toUInt8).toNat
        = some (2, char.toNat / 0x1000) := by
      rw [first, lead?, if_neg (by omega), if_neg (by omega), if_neg (by omega),
        if_pos (by omega), Nat.add_sub_cancel_left]
    rw [List.cons_append, decodeFrom_of_lead? leads ?_, Char.ofNat_toNat]
    -- No code of two bytes and no surrogate is among these, so the second byte is clear of both.
    rw [first, List.cons_append, readTail_continuation _ (by omega) (by omega),
      List.singleton_append, readTail_continuation _ (by omega) (by omega), readTail]
    congr 2
    omega
  · refine ⟨position + 1 + 3, ?_⟩
    have first : ((0xF0 + char.toNat / 0x40000).toUInt8).toNat = 0xF0 + char.toNat / 0x40000 :=
      toNat_toUInt8 (by omega)
    have leads : lead? ((0xF0 + char.toNat / 0x40000).toUInt8).toNat
        = some (3, char.toNat / 0x40000) := by
      rw [first, lead?, if_neg (by omega), if_neg (by omega), if_neg (by omega),
        if_neg (by omega), if_pos (by omega), Nat.add_sub_cancel_left]
    rw [List.cons_append, decodeFrom_of_lead? leads ?_, Char.ofNat_toNat]
    -- No code of three bytes is among these, and none lies past the last one.
    rw [first, List.cons_append, readTail_continuation _ (by omega) (by omega),
      List.cons_append, readTail_continuation _ (by omega) (by omega),
      List.singleton_append, readTail_continuation _ (by omega) (by omega), readTail]
    congr 2
    omega

/-- The bytes of a text are decoded to the text, wherever they are said to start. -/
theorem decodeFrom_encode (position : Nat) (text : Text) :
    decodeFrom position (encode text) = .ok text := by
  induction text generalizing position with
  | nil => simp [encode, decodeFrom]
  | cons char text ih =>
    -- The first character is decoded, and the others from the bytes behind it.
    obtain ⟨next, decoded⟩ := decodeFrom_encodeChar position char (encode text)
    rw [encode, List.flatMap_cons]
    rw [encode] at decoded ih
    rw [decoded, ih]
    rfl

/-- Decoding undoes encoding. -/
theorem decode_encode (text : Text) : decode (encode text) = .ok text :=
  decodeFrom_encode 0 text

end EntityDto.Utf8
