import ClassLint.Text.Utf8

/-!
# Decoding undoes encoding

Bytes decode to a text exactly if they are the encodings of its characters, one after the other.
So bytes that encode no text are refused, and so are the overlong sequences, the surrogates and the
code points above the last one: no character is encoded by them.
-/

namespace ClassLint.Utf8

/-- The bytes that encode a text. -/
def encode (text : Text) : List UInt8 := text.flatMap String.utf8EncodeChar

variable {position : Nat} {pending : Pending} {byte : UInt8} {bytes : List UInt8} {text : Text}

/-! ## First bytes -/

namespace Pending

/-- The sequence that a first byte of two starts. -/
theorem ofFirst?_two (hlow : 0xC2 ≤ byte.toNat) (hhigh : byte.toNat < 0xE0) :
    ofFirst? byte = some ⟨byte, 1, 1, 0x80, 0xBF, byte.toNat - 0xC0⟩ := by
  rw [ofFirst?, if_neg (by omega), if_pos hhigh]

/-- The sequence that a first byte of three starts. The next byte is bounded so that no shorter
sequence and no surrogate is written. -/
theorem ofFirst?_three (hlow : 0xE0 ≤ byte.toNat) (hhigh : byte.toNat < 0xF0) :
    ofFirst? byte = some ⟨byte, 1, 2, if byte.toNat = 0xE0 then 0xA0 else 0x80,
      if byte.toNat = 0xED then 0x9F else 0xBF, byte.toNat - 0xE0⟩ := by
  rw [ofFirst?, if_neg (by omega), if_neg (by omega)]
  split
  · simp [*]
  · split <;> simp [*]

/-- The sequence that a first byte of four starts. The next byte is bounded so that no shorter
sequence and no code point above the last one is written. -/
theorem ofFirst?_four (hlow : 0xF0 ≤ byte.toNat) (hhigh : byte.toNat < 0xF5) :
    ofFirst? byte = some ⟨byte, 1, 3, if byte.toNat = 0xF0 then 0x90 else 0x80,
      if byte.toNat = 0xF4 then 0x8F else 0xBF, byte.toNat - 0xF0⟩ := by
  rw [ofFirst?, if_neg (by omega), if_neg (by omega), if_neg (by omega), if_neg (by omega),
    if_neg (by omega)]
  split
  · simp [*]
  · have hsplit : byte.toNat < 0xF4 ∨ byte.toNat = 0xF4 := by omega
    obtain hless | hlast := hsplit
    · simp [*, Nat.ne_of_lt hless]
    · simp [hlast]

/-- All other bytes from 80 on start no sequence. -/
theorem ofFirst?_eq_none (h : byte.toNat < 0xC2 ∨ 0xF5 ≤ byte.toNat) : ofFirst? byte = none := by
  obtain hlow | hhigh := h
  · rw [ofFirst?, if_pos hlow]
  · rw [ofFirst?, if_neg (by omega), if_neg (by omega), if_neg (by omega), if_neg (by omega),
      if_neg (by omega), if_neg (by omega), if_neg (by omega), if_neg (by omega)]

/-- The code point of a sequence with one more byte. -/
def codeWith (pending : Pending) (byte : UInt8) : Nat := 64 * pending.code + (byte.toNat - 0x80)

/-- A sequence with one more byte, to be followed by others. -/
def next (pending : Pending) (byte : UInt8) : Pending :=
  ⟨pending.first, pending.taken + 1, pending.missing - 1, 0x80, 0xBF, pending.codeWith byte⟩

end Pending

/-! ## One byte of a sequence -/

/-- A byte within the bounds, when others are to come. -/
theorem decodeFrom_next (hlow : pending.low ≤ byte.toNat) (hhigh : byte.toNat ≤ pending.high)
    (hmissing : pending.missing ≠ 1) :
    decodeFrom position (some pending) (byte :: bytes) =
      decodeFrom (position + 1) (some (pending.next byte)) bytes := by
  rw [decodeFrom, if_neg (by simp; omega), if_neg hmissing]
  rfl

/-- A byte within the bounds, when it is the last. -/
theorem decodeFrom_last (hlow : pending.low ≤ byte.toNat) (hhigh : byte.toNat ≤ pending.high)
    (hmissing : pending.missing = 1) :
    decodeFrom position (some pending) (byte :: bytes) =
      (decodeFrom (position + 1) none bytes).map (Char.ofNat (pending.codeWith byte) :: ·) := by
  rw [decodeFrom, if_neg (by simp; omega), if_pos hmissing]
  rfl

/-- A sequence that is decoded goes on with a byte within the bounds. -/
theorem exists_byte_of_decodeFrom (h : decodeFrom position (some pending) bytes = .ok text) :
    ∃ byte rest, bytes = byte :: rest ∧ pending.low ≤ byte.toNat ∧ byte.toNat ≤ pending.high := by
  cases bytes with
  | nil => simp [decodeFrom] at h
  | cons byte rest =>
    by_cases hout : byte.toNat < pending.low ∨ pending.high < byte.toNat
    · rw [decodeFrom, if_pos (by simpa using hout)] at h
      cases h
    · exact ⟨byte, rest, rfl, by omega, by omega⟩

/-! ## The bytes of one character -/

/-- A code point and the bytes that write it: one below 80, or a first byte that tells how many
follow, with the bounds of the second one. -/
inductive Sequence (code : Nat) : List UInt8 → Prop
  | one {first : UInt8} (hfirst : first.toNat < 0x80) (hcode : code = first.toNat) :
      Sequence code [first]
  | two {first second : UInt8} (hfirst : 0xC2 ≤ first.toNat ∧ first.toNat < 0xE0)
      (hsecond : 0x80 ≤ second.toNat ∧ second.toNat ≤ 0xBF)
      (hcode : code = 64 * (first.toNat - 0xC0) + (second.toNat - 0x80)) :
      Sequence code [first, second]
  | three {first second third : UInt8} (hfirst : 0xE0 ≤ first.toNat ∧ first.toNat < 0xF0)
      (hsecond : (if first.toNat = 0xE0 then 0xA0 else 0x80) ≤ second.toNat ∧
        second.toNat ≤ if first.toNat = 0xED then 0x9F else 0xBF)
      (hthird : 0x80 ≤ third.toNat ∧ third.toNat ≤ 0xBF)
      (hcode : code =
        64 * (64 * (first.toNat - 0xE0) + (second.toNat - 0x80)) + (third.toNat - 0x80)) :
      Sequence code [first, second, third]
  | four {first second third fourth : UInt8} (hfirst : 0xF0 ≤ first.toNat ∧ first.toNat < 0xF5)
      (hsecond : (if first.toNat = 0xF0 then 0x90 else 0x80) ≤ second.toNat ∧
        second.toNat ≤ if first.toNat = 0xF4 then 0x8F else 0xBF)
      (hthird : 0x80 ≤ third.toNat ∧ third.toNat ≤ 0xBF)
      (hfourth : 0x80 ≤ fourth.toNat ∧ fourth.toNat ≤ 0xBF)
      (hcode : code =
        64 * (64 * (64 * (first.toNat - 0xF0) + (second.toNat - 0x80)) + (third.toNat - 0x80)) +
          (fourth.toNat - 0x80)) :
      Sequence code [first, second, third, fourth]

/-- A byte from 80 on starts a sequence. -/
theorem decodeFrom_first (h : 0x80 ≤ byte.toNat) (hpending : Pending.ofFirst? byte = some pending) :
    decodeFrom position none (byte :: bytes) = decodeFrom (position + 1) (some pending) bytes := by
  rw [decodeFrom, if_neg (by omega), hpending]

/-- The bytes of a code point are decoded to its character. -/
theorem Sequence.decodeFrom {code : Nat} {sequence : List UInt8} (h : Sequence code sequence) :
    decodeFrom position none (sequence ++ bytes) =
      (decodeFrom (position + sequence.length) none bytes).map (Char.ofNat code :: ·) := by
  cases h with
  | one hfirst hcode =>
    rw [hcode, List.singleton_append, Utf8.decodeFrom, if_pos hfirst]
    rfl
  | two hfirst hsecond hcode =>
    rw [hcode, List.cons_append, List.singleton_append,
      decodeFrom_first (by omega) (Pending.ofFirst?_two hfirst.1 hfirst.2),
      decodeFrom_last hsecond.1 hsecond.2 rfl]
    rfl
  | three hfirst hsecond hthird hcode =>
    rw [hcode, List.cons_append, List.cons_append, List.singleton_append,
      decodeFrom_first (by omega) (Pending.ofFirst?_three hfirst.1 hfirst.2),
      decodeFrom_next hsecond.1 hsecond.2 (by simp), decodeFrom_last hthird.1 hthird.2 rfl]
    rfl
  | four hfirst hsecond hthird hfourth hcode =>
    rw [hcode, List.cons_append, List.cons_append, List.cons_append, List.singleton_append,
      decodeFrom_first (by omega) (Pending.ofFirst?_four hfirst.1 hfirst.2),
      decodeFrom_next hsecond.1 hsecond.2 (by simp),
      decodeFrom_next hthird.1 hthird.2 (by simp [Pending.next]),
      decodeFrom_last hfourth.1 hfourth.2 rfl]
    rfl

/-- What is decoded starts with the bytes of a code point. -/
theorem exists_sequence_of_decodeFrom (h : decodeFrom position none (byte :: bytes) = .ok text) :
    ∃ code sequence rest, Sequence code sequence ∧ byte :: bytes = sequence ++ rest := by
  by_cases hone : byte.toNat < 0x80
  · exact ⟨_, [byte], bytes, .one hone rfl, rfl⟩
  by_cases htwo : 0xC2 ≤ byte.toNat ∧ byte.toNat < 0xE0
  · rw [decodeFrom_first (by omega) (Pending.ofFirst?_two htwo.1 htwo.2)] at h
    obtain ⟨second, rest, rfl, hsecond⟩ := exists_byte_of_decodeFrom h
    exact ⟨_, _, rest, .two htwo hsecond rfl, rfl⟩
  by_cases hthree : 0xE0 ≤ byte.toNat ∧ byte.toNat < 0xF0
  · rw [decodeFrom_first (by omega) (Pending.ofFirst?_three hthree.1 hthree.2)] at h
    obtain ⟨second, rest, rfl, hsecond⟩ := exists_byte_of_decodeFrom h
    rw [decodeFrom_next hsecond.1 hsecond.2 (by simp)] at h
    obtain ⟨third, rest, rfl, hthird⟩ := exists_byte_of_decodeFrom h
    exact ⟨_, _, rest, .three hthree hsecond hthird rfl, rfl⟩
  by_cases hfour : 0xF0 ≤ byte.toNat ∧ byte.toNat < 0xF5
  · rw [decodeFrom_first (by omega) (Pending.ofFirst?_four hfour.1 hfour.2)] at h
    obtain ⟨second, rest, rfl, hsecond⟩ := exists_byte_of_decodeFrom h
    rw [decodeFrom_next hsecond.1 hsecond.2 (by simp)] at h
    obtain ⟨third, rest, rfl, hthird⟩ := exists_byte_of_decodeFrom h
    rw [decodeFrom_next hthird.1 hthird.2 (by simp [Pending.next])] at h
    obtain ⟨fourth, rest, rfl, hfourth⟩ := exists_byte_of_decodeFrom h
    exact ⟨_, _, rest, .four hfour hsecond hthird hfourth rfl, rfl⟩
  · rw [decodeFrom, if_neg hone, Pending.ofFirst?_eq_none (by omega)] at h
    cases h

/-- A small number is the value of its byte. -/
theorem toNat_ofNat_of_lt {n : Nat} (h : n < 256) : (UInt8.ofNat n).toNat = n := by
  rw [UInt8.toNat_ofNat']
  exact Nat.mod_eq_of_lt h

/-- The encoding of a character is a sequence for its code point. -/
theorem sequence_utf8EncodeChar (c : Char) : Sequence c.toNat (String.utf8EncodeChar c) := by
  have hvalid : c.toNat < 0xD800 ∨ 0xDFFF < c.toNat ∧ c.toNat < 0x110000 := c.valid
  rw [String.utf8EncodeChar, Char.toNat_val]
  generalize c.toNat = code at hvalid
  split
  · have hfirst := toNat_ofNat_of_lt (show code < 256 by omega)
    exact .one (by omega) (by omega)
  split
  · have hfirst := toNat_ofNat_of_lt (show code / 64 % 32 + 192 < 256 by omega)
    have hsecond := toNat_ofNat_of_lt (show code % 64 + 128 < 256 by omega)
    exact .two (by omega) (by omega) (by omega)
  split
  · have hfirst := toNat_ofNat_of_lt (show code / 4096 % 16 + 224 < 256 by omega)
    have hsecond := toNat_ofNat_of_lt (show code / 64 % 64 + 128 < 256 by omega)
    have hthird := toNat_ofNat_of_lt (show code % 64 + 128 < 256 by omega)
    exact .three (by omega) ⟨by split <;> omega, by split <;> omega⟩ (by omega) (by omega)
  · have hfirst := toNat_ofNat_of_lt (show code / 262144 % 8 + 240 < 256 by omega)
    have hsecond := toNat_ofNat_of_lt (show code / 4096 % 64 + 128 < 256 by omega)
    have hthird := toNat_ofNat_of_lt (show code / 64 % 64 + 128 < 256 by omega)
    have hfourth := toNat_ofNat_of_lt (show code % 64 + 128 < 256 by omega)
    exact .four (by omega) ⟨by split <;> omega, by split <;> omega⟩ (by omega) (by omega)
      (by omega)

/-- The code point of a sequence is that of a character. -/
theorem Sequence.isValidChar {code : Nat} {sequence : List UInt8} (h : Sequence code sequence) :
    code.isValidChar := by
  rw [Nat.isValidChar]
  cases h with
  | one hfirst hcode => omega
  | two hfirst hsecond hcode => omega
  | three hfirst hsecond hthird hcode => split at hsecond <;> split at hsecond <;> omega
  | four hfirst hsecond hthird hfourth hcode => split at hsecond <;> split at hsecond <;> omega

/-- A sequence is the encoding of the character of its code point. -/
theorem Sequence.utf8EncodeChar {code : Nat} {sequence : List UInt8} (h : Sequence code sequence) :
    String.utf8EncodeChar (Char.ofNat code) = sequence := by
  have hval : (Char.ofNat code).val.toNat = code := by
    rw [Char.ofNat, dif_pos h.isValidChar]
    rfl
  have hbyte {byte : UInt8} {n : Nat} (hn : n = byte.toNat) : UInt8.ofNat n = byte := by
    rw [hn, UInt8.ofNat_toNat]
  rw [String.utf8EncodeChar, hval]
  cases h with
  | one hfirst hcode =>
    rw [if_pos (by omega), hbyte hcode]
  | two hfirst hsecond hcode =>
    rw [if_neg (by omega), if_pos (by omega)]
    simp only [List.cons.injEq, and_true]
    exact ⟨hbyte (by omega), hbyte (by omega)⟩
  | @three first second third hfirst hsecond hthird hcode =>
    have hlow : 0x80 ≤ second.toNat ∧ (first.toNat = 0xE0 → 0xA0 ≤ second.toNat) := by
      split at hsecond <;> omega
    have hhigh : second.toNat ≤ 0xBF := by split at hsecond <;> split at hsecond <;> omega
    rw [if_neg (by omega), if_neg (by omega), if_pos (by omega)]
    simp only [List.cons.injEq, and_true]
    exact ⟨hbyte (by omega), hbyte (by omega), hbyte (by omega)⟩
  | @four first second third fourth hfirst hsecond hthird hfourth hcode =>
    have hlow : 0x80 ≤ second.toNat ∧ (first.toNat = 0xF0 → 0x90 ≤ second.toNat) := by
      split at hsecond <;> omega
    have hhigh : second.toNat ≤ 0xBF := by split at hsecond <;> split at hsecond <;> omega
    rw [if_neg (by omega), if_neg (by omega), if_neg (by omega)]
    simp only [List.cons.injEq, and_true]
    exact ⟨hbyte (by omega), hbyte (by omega), hbyte (by omega), hbyte (by omega)⟩

/-! ## Whole texts -/

/-- The encoding of a text is decoded to the text. -/
theorem decodeFrom_encode (position : Nat) (text : Text) :
    decodeFrom position none (encode text) = .ok text := by
  induction text generalizing position with
  | nil => rfl
  | cons c text ih =>
    have hsequence := sequence_utf8EncodeChar c
    change decodeFrom position none (String.utf8EncodeChar c ++ encode text) = _
    rw [hsequence.decodeFrom, ih, Char.ofNat_toNat]
    rfl

/-- What is decoded to a text is its encoding. -/
theorem eq_encode_of_decodeFrom (h : decodeFrom position none bytes = .ok text) :
    bytes = encode text := by
  -- Every sequence takes a byte at least, so the induction is on the number of bytes.
  induction hlength : bytes.length using Nat.strongRecOn generalizing position bytes text with
  | ind length ih =>
    cases bytes with
    | nil =>
      cases h
      rfl
    | cons byte bytes =>
      obtain ⟨code, sequence, rest, hsequence, hbytes⟩ := exists_sequence_of_decodeFrom h
      have hshorter : rest.length < length := by
        rw [← hlength, hbytes, List.length_append]
        cases hsequence <;> simp
      rw [hbytes, hsequence.decodeFrom] at h
      cases hrest : decodeFrom (position + sequence.length) none rest with
      | error fault =>
        rw [hrest] at h
        cases h
      | ok chars =>
        rw [hrest] at h
        cases h
        rw [hbytes, ih _ hshorter hrest rfl]
        exact congrArg (· ++ encode chars) hsequence.utf8EncodeChar.symm

/-- Bytes are decoded to a text exactly if they encode it. -/
theorem decode_eq_ok_iff : decode bytes = .ok text ↔ bytes = encode text := by
  constructor
  · exact eq_encode_of_decodeFrom
  · rintro rfl
    exact decodeFrom_encode 0 text

/-- Overlong, surrogate and too great sequences, and the last character. -/
example : (decode [0xC0, 0x80]).isOk = false ∧ (decode [0xED, 0xA0, 0x80]).isOk = false ∧
    (decode [0xF4, 0x90, 0x80, 0x80]).isOk = false ∧
    (decode [0xF4, 0x8F, 0xBF, 0xBF]).toOption = some [Char.ofNat 0x10FFFF] := by
  decide

end ClassLint.Utf8
