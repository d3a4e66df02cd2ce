import ClassLint.Json.Printer
import ClassLint.Json.Reader
import ClassLint.Proofs.Text.Numerals
import Mathlib.Tactic.SplitIfs

/-!
# Printed strings

The characters of a printed string are read back one by one. Most stand for themselves, some are
escaped by a letter, and the others by their UTF-16 units, of which a character beyond the first
plane has two.
-/

namespace ClassLint.Json

variable {opening rest : Text} {c : Char}

/-! ## Units -/

/-- A unit is read back from its four digits. -/
theorem readUnit?_hex {unit : Nat} (h : unit < 0x10000) (rest : Text) :
    readUnit? (Text.hex 4 unit ++ rest) = some (unit, rest) := by
  have hlast (n : Nat) : Text.hexValue? (n % 16).digitChar = some (n % 16) :=
    Text.hexValue?_digitChar (Nat.mod_lt n (by decide))
  have hfirst : Text.hexValue? (unit / 16 / 16 / 16).digitChar = some (unit / 16 / 16 / 16) :=
    Text.hexValue?_digitChar (by omega)
  rw [Text.hex_four h]
  simp only [List.cons_append, List.nil_append, readUnit?, hfirst, hlast, Option.bind_eq_bind,
    Option.bind_some, Option.some.injEq, Prod.mk.injEq, and_true]
  omega

/-- The escape of a unit, with what follows it. -/
theorem unitEscape_append (unit : Nat) (rest : Text) :
    unitEscape unit ++ rest = '\\' :: 'u' :: (Text.hex 4 unit ++ rest) :=
  rfl

/-- No character is one of a pair of units. -/
theorem surrogate_toNat (c : Char) :
    isHighSurrogate c.toNat = false ∧ isLowSurrogate c.toNat = false := by
  have hvalid : c.toNat < 0xD800 ∨ 0xDFFF < c.toNat ∧ c.toNat < 0x110000 := c.valid
  simp only [isHighSurrogate, isLowSurrogate, Bool.and_eq_false_iff, decide_eq_false_iff_not]
  omega

/-- A character of one unit is read back from it. -/
theorem readUnicodeEscape_unit (h : c.toNat < 0x10000) (hrest : rest ≠ []) :
    readUnicodeEscape (Text.hex 4 c.toNat ++ rest) = .ok (c, rest) := by
  obtain ⟨d, rest, rfl⟩ := List.exists_cons_of_ne_nil hrest
  obtain ⟨hhigh, hlow⟩ := surrogate_toNat c
  rw [readUnicodeEscape, readUnit?_hex h]
  simp only [charOfUnit, hhigh, hlow, Char.ofNat_toNat, Bool.or_false, Bool.false_eq_true,
    if_false]

/-- Two units that are a pair are read as one character. -/
theorem readUnicodeEscape_pair {high low : Nat} (hhigh : isHighSurrogate high = true)
    (hlow : isLowSurrogate low = true) (hrest : rest ≠ []) :
    readUnicodeEscape (Text.hex 4 high ++ (unitEscape low ++ rest)) =
      .ok (charOfPair high low, rest) := by
  have hbounds : high < 0x10000 ∧ low < 0x10000 := by
    simp only [isHighSurrogate, isLowSurrogate, Bool.and_eq_true, decide_eq_true_eq] at hhigh hlow
    omega
  have hmore : ¬(Text.hex 4 low ++ rest).length < 5 := by
    have hpositive := List.length_pos_iff.2 hrest
    rw [Text.hex_four hbounds.2]
    simp only [List.length_append, List.length_cons, List.length_nil]
    omega
  rw [readUnicodeEscape, readUnit?_hex hbounds.1, unitEscape_append]
  simp only [hhigh]
  rw [if_neg hmore, readUnit?_hex hbounds.2]
  simp only [hlow, if_true]

/-- A character beyond the first plane is that of its pair of units. -/
theorem charOfPair_toNat (h : 0x10000 ≤ c.toNat) :
    isHighSurrogate (0xD800 + (c.toNat - 0x10000) / 0x400) = true ∧
      isLowSurrogate (0xDC00 + (c.toNat - 0x10000) % 0x400) = true ∧
      charOfPair (0xD800 + (c.toNat - 0x10000) / 0x400)
        (0xDC00 + (c.toNat - 0x10000) % 0x400) = c := by
  have hvalid : c.toNat < 0xD800 ∨ 0xDFFF < c.toNat ∧ c.toNat < 0x110000 := c.valid
  have hcode : 0x10000 + (0xD800 + (c.toNat - 0x10000) / 0x400 - 0xD800) * 0x400 +
      (0xDC00 + (c.toNat - 0x10000) % 0x400 - 0xDC00) = c.toNat := by
    omega
  simp only [isHighSurrogate, isLowSurrogate, Bool.and_eq_true, decide_eq_true_eq]
  refine ⟨by omega, by omega, ?_⟩
  rw [charOfPair, hcode, Char.ofNat_toNat]

/-! ## Characters -/

/-- A string ends at a quote. -/
theorem readText_quote (opening rest : Text) : readText opening ('"' :: rest) = .ok ([], rest) := by
  rw [readText, if_pos rfl]

/-- A character that is no quote, no backslash and no control character stands for itself. -/
theorem readText_cons (hquote : c ≠ '"') (hbackslash : c ≠ '\\') (hcontrol : 0x20 ≤ c.toNat) :
    readText opening (c :: rest) =
      (readText opening rest).map fun (chars, after) => (c :: chars, after) := by
  rw [readText, if_neg hquote, if_neg hbackslash, if_neg (Nat.not_lt.2 hcontrol)]

/-- An escape stands for its character. -/
theorem readText_escape {after : Text} (h : readEscape opening rest = .ok (c, after)) :
    readText opening ('\\' :: rest) =
      (readText opening after).map fun (chars, tail) => (c :: chars, tail) := by
  rw [readText, if_neg (by decide), if_pos rfl]
  split
  · rename_i hfault
    rw [h] at hfault
    cases hfault
  · rename_i hread
    rw [h] at hread
    cases hread
    rfl

/-- A numeric escape stands for its character. -/
theorem readText_unitEscape {unit : Nat} {after : Text}
    (h : readUnicodeEscape (Text.hex 4 unit ++ rest) = .ok (c, after)) :
    readText opening (unitEscape unit ++ rest) =
      (readText opening after).map fun (chars, tail) => (c :: chars, tail) := by
  rw [unitEscape_append]
  apply readText_escape
  rw [readEscape, if_pos rfl, h]

/-- A printed character is read back, and what follows it is read on. -/
theorem readText_printChar (hrest : rest ≠ []) :
    readText opening (printChar c ++ rest) =
      (readText opening rest).map fun (chars, after) => (c :: chars, after) := by
  rw [printChar]
  split_ifs with hquote hbackslash hfeed hreturn htab hform hback hplain hplane
  · exact readText_escape (hquote ▸ rfl)
  · exact readText_escape (hbackslash ▸ rfl)
  · exact readText_escape (hfeed ▸ rfl)
  · exact readText_escape (hreturn ▸ rfl)
  · exact readText_escape (htab ▸ rfl)
  · exact readText_escape (hform ▸ rfl)
  · exact readText_escape (hback ▸ rfl)
  · rw [Bool.and_eq_true, decide_eq_true_eq] at hplain
    exact readText_cons hquote hbackslash hplain.1
  · exact readText_unitEscape (readUnicodeEscape_unit hplane hrest)
  · obtain ⟨hhigh, hlow, hpair⟩ := charOfPair_toNat (Nat.le_of_not_lt hplane)
    have hread := readUnicodeEscape_pair hhigh hlow hrest
    rw [hpair] at hread
    rw [List.append_assoc]
    exact readText_unitEscape hread

/-- The characters of a printed text are read back up to the closing quote. -/
theorem readText_flatMap_printChar (opening text rest : Text) :
    readText opening (text.flatMap printChar ++ '"' :: rest) = .ok (text, rest) := by
  induction text with
  | nil => exact readText_quote opening rest
  | cons c text ih =>
    rw [List.flatMap_cons, List.append_assoc, readText_printChar (by simp), ih]
    rfl

end ClassLint.Json
