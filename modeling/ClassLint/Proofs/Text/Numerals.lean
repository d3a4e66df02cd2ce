import ClassLint.Text.Digit
import ClassLint.Text.Basic
import Mathlib.Logic.Function.Basic

/-!
# Written numbers

Numbers in texts are read off their digits: different numbers are written differently, with no other
characters than digits and a minus sign.
-/

namespace ClassLint.Text

variable {c : Char}

/-- Natural numbers are written in digits. -/
theorem isDigit_of_mem_ofNat {n : Nat} (h : c ∈ ofNat n) : c.isDigit = true :=
  Nat.isDigit_of_mem_toDigits (by decide) (by decide) h

/-- Different natural numbers are written differently. -/
theorem ofNat_injective : Function.Injective ofNat := by
  intro m n h
  calc
    m = Nat.ofDigitChars 10 (ofNat m) 0 := Nat.ofDigitChars_ten_toDigits.symm
    _ = Nat.ofDigitChars 10 (ofNat n) 0 := by rw [h]
    _ = n := Nat.ofDigitChars_ten_toDigits

/-- Integers are written in digits and minus signs. -/
theorem isDigit_or_of_mem_ofInt {value : Int} (h : c ∈ ofInt value) :
    c.isDigit = true ∨ c = '-' := by
  cases value with
  | ofNat n => exact .inl (isDigit_of_mem_ofNat h)
  | negSucc n =>
    obtain hsign | hdigit := List.mem_cons.1 h
    · exact .inr hsign
    · exact .inl (isDigit_of_mem_ofNat hdigit)

/-- A natural number is written without a minus sign. -/
theorem minus_not_mem_ofNat (n : Nat) : '-' ∉ ofNat n := by
  intro h
  have hdigit := isDigit_of_mem_ofNat h
  contradiction

/-- Different integers are written differently. -/
theorem ofInt_injective : Function.Injective ofInt := by
  intro value other h
  cases value with
  | ofNat m =>
    cases other with
    | ofNat n => rw [ofNat_injective h]
    | negSucc n =>
      have hsign : ofNat m = '-' :: ofNat (n + 1) := h
      exact absurd (hsign ▸ List.mem_cons_self) (minus_not_mem_ofNat m)
  | negSucc m =>
    cases other with
    | ofNat n =>
      have hsign : '-' :: ofNat (m + 1) = ofNat n := h
      exact absurd (hsign ▸ List.mem_cons_self) (minus_not_mem_ofNat n)
    | negSucc n =>
      have hdigits := ofNat_injective (List.cons.inj h).2
      rw [Nat.succ.inj hdigits]

/-- A number has a first digit, which is zero for zero alone. -/
theorem exists_ofNat_cons (n : Nat) :
    ∃ c digits, ofNat n = c :: digits ∧ c.isDigit = true ∧ (c = '0' → n = 0) := by
  induction n using Nat.strongRecOn with
  | ind n ih =>
    by_cases hn : n < 10
    · have hfirst : ∀ m < 10, m.digitChar.isDigit = true ∧ (m.digitChar = '0' → m = 0) := by
        decide
      obtain ⟨hdigit, hzero⟩ := hfirst n hn
      exact ⟨n.digitChar, [], Nat.toDigits_of_lt_base hn, hdigit, hzero⟩
    · obtain ⟨c, digits, hdigits, hdigit, hzero⟩ := ih (n / 10) (by omega)
      have hlast : ofNat n = ofNat (n / 10) ++ [(n % 10).digitChar] :=
        Nat.toDigits_of_base_le (by decide) (Nat.le_of_not_lt hn)
      rw [hdigits] at hlast
      refine ⟨c, digits ++ [(n % 10).digitChar], hlast, hdigit, fun hc => ?_⟩
      have hquotient := hzero hc
      omega

/-! ## Base sixteen -/

/-- A digit has the value that it is written for. -/
theorem hexValue?_digitChar {n : Nat} (h : n < 16) : hexValue? n.digitChar = some n := by
  revert n
  decide

/-- A number below sixteen is one digit wide. -/
theorem hex_one {n : Nat} (h : n < 16) : hex 1 n = [n.digitChar] := by
  rw [hex, Nat.toDigits_of_lt_base h]
  rfl

/-- The last digit of a number that is padded to a width. -/
theorem hex_succ (width n : Nat) :
    hex (width + 2) n = hex (width + 1) (n / 16) ++ [(n % 16).digitChar] := by
  by_cases hn : n < 16
  · have hpadding : List.replicate width '0' ++ ['0'] = List.replicate (width + 1) '0' :=
      List.replicate_succ'.symm
    rw [hex, hex, Nat.toDigits_of_lt_base hn, Nat.div_eq_of_lt hn, Nat.mod_eq_of_lt hn]
    exact congrArg (· ++ [n.digitChar]) hpadding.symm
  · rw [hex, hex, Nat.toDigits_of_base_le (by decide) (Nat.le_of_not_lt hn), List.length_append,
      List.length_singleton, Nat.add_sub_add_right (width + 1) 1, List.append_assoc]

/-- The four digits of a number. -/
theorem hex_four {n : Nat} (h : n < 0x10000) :
    hex 4 n = [(n / 16 / 16 / 16).digitChar, (n / 16 / 16 % 16).digitChar,
      (n / 16 % 16).digitChar, (n % 16).digitChar] := by
  rw [hex_succ, hex_succ, hex_succ, hex_one (by omega)]
  rfl

end ClassLint.Text
