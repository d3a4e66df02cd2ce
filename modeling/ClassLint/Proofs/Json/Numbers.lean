import ClassLint.Json.Printer
import ClassLint.Json.Reader
import ClassLint.Proofs.Text.Numerals

/-!
# Printed integers

An integer is read back from its digits, however large it is, as long as a reader takes so many
digits and nothing follows that would go on with a number.
-/

namespace ClassLint.Json

variable {rest : Text} {n : Nat}

/-- What may follow a number: no further digit, no fraction and no exponent. -/
def EndsNumber (rest : Text) : Prop :=
  ∀ c ∈ rest.head?, c.isDigit = false ∧ c ≠ '.' ∧ c ≠ 'e' ∧ c ≠ 'E'

/-- Digits are told from what follows them. -/
theorem spanDigits_append {digits : Text} (hdigits : ∀ c ∈ digits, c.isDigit = true)
    (hrest : EndsNumber rest) : spanDigits (digits ++ rest) = (digits, rest) := by
  have hstop : rest.takeWhile Char.isDigit = [] ∧ rest.dropWhile Char.isDigit = rest := by
    cases rest with
    | nil => exact ⟨rfl, rfl⟩
    | cons c rest =>
      have hc := (hrest c rfl).1
      exact ⟨List.takeWhile_cons_of_neg (by simp [hc]), List.dropWhile_cons_of_neg (by simp [hc])⟩
  rw [spanDigits, List.takeWhile_append_of_pos hdigits, List.dropWhile_append_of_pos hdigits,
    hstop.1, hstop.2, List.append_nil]

/-- The digits of a number have its value. -/
theorem digitsValue_ofNat (n : Nat) : digitsValue (Text.ofNat n) = n := by
  rw [digitsValue, ← Nat.ofDigitChars_eq_foldl]
  exact Nat.ofDigitChars_ten_toDigits

/-- The digits of a number are read as digits before a point. -/
theorem readWhole?_ofNat (hrest : EndsNumber rest) :
    readWhole? (Text.ofNat n ++ rest) = some (Text.ofNat n, rest) := by
  obtain ⟨c, digits, hdigits, -, hzero⟩ := Text.exists_ofNat_cons n
  by_cases hc : c = '0'
  · -- A number that starts with a zero is zero, and a lone zero is read as such.
    rw [hzero hc]
    rfl
  · have hspan : spanDigits (Text.ofNat n ++ rest) = (Text.ofNat n, rest) :=
      spanDigits_append (fun _ => Text.isDigit_of_mem_ofNat) hrest
    rw [hdigits] at hspan ⊢
    unfold readWhole?
    split
    · rename_i hcons
      exact absurd (List.cons.inj hcons).1 hc
    · rw [hspan]

/-- No fraction is read from what ends a number. -/
theorem readFraction_of_ends (h : EndsNumber rest) : readFraction rest = ([], rest) := by
  unfold readFraction
  split
  · exact absurd rfl (h '.' rfl).2.1
  · rfl

/-- No exponent is read from what ends a number. -/
theorem readExponent_of_ends (h : EndsNumber rest) : readExponent rest = (none, rest) := by
  unfold readExponent
  split
  · exact absurd rfl (h 'e' rfl).2.2.1
  · exact absurd rfl (h 'E' rfl).2.2.2
  · exact absurd rfl (h 'e' rfl).2.2.1
  · exact absurd rfl (h 'E' rfl).2.2.2
  · exact absurd rfl (h 'e' rfl).2.2.1
  · exact absurd rfl (h 'E' rfl).2.2.2
  · rfl

/-- The digits of a number are read back, with the sign that stood before them. -/
theorem readMagnitude_ofNat (start : Text) (negative : Bool)
    (hlimit : (Text.ofNat n).length ≤ Text.digitLimit) (hrest : EndsNumber rest) :
    readMagnitude start negative (Text.ofNat n ++ rest) =
      .ok (.integer (if negative then -(n : Int) else n), rest) := by
  rw [readMagnitude, readWhole?_ofNat hrest]
  dsimp only
  rw [readFraction_of_ends hrest, readExponent_of_ends hrest, digitsValue_ofNat]
  exact if_neg (Nat.not_lt.2 hlimit)

/-- A printed integer is read back. -/
theorem readNumber_ofInt {value : Int} (hlimit : (Text.ofNat value.natAbs).length ≤ Text.digitLimit)
    (hrest : EndsNumber rest) :
    readNumber (Text.ofInt value ++ rest) = .ok (.integer value, rest) := by
  cases value with
  | ofNat n =>
    obtain ⟨c, digits, hdigits, hdigit, -⟩ := Text.exists_ofNat_cons n
    have hread : readMagnitude (Text.ofNat n ++ rest) false (Text.ofNat n ++ rest) =
        .ok (.integer n, rest) := readMagnitude_ofNat _ false hlimit hrest
    rw [Text.ofInt]
    rw [hdigits] at hread ⊢
    unfold readNumber
    split
    · rename_i hcons
      rw [(List.cons.inj hcons).1] at hdigit
      cases hdigit
    · exact hread
  | negSucc n => exact readMagnitude_ofNat ('-' :: Text.ofNat (n + 1) ++ rest) true hlimit hrest

/-- No word starts with a digit. -/
theorem readWord?_of_isDigit {c : Char} (h : c.isDigit = true) (text : Text) :
    readWord? (c :: text) = none := by
  have hne (d : Char) (hd : d.isDigit = false) : d ≠ c := by
    intro hsame
    rw [hsame, h] at hd
    cases hd
  simp [readWord?, wordValues, Text.after?, hne 'n' rfl, hne 't' rfl, hne 'f' rfl, hne 'N' rfl,
    hne 'I' rfl, hne '-' rfl]

/-- No word is a minus sign and a digit at its start. -/
theorem readWord?_of_minus {d : Char} (h : d.isDigit = true) (text : Text) :
    readWord? ('-' :: d :: text) = none := by
  have hne : 'I' ≠ d := by
    intro hsame
    rw [← hsame] at h
    cases h
  simp [readWord?, wordValues, Text.after?, hne]

/-- No word is read from a printed integer. -/
theorem readWord?_ofInt (value : Int) (rest : Text) :
    readWord? (Text.ofInt value ++ rest) = none := by
  cases value with
  | ofNat n =>
    obtain ⟨c, digits, hdigits, hdigit, -⟩ := Text.exists_ofNat_cons n
    rw [Text.ofInt, hdigits]
    exact readWord?_of_isDigit hdigit _
  | negSucc n =>
    obtain ⟨c, digits, hdigits, hdigit, -⟩ := Text.exists_ofNat_cons (n + 1)
    rw [Text.ofInt, hdigits]
    exact readWord?_of_minus hdigit _

/-- A printed integer starts with a digit or a minus sign. -/
theorem exists_ofInt_cons (value : Int) :
    ∃ c digits, Text.ofInt value = c :: digits ∧ (c.isDigit = true ∨ c = '-') := by
  cases value with
  | ofNat n =>
    obtain ⟨c, digits, hdigits, hdigit, -⟩ := Text.exists_ofNat_cons n
    exact ⟨c, digits, hdigits, .inl hdigit⟩
  | negSucc n => exact ⟨'-', _, rfl, .inr rfl⟩

end ClassLint.Json
