import ClassLint.Json.Reader

/-!
# Integers with too many digits

Reading a text as JSON stops at an integer with too many digits. It does so only where the text has
that many digits in a row: every part of the reader reads at the start of its text and hands on what
ends it, so that the digits it finds are digits of the whole text.
-/

namespace ClassLint.Json

/-- A text has a number of digits in a row. -/
def HasDigits (text : Text) (count : Nat) : Prop :=
  ∃ run, run <:+: text ∧ run.length = count ∧ ∀ c ∈ run, c.isDigit = true

/-- Digits in the end of a text are digits of the text. -/
theorem HasDigits.of_suffix {inner text : Text} {count : Nat} (h : HasDigits inner count)
    (hsuffix : inner <:+ text) : HasDigits text count := by
  obtain ⟨run, hrun, hlength, hdigits⟩ := h
  exact ⟨run, hrun.trans hsuffix.isInfix, hlength, hdigits⟩

/-- A reading keeps to its text: what follows the part that was read ends the text, and a fault for
too many digits is due to digits of the text. -/
def Keeps {α : Type} (text : Text) : Except Fault (α × Text) → Prop
  | .ok (_, after) => after <:+ text
  | .error fault => ∀ count, fault.kind = .longNumber count →
    Text.digitLimit < count ∧ HasDigits text count

namespace Keeps

variable {α β : Type} {inner text : Text} {reading : Except Fault (α × Text)}

/-- A reading of the end of a text keeps to the text. -/
theorem of_suffix (h : Keeps inner reading) (hsuffix : inner <:+ text) : Keeps text reading := by
  cases reading with
  | error fault =>
    intro count hcount
    obtain ⟨hlimit, hdigits⟩ := h count hcount
    exact ⟨hlimit, hdigits.of_suffix hsuffix⟩
  | ok found => exact List.IsSuffix.trans h hsuffix

/-- A reading keeps to its text whatever is made of the part that was read. -/
theorem map (h : Keeps text reading) (f : α → β) :
    Keeps text (reading.map fun found => (f found.1, found.2)) := by
  cases reading with
  | error fault => exact h
  | ok found => exact h

/-- A second reading of what follows a first one keeps to the text. -/
theorem bind {next : α × Text → Except Fault (β × Text)} (h : Keeps text reading)
    (hnext : ∀ found after, reading = .ok (found, after) → Keeps after (next (found, after))) :
    Keeps text (reading >>= next) := by
  cases reading with
  | error fault => exact h
  | ok found => exact (hnext found.1 found.2 rfl).of_suffix h

end Keeps

/-! ## White space, words and strings -/

/-- What follows white space ends the text. -/
theorem skipSpace_suffix (text : Text) : skipSpace text <:+ text :=
  List.dropWhile_suffix isSpace

/-- What follows a lead ends the text. -/
theorem suffix_of_after? {lead text after : Text} (h : Text.after? lead text = some after) :
    after <:+ text := by
  fun_induction Text.after? lead text with
  | case1 text =>
    cases h
    exact List.suffix_rfl
  | case2 => cases h
  | case3 lead c text ih => exact (ih h).trans (List.suffix_cons c text)
  | case4 => cases h

/-- What follows a word ends the text. -/
theorem suffix_of_readWord? {text after : Text} {value : Json}
    (h : readWord? text = some (value, after)) : after <:+ text := by
  obtain ⟨entry, _, hentry⟩ := List.exists_of_findSome?_eq_some h
  obtain ⟨rest, hrest, hpair⟩ := Option.map_eq_some_iff.1 hentry
  cases hpair
  exact suffix_of_after? hrest

/-- What follows four digits in base sixteen ends the text. -/
theorem suffix_of_readUnit? {text after : Text} {unit : Nat}
    (h : readUnit? text = some (unit, after)) : after <:+ text := by
  unfold readUnit? at h
  split at h
  · rename_i a b c d rest
    simp only [Option.bind_eq_bind, Option.bind_eq_some_iff, Option.some.injEq, Prod.mk.injEq] at h
    obtain ⟨_, _, _, _, _, _, _, _, _, rfl⟩ := h
    exact List.suffix_append [a, b, c, d] rest
  · cases h

/-- A fault of another kind is not due to digits. -/
theorem keeps_error {α : Type} (text : Text) {fault : Fault}
    (h : ∀ count, fault.kind ≠ .longNumber count) :
    Keeps text (.error fault : Except Fault (α × Text)) :=
  fun count hcount => absurd hcount (h count)

/-- The reading of a numeric escape keeps to its text. -/
theorem keeps_readUnicodeEscape (text : Text) : Keeps text (readUnicodeEscape text) := by
  unfold readUnicodeEscape
  split
  · exact keeps_error text (by simp)
  · exact keeps_error text (by simp)
  · rename_i unit after _ hunit
    have hafter := suffix_of_readUnit? hunit
    split
    · rename_i more _ _
      have hmore : more <:+ text := (List.suffix_append ['\\', 'u'] more).trans hafter
      split
      · exact hafter
      · split
        · exact keeps_error text (by simp)
        · rename_i low rest hlow
          split
          · exact (suffix_of_readUnit? hlow).trans hmore
          · exact hafter
    · exact hafter

/-- The reading of an escape keeps to its text. -/
theorem keeps_readEscape (opening text : Text) : Keeps text (readEscape opening text) := by
  unfold readEscape
  split
  · exact keeps_error _ (by simp)
  · rename_i c rest
    split
    · exact (keeps_readUnicodeEscape rest).of_suffix (List.suffix_cons c rest)
    · split
      · exact List.suffix_cons c rest
      · exact keeps_error _ (by simp)

/-- The reading of a string keeps to its text. -/
theorem keeps_readText (opening text : Text) : Keeps text (readText opening text) := by
  fun_induction readText opening text with
  | case1 => exact keeps_error _ (by simp)
  | case2 rest => exact List.suffix_cons _ rest
  | case3 rest fault hfault =>
    have hkeeps := keeps_readEscape opening rest
    rw [hfault] at hkeeps
    exact hkeeps.of_suffix (List.suffix_cons _ rest)
  | case4 rest char after hread _ ih =>
    have hkeeps := keeps_readEscape opening rest
    rw [hread] at hkeeps
    exact (ih.map (char :: ·)).of_suffix (List.IsSuffix.trans hkeeps (List.suffix_cons _ rest))
  | case5 c rest => exact keeps_error _ (by simp)
  | case6 c rest _ _ _ ih => exact (ih.map (c :: ·)).of_suffix (List.suffix_cons c rest)

/-! ## Numbers -/

/-- Digits and what follows them make up the text. -/
theorem spanDigits_eq {text digits after : Text} (h : spanDigits text = (digits, after)) :
    text = digits ++ after ∧ ∀ c ∈ digits, c.isDigit = true := by
  cases h
  exact ⟨List.takeWhile_append_dropWhile.symm, List.all_eq_true.1 List.all_takeWhile⟩

/-- The digits before a point or an exponent, and what follows them, make up the text. -/
theorem readWhole?_eq {text whole after : Text} (h : readWhole? text = some (whole, after)) :
    text = whole ++ after ∧ ∀ c ∈ whole, c.isDigit = true := by
  unfold readWhole? at h
  split at h
  · cases h
    exact ⟨rfl, by simp⟩
  · split at h
    · cases h
    · rename_i hspan
      cases h
      exact spanDigits_eq hspan

/-- What follows a fraction ends the text. -/
theorem readFraction_suffix (text : Text) : (readFraction text).2 <:+ text := by
  unfold readFraction
  split
  · rename_i rest
    split
    · exact List.suffix_rfl
    · rename_i hspan
      exact ⟨'.' :: _, by rw [(spanDigits_eq hspan).1]; rfl⟩
  · exact List.suffix_rfl

/-- What follows the digits of an exponent, or the exponent's place if it has none, ends the text.
-/
theorem suffix_of_exponentDigits (lead rest : Text) (value : Text → Int) :
    ((match spanDigits rest with
      | ([], _) => (none, lead ++ rest)
      | (digits, after) => (some (value digits), after)) : Option Int × Text).2 <:+
      lead ++ rest := by
  split
  · exact List.suffix_rfl
  · rename_i hspan
    exact ⟨lead ++ _, by rw [(spanDigits_eq hspan).1, List.append_assoc]⟩

/-- What follows an exponent ends the text. -/
theorem readExponent_suffix (text : Text) : (readExponent text).2 <:+ text := by
  unfold readExponent
  split
  · exact suffix_of_exponentDigits ['e', '-'] _ fun digits => -(digitsValue digits : Int)
  · exact suffix_of_exponentDigits ['E', '-'] _ fun digits => -(digitsValue digits : Int)
  · exact suffix_of_exponentDigits ['e', '+'] _ fun digits => digitsValue digits
  · exact suffix_of_exponentDigits ['E', '+'] _ fun digits => digitsValue digits
  · exact suffix_of_exponentDigits ['e'] _ fun digits => digitsValue digits
  · exact suffix_of_exponentDigits ['E'] _ fun digits => digitsValue digits
  · exact List.suffix_rfl

/-- The reading of a number without sign keeps to its text. -/
theorem keeps_readMagnitude (start : Text) (negative : Bool) (text : Text) :
    Keeps text (readMagnitude start negative text) := by
  unfold readMagnitude
  split
  · exact keeps_error _ (by simp)
  · rename_i whole afterWhole hwhole
    obtain ⟨rfl, hdigits⟩ := readWhole?_eq hwhole
    have hrest : (readExponent (readFraction afterWhole).2).2 <:+ whole ++ afterWhole :=
      ((readExponent_suffix _).trans (readFraction_suffix _)).trans (List.suffix_append _ _)
    dsimp only
    split
    · split
      · rename_i hlimit
        intro count hcount
        cases hcount
        exact ⟨hlimit, whole, List.infix_append' [] whole afterWhole, rfl, hdigits⟩
      · exact hrest
    · exact hrest

/-- The reading of a number keeps to its text. -/
theorem keeps_readNumber (text : Text) : Keeps text (readNumber text) := by
  unfold readNumber
  split
  · exact (keeps_readMagnitude _ true _).of_suffix (List.suffix_cons _ _)
  · exact keeps_readMagnitude text false text

/-! ## Values -/

/-- What follows white space and one more character ends the text. -/
theorem suffix_of_skipSpace {text after : Text} {c : Char} (h : skipSpace text = c :: after) :
    after <:+ text :=
  (List.suffix_cons c after).trans (h ▸ skipSpace_suffix text)

/-- The readings of a value, of the items of a list and of the members of an object keep to their
texts. -/
theorem keeps_reading (fuel : Nat) (text : Text) :
    Keeps text (readValue fuel text) ∧ Keeps text (readItems fuel text) ∧
      Keeps text (readMembers fuel text) := by
  induction fuel generalizing text with
  | zero => exact ⟨keeps_error _ (by simp), keeps_error _ (by simp), keeps_error _ (by simp)⟩
  | succ fuel ih =>
    refine ⟨?_, ?_, ?_⟩
    · unfold readValue
      split
      · rename_i rest
        exact ((keeps_readText _ rest).map Json.text).of_suffix (List.suffix_cons _ rest)
      · rename_i rest
        split
        · rename_i after hafter
          exact (suffix_of_skipSpace hafter).trans (List.suffix_cons _ rest)
        · exact (((ih _).2.1.map Json.list).of_suffix (skipSpace_suffix rest)).of_suffix
            (List.suffix_cons _ rest)
      · rename_i rest
        split
        · rename_i after hafter
          exact (suffix_of_skipSpace hafter).trans (List.suffix_cons _ rest)
        · exact (((ih _).2.2.map fun members => Json.object (Members.ofList members)).of_suffix
            (skipSpace_suffix rest)).of_suffix (List.suffix_cons _ rest)
      · split
        · rename_i found hfound
          exact suffix_of_readWord? hfound
        · exact keeps_readNumber text
    · unfold readItems
      refine (ih text).1.bind fun item after _ => ?_
      dsimp only
      split
      · rename_i rest hrest
        exact suffix_of_skipSpace hrest
      · rename_i rest hrest
        have hitems := (ih (skipSpace rest)).2.1
        refine (hitems.bind fun items tail _ => ?_).of_suffix
          ((skipSpace_suffix rest).trans (suffix_of_skipSpace hrest))
        exact List.suffix_rfl
      · exact keeps_error _ (by simp)
    · unfold readMembers
      dsimp only
      split
      · rename_i afterQuote
        refine ((keeps_readText _ afterQuote).bind fun key afterKey _ => ?_).of_suffix
          (List.suffix_cons _ afterQuote)
        dsimp only
        split
        · rename_i afterColon hcolon
          refine ((ih _).1.bind fun value afterValue _ => ?_).of_suffix
            ((skipSpace_suffix afterColon).trans (suffix_of_skipSpace hcolon))
          dsimp only
          split
          · rename_i rest hrest
            exact suffix_of_skipSpace hrest
          · rename_i rest hrest
            refine ((ih (skipSpace rest)).2.2.bind fun members tail _ => ?_).of_suffix
              ((skipSpace_suffix rest).trans (suffix_of_skipSpace hrest))
            exact List.suffix_rfl
          · exact keeps_error _ (by simp)
        · exact keeps_error _ (by simp)
      · exact keeps_error _ (by simp)

/-- A text is refused for an integer with too many digits only if it has so many in a row. -/
theorem hasDigits_of_read {source rest : Text} {count : Nat}
    (h : read source = .error ⟨.longNumber count, rest⟩) :
    Text.digitLimit < count ∧ HasDigits source count := by
  unfold read at h
  split at h
  · cases h
  · have hkeeps := ((keeps_reading (2 * source.length + 2) (skipSpace source)).1).of_suffix
      (skipSpace_suffix source)
    cases hvalue : readValue (2 * source.length + 2) (skipSpace source) with
    | error fault =>
      rw [hvalue] at h hkeeps
      cases h
      exact hkeeps count rfl
    | ok found =>
      rw [hvalue] at h
      dsimp only [bind, Except.bind] at h
      split at h
      · cases h
      · cases h

end ClassLint.Json
