import ClassLint.Text.ControlSequence

/-!
# Control sequences and lines

A control sequence never goes past the end of a line, since a line feed is none of its characters.
So lines lose the same sequences whether they are shown together or one by one.
-/

namespace ClassLint.Text

/-- What is shown of a text with a control sequence at its start. -/
theorem withoutSequences_of_some {text after : Text} (h : afterSequence? text = some after) :
    withoutSequences text = withoutSequences after := by
  cases text with
  | nil => cases h
  | cons c text =>
    rw [withoutSequences]
    split
    · rename_i found hfound
      rw [h] at hfound
      cases hfound
      rfl
    · rename_i hnone
      rw [h] at hnone
      cases hnone

/-- What is shown of a text with no control sequence at its start. -/
theorem withoutSequences_cons_of_none {c : Char} {text : Text}
    (h : afterSequence? (c :: text) = none) :
    withoutSequences (c :: text) = c :: withoutSequences text := by
  rw [withoutSequences]
  split
  · rename_i found hfound
    rw [h] at hfound
    cases hfound
  · rfl

/-- What is dropped from a line does not go past its end. -/
theorem exists_dropWhile_line (kind : Char → Bool) (hkind : kind '\n' = false) (line : Text) :
    ∃ left, left.length ≤ line.length ∧
      ∀ rest, (line ++ '\n' :: rest).dropWhile kind = left ++ '\n' :: rest := by
  induction line with
  | nil => exact ⟨[], Nat.le_refl 0, fun rest => List.dropWhile_cons_of_neg (by simp [hkind])⟩
  | cons c line ih =>
    cases hc : kind c with
    | false =>
      exact ⟨c :: line, Nat.le_refl _, fun rest => List.dropWhile_cons_of_neg (by simp [hc])⟩
    | true =>
      obtain ⟨left, hlength, hleft⟩ := ih
      refine ⟨left, Nat.le_succ_of_le hlength, fun rest => ?_⟩
      rw [List.cons_append, List.dropWhile_cons_of_pos hc, hleft rest]

/-- A line starts with no control sequence, or with one that ends in it, whatever follows the line.
-/
theorem afterSequence?_line (line : Text) :
    (∀ rest, afterSequence? (line ++ '\n' :: rest) = none) ∨
      ∃ left, left.length < line.length ∧
        ∀ rest, afterSequence? (line ++ '\n' :: rest) = some (left ++ '\n' :: rest) := by
  by_cases hstart : ∃ inner, line = '\x1b' :: '[' :: inner
  · obtain ⟨inner, rfl⟩ := hstart
    obtain ⟨behind, hbehind, hparameters⟩ := exists_dropWhile_line isParameter rfl inner
    obtain ⟨left, hleft, hintermediates⟩ := exists_dropWhile_line isIntermediate rfl behind
    simp only [List.cons_append, afterSequence?, hparameters, hintermediates]
    cases left with
    | nil => exact .inl fun rest => rfl
    | cons c left =>
      cases hfinal : isFinal c with
      | false => exact .inl fun rest => by simp [hfinal]
      | true =>
        refine .inr ⟨left, ?_, fun rest => by simp [hfinal]⟩
        simp only [List.length_cons] at hleft ⊢
        omega
  · refine .inl fun rest => ?_
    unfold afterSequence?
    split
    · rename_i text htext
      cases line with
      | nil => cases htext
      | cons c line =>
        cases line with
        | nil => cases htext
        | cons d line =>
          cases htext
          exact absurd ⟨line, rfl⟩ hstart
    · rfl

/-- The control sequences of a line are taken out whatever follows the line. -/
theorem exists_withoutSequences_line (line : Text) :
    ∃ shown, ∀ rest,
      withoutSequences (line ++ '\n' :: rest) = shown ++ '\n' :: withoutSequences rest := by
  -- A sequence may take away more than one character, so the induction is on the length.
  induction hlength : line.length using Nat.strongRecOn generalizing line with
  | ind length ih =>
    obtain hnone | ⟨left, hshort, hleft⟩ := afterSequence?_line line
    · cases line with
      | nil =>
        exact ⟨[], fun rest => withoutSequences_cons_of_none (hnone rest)⟩
      | cons c line =>
        obtain ⟨shown, hshown⟩ := ih line.length (by simp [← hlength]) line rfl
        refine ⟨c :: shown, fun rest => ?_⟩
        exact (withoutSequences_cons_of_none (hnone rest)).trans (congrArg (c :: ·) (hshown rest))
    · obtain ⟨shown, hshown⟩ := ih left.length (hlength ▸ hshort) left rfl
      refine ⟨shown, fun rest => ?_⟩
      rw [withoutSequences_of_some (hleft rest), hshown rest]

/-- Lines lose their control sequences, and so does what follows them. -/
theorem withoutSequences_lines_append (texts : List Text) (rest : Text) :
    withoutSequences (lines texts ++ rest) =
      withoutSequences (lines texts) ++ withoutSequences rest := by
  induction texts with
  | nil =>
    rw [lines, List.flatMap_nil, withoutSequences]
    rfl
  | cons text texts ih =>
    obtain ⟨shown, hshown⟩ := exists_withoutSequences_line text
    have hlines : lines (text :: texts) = text ++ '\n' :: lines texts := by
      rw [lines, List.flatMap_cons, List.append_assoc]
      rfl
    rw [hlines, List.append_assoc, List.cons_append, hshown, hshown, ih, List.append_assoc,
      List.cons_append]

/-- A text without escape characters is shown as it is. -/
theorem withoutSequences_of_not_mem {text : Text} (h : '\x1b' ∉ text) :
    withoutSequences text = text := by
  induction text with
  | nil => rw [withoutSequences]
  | cons c text ih =>
    have hnone : afterSequence? (c :: text) = none := by
      unfold afterSequence?
      split
      · rename_i hcons
        exact absurd ((List.cons.inj hcons).1 ▸ List.mem_cons_self) h
      · rfl
    rw [withoutSequences_cons_of_none hnone, ih fun hmem => h (List.mem_cons_of_mem c hmem)]

end ClassLint.Text
