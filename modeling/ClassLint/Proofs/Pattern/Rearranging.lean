import ClassLint.Proofs.Pattern.Pieces
import Mathlib.Algebra.BigOperators.Group.List.Basic

/-!
# Rearranged regular expressions

A rearranged regular expression denotes the same language, is written as well as the one that it
comes from, and has the same names of groups. A change of a repeat or of the order of branches is
never seen from the piece before it.
-/

namespace ClassLint

open PatternToken (bare bareText)

namespace Regex

/-! ## Branches -/

/-- A regular expression denotes the union of the languages of its branches. -/
theorem language_eq_sum (regex : Regex) :
    regex.language = (regex.branches.map Branch.language).sum := by
  match regex with
  | .last branch => simp [branches, language]
  | .or branch rest =>
    rw [branches, language, List.map_cons, List.sum_cons, language_eq_sum rest]

/-- A regular expression is well written if each of its branches is. -/
theorem isWritten_iff_branches (regex : Regex) :
    regex.IsWritten ↔ ∀ branch ∈ regex.branches, branch.IsWritten := by
  match regex with
  | .last branch => simp [branches, IsWritten]
  | .or branch rest =>
    rw [branches, IsWritten, List.forall_mem_cons, isWritten_iff_branches rest]

/-- The names in a regular expression are those in its branches, in order. -/
theorem names_eq_flatMap (regex : Regex) : regex.names = regex.branches.flatMap Branch.names := by
  match regex with
  | .last branch => simp [branches, names]
  | .or branch rest => rw [branches, names, List.flatMap_cons, names_eq_flatMap rest]

/-! ## Margins -/

/-- The same pieces before equal margins have equal margins. -/
theorem margin_append_congr {tokens next other : List PatternToken}
    (h : margin next = margin other) : margin (tokens ++ next) = margin (tokens ++ other) := by
  induction tokens with
  | nil => exact h
  | cons token tokens ih =>
    rw [margin, margin, List.cons_append, List.cons_append, List.takeWhile_cons,
      List.takeWhile_cons]
    split
    · rw [List.map_cons, List.map_cons]
      exact congrArg _ ih
    · rfl

/-- Rearranging a symbol or group leaves the margin where it starts as it is. -/
theorem Atom.Rearranged.margin_eq {atom other : Atom} (h : atom.Rearranged other)
    {next nextOther : List PatternToken} (hnext : margin next = margin nextOther) :
    margin (atom.tokens ++ next) = margin (other.tokens ++ nextOther) := by
  cases h with
  | symbol symbol => exact margin_append_congr hnext
  | group hbody =>
    rename_i sort _ _
    cases sort <;> rfl

/-- Signs that differ in how a repeat goes on have the same margin before equal margins. -/
theorem margin_repeatText {count other : Option Repeat}
    (h : count.map Repeat.mark = other.map Repeat.mark) {next nextOther : List PatternToken}
    (hnext : margin next = margin nextOther) :
    margin (bareText (repeatText count) ++ next) =
      margin (bareText (repeatText other) ++ nextOther) := by
  cases count with
  | none =>
    cases other with
    | none => exact hnext
    | some sign => cases h
  | some sign =>
    cases other with
    | none => cases h
    | some otherSign =>
      obtain ⟨mark, isLazy⟩ := sign
      obtain ⟨otherMark, otherLazy⟩ := otherSign
      obtain rfl : mark = otherMark := Option.some.inj h
      -- the sign of a repeat is not part of a margin
      cases mark <;> rfl

/-- Rearranging a branch leaves its margin as it is. -/
theorem Branch.Rearranged.margin_eq {branch other : Branch} (h : branch.Rearranged other) :
    margin branch.tokens = margin other.tokens := by
  match h with
  | .nil => rfl
  | .cons hatom hcount hrest =>
    exact hatom.margin_eq (margin_repeatText hcount hrest.margin_eq)

/-! ## What rearranging keeps -/

/-- How a repeat goes on changes nothing about its language. -/
theorem repeatLanguage_congr {count other : Option Repeat}
    (h : count.map Repeat.mark = other.map Repeat.mark) (language : Language Char) :
    repeatLanguage count language = repeatLanguage other language := by
  cases count <;> cases other <;> simp_all [repeatLanguage]

/-- How a repeat goes on changes nothing about whether its bounds are well written. -/
theorem isWritten_mark_of_map_eq {count other : Option Repeat}
    (h : count.map Repeat.mark = other.map Repeat.mark)
    (hcount : ∀ sign ∈ count, sign.mark.IsWritten) : ∀ sign ∈ other, sign.mark.IsWritten := by
  cases count <;> cases other <;> simp_all

mutual

/-- Rearranging a symbol or group leaves its language as it is. -/
theorem Atom.Rearranged.language_eq {atom other : Atom} (h : atom.Rearranged other) :
    atom.language = other.language := by
  match h with
  | .symbol symbol => rfl
  | .group hbody => exact hbody.language_eq

/-- Rearranging a branch leaves its language as it is. -/
theorem Branch.Rearranged.language_eq {branch other : Branch} (h : branch.Rearranged other) :
    branch.language = other.language := by
  match h with
  | .nil => rfl
  | .cons hatom hcount hrest =>
    rw [Branch.language, Branch.language, hatom.language_eq, hrest.language_eq,
      repeatLanguage_congr hcount]

/-- Changing repeats between taking as much and as little as they can, and changing the order of
branches, keeps the language. -/
theorem Rearranged.language_eq {regex other : Regex} (h : regex.Rearranged other) :
    regex.language = other.language := by
  match h with
  | .last hbranch => exact hbranch.language_eq
  | .or hbranch hrest => rw [language, language, hbranch.language_eq, hrest.language_eq]
  | .reorder hbranches =>
    rw [language_eq_sum, language_eq_sum]
    exact (hbranches.map _).sum_eq
  | .trans hfirst hsecond => exact hfirst.language_eq.trans hsecond.language_eq

end

mutual

/-- A well-written symbol or group stays so when it is rearranged. -/
theorem Atom.Rearranged.isWritten {atom other : Atom} (h : atom.Rearranged other) {next : Text}
    (hwritten : atom.IsWritten next) : other.IsWritten next := by
  match h with
  | .symbol symbol => exact hwritten
  | .group hbody => exact ⟨hwritten.1, hbody.isWritten hwritten.2⟩

/-- A well-written branch stays so when it is rearranged. -/
theorem Branch.Rearranged.isWritten {branch other : Branch} (h : branch.Rearranged other)
    (hwritten : branch.IsWritten) : other.IsWritten := by
  match h with
  | .nil => exact hwritten
  | .cons hatom hcount hrest =>
    obtain ⟨hatomWritten, hmark, hrestWritten⟩ := hwritten
    refine ⟨?_, isWritten_mark_of_map_eq hcount hmark, hrest.isWritten hrestWritten⟩
    rw [← margin_repeatText hcount hrest.margin_eq]
    exact hatom.isWritten hatomWritten

/-- A well-written regular expression stays so when it is rearranged. -/
theorem Rearranged.isWritten {regex other : Regex} (h : regex.Rearranged other)
    (hwritten : regex.IsWritten) : other.IsWritten := by
  match h with
  | .last hbranch => exact hbranch.isWritten hwritten
  | .or hbranch hrest => exact ⟨hbranch.isWritten hwritten.1, hrest.isWritten hwritten.2⟩
  | .reorder hbranches =>
    rw [isWritten_iff_branches] at hwritten ⊢
    exact fun branch hbranch => hwritten branch (hbranches.mem_iff.2 hbranch)
  | .trans hfirst hsecond => exact hsecond.isWritten (hfirst.isWritten hwritten)

end

mutual

/-- Rearranging a symbol or group changes the order of its names at most. -/
theorem Atom.Rearranged.names_perm {atom other : Atom} (h : atom.Rearranged other) :
    atom.names.Perm other.names := by
  match h with
  | .symbol symbol => exact .refl _
  | .group hbody => exact hbody.names_perm.append_left _

/-- Rearranging a branch changes the order of its names at most. -/
theorem Branch.Rearranged.names_perm {branch other : Branch} (h : branch.Rearranged other) :
    branch.names.Perm other.names := by
  match h with
  | .nil => exact .refl _
  | .cons hatom _ hrest => exact hatom.names_perm.append hrest.names_perm

/-- Rearranging a regular expression changes the order of its names at most. -/
theorem Rearranged.names_perm {regex other : Regex} (h : regex.Rearranged other) :
    regex.names.Perm other.names := by
  match h with
  | .last hbranch => exact hbranch.names_perm
  | .or hbranch hrest => exact hbranch.names_perm.append hrest.names_perm
  | .reorder hbranches =>
    rw [names_eq_flatMap, names_eq_flatMap]
    exact hbranches.flatMap_right _
  | .trans hfirst hsecond => exact hfirst.names_perm.trans hsecond.names_perm

end

/-- A rearranged regular expression is well written. -/
theorem Rearranged.wellWritten {regex other : Regex} (h : regex.Rearranged other)
    (hwritten : regex.WellWritten) : other.WellWritten where
  isWritten := h.isWritten hwritten.isWritten
  names_nodup := h.names_perm.nodup_iff.1 hwritten.names_nodup

end Regex

end ClassLint
