import ClassLint.Check.Rule
import ClassLint.Proofs.Text.Numerals

/-!
# The values of findings

Every finding has the text of a selector or of a token for its message, and the one about depth has
the greatest depth besides. A message is this text between two fixed ones, put in as it is whatever
it looks like, and so it tells the values.
-/

namespace ClassLint

/-! ## Cutting at a character -/

namespace Text

variable {c : Char} {first second firstRest secondRest : Text}

/-- Texts that a character ends for the first time are told from what follows them. -/
theorem append_cons_inj_of_not_mem (hfirst : c ∉ first) (hsecond : c ∉ second)
    (h : first ++ c :: firstRest = second ++ c :: secondRest) :
    first = second ∧ firstRest = secondRest := by
  induction first generalizing second with
  | nil =>
    cases second with
    | nil => exact ⟨rfl, (List.cons.inj h).2⟩
    | cons d second => exact absurd ((List.cons.inj h).1 ▸ List.mem_cons_self) hsecond
  | cons d first ih =>
    cases second with
    | nil => exact absurd ((List.cons.inj h).1 ▸ List.mem_cons_self) hfirst
    | cons e second =>
      obtain ⟨rfl, hrest⟩ := List.cons.inj h
      obtain ⟨hsame, hbehind⟩ := ih (fun hmem => hfirst (List.mem_cons_of_mem _ hmem))
        (fun hmem => hsecond (List.mem_cons_of_mem _ hmem)) hrest
      exact ⟨by rw [hsame], hbehind⟩

/-- Texts that a character starts for the last time are told from what stands before them. -/
theorem append_cons_inj_of_not_mem_rest (hfirst : c ∉ firstRest) (hsecond : c ∉ secondRest)
    (h : first ++ c :: firstRest = second ++ c :: secondRest) :
    first = second ∧ firstRest = secondRest := by
  have hreverse := congrArg List.reverse h
  simp only [List.reverse_append, List.reverse_cons, List.append_assoc, List.singleton_append]
    at hreverse
  obtain ⟨hbehind, hbefore⟩ := append_cons_inj_of_not_mem (by simpa using hfirst)
    (by simpa using hsecond) hreverse
  exact ⟨List.reverse_inj.1 hbefore, List.reverse_inj.1 hbehind⟩

end Text

/-! ## Messages -/

namespace Kind

/-- The message of a kind has the selector between a text of the kind and the rest of the wording,
whatever the selector is. -/
theorem message_cons (kind : Kind) (selector : Text) (rest : Values) :
    kind.message (("selector", selector) :: rest) =
      kind.wording.1 ++ selector ++ kind.wording.2.flatMap (MessagePiece.fill rest) := by
  have hselector : MessagePiece.fill (("selector", selector) :: rest) (.place "selector") =
      selector := by
    rw [MessagePiece.fill, List.lookup_cons_self, Option.getD_some]
  have hrest : kind.wording.2.flatMap (MessagePiece.fill (("selector", selector) :: rest)) =
      kind.wording.2.flatMap (MessagePiece.fill rest) := by
    cases kind <;> rfl
  rw [message, pieces, List.flatMap_cons, List.flatMap_cons, hselector, hrest, MessagePiece.fill,
    List.append_assoc]

/-- The values that a finding of a kind gives to its message. -/
def values (kind : Kind) (selector : Text) (depth : Nat) : Values :=
  match kind with
  | .maxDepthExceeded => [("selector", selector), ("maxDepth", Text.ofNat depth)]
  | _ => [("selector", selector)]

/-- The selector comes first among the values. -/
theorem exists_values_eq (kind : Kind) (selector : Text) (depth : Nat) :
    ∃ rest, kind.values selector depth = ("selector".toList, selector) :: rest := by
  cases kind <;> exact ⟨_, rfl⟩

/-- The message about depth names the depth at its end. -/
theorem message_maxDepthExceeded (selector : Text) (depth : Nat) :
    maxDepthExceeded.message (maxDepthExceeded.values selector depth) =
      (maxDepthExceeded.wording.1 ++ selector ++ "\" exceeds the maximum depth of") ++
        ' ' :: (Text.ofNat depth ++ ['.']) := by
  have hrest : maxDepthExceeded.wording.2 =
      [.fixed "\" exceeds the maximum depth of ", .place "maxDepth", .fixed "."] := rfl
  rw [values, message_cons, hrest, List.append_assoc _ _ (' ' :: _)]
  simp only [List.flatMap_cons, List.flatMap_nil, MessagePiece.fill, List.lookup_cons_self,
    Option.getD_some, String.reduceToList, List.cons_append, List.nil_append]

/-- A message tells the values that it was made of. -/
theorem values_of_message {kind : Kind} {selector other : Text} {depth otherDepth : Nat}
    (h : kind.message (kind.values selector depth) = kind.message (kind.values other otherDepth)) :
    kind.values selector depth = kind.values other otherDepth := by
  have hplain (hsame : kind.message [("selector", selector)] = kind.message [("selector", other)]) :
      ([("selector".toList, selector)] : Values) = [("selector".toList, other)] := by
    rw [message_cons, message_cons] at hsame
    rw [List.append_cancel_left (List.append_cancel_right hsame)]
  cases kind with
  | maxDepthExceeded =>
    rw [message_maxDepthExceeded, message_maxDepthExceeded] at h
    have hspace (n : Nat) : ' ' ∉ Text.ofNat n ++ ['.'] := by
      intro hmem
      obtain hdigit | hpoint := List.mem_append.1 hmem
      · exact absurd (Text.isDigit_of_mem_ofNat hdigit) (by decide)
      · exact absurd hpoint (by decide)
    obtain ⟨hbefore, hdepth⟩ := Text.append_cons_inj_of_not_mem_rest (hspace _) (hspace _) h
    have hselector := List.append_cancel_left (List.append_cancel_right hbefore)
    rw [hselector, Text.ofNat_injective (List.append_cancel_right hdepth)]
  | _ => exact hplain h

end Kind

/-! ## Findings -/

/-- A finding has the values that its message names, and no others. -/
def Finding.Filled (finding : Finding) : Prop :=
  ∃ selector depth, finding.data = finding.kind.values selector depth

namespace Selector

variable {selector : Selector} {options : Options} {finding : Finding}

/-- What is found is found by a check. -/
theorem exists_stage_of_mem_check (h : finding ∈ selector.check options) :
    ∃ stage, finding ∈ selector.checkStage options stage := by
  rw [check] at h
  cases hfound : Stage.all.find? fun stage => !(selector.checkStage options stage).isEmpty with
  | none =>
    rw [hfound] at h
    cases h
  | some stage =>
    rw [hfound] at h
    exact ⟨stage, h⟩

/-- Every check fills its findings. -/
theorem filled_of_mem_checkStage {stage : Stage} (h : finding ∈ selector.checkStage options stage) :
    finding.Filled := by
  have hone {c : Prop} [Decidable c] {only : Finding}
      (hmem : finding ∈ if c then [only] else []) : finding = only := by
    split at hmem
    · exact List.mem_singleton.1 hmem
    · cases hmem
  cases stage with
  | descendant => exact ⟨selector.text, 0, by rw [hone h]; rfl⟩
  | depth => exact ⟨selector.text, options.maxDepth, by rw [hone h]; rfl⟩
  | multiComponent => exact ⟨selector.text, 0, by rw [hone h]; rfl⟩
  | tokens =>
    obtain ⟨⟨level, compound⟩, -, h⟩ := List.mem_flatMap.1 h
    obtain ⟨token, -, h⟩ := List.mem_filterMap.1 h
    rw [tokenFinding?] at h
    split at h
    · cases h
    · cases h
      refine ⟨token.text, 0, ?_⟩
      cases (token.classify level options).role <;> rfl

end Selector

/-- Every rule fills its findings. -/
theorem LintRule.filled_of_mem_findings {rule : LintRule} {text : Text} {options : Options}
    {finding : Finding} (h : finding ∈ rule.findings text options) : finding.Filled := by
  cases rule with
  | classFormat =>
    obtain ⟨stage, hstage⟩ := Selector.exists_stage_of_mem_check h
    exact Selector.filled_of_mem_checkStage hstage
  | noDescendantCombinator =>
    have hstage : finding ∈ (Selector.ofText text).checkStage options .descendant := h
    exact Selector.filled_of_mem_checkStage hstage

end ClassLint
