import ClassLint.Check.Rule
import ClassLint.Proofs.Check.Alike
import ClassLint.Proofs.Selector.Compounds

/-!
# Descendant combinators in the two rules

One rule makes all checks of a selector, the other looks for descendant combinators alone. The first
of all checks is the one for descendant combinators, and what it finds is all that is reported; so
the rules agree on them. Where the combinator comes from is said of the text: two compounds with
white space alone between them.
-/

namespace ClassLint

/-- What stands before a compound: nothing, or text that ends with a separator at top level. -/
def StartsFresh (before : Text) : Prop :=
  before = [] ∨ ∃ outer c, before = outer ++ [c] ∧ c ∈ separators ∧ Nesting.top.LeadsTo outer .top

/-- Two neighbouring compounds of a text with nothing but white space between them. -/
structure Spaced (text before left gap right after : Text) : Prop where
  whole : text = before ++ (left ++ (gap ++ (right ++ after)))
  fresh : StartsFresh before
  leftCompound : IsCompound left
  leftClosed : Nesting.top.LeadsTo left .top
  nonempty : gap ≠ []
  space : ∀ c ∈ gap, Text.isSheetSpace c = true
  rightCompound : IsCompound right
  rightClosed : after ≠ [] → Nesting.top.LeadsTo right .top
  ended : ∀ c ∈ after.head?, c ∈ separators

/-- A text in which white space alone stands between two neighbouring compounds. -/
def SpacedApart (text : Text) : Prop :=
  ∃ before left gap right after, Spaced text before left gap right after

/-- White space separates compounds. -/
theorem mem_separators_of_isSheetSpace {c : Char} (h : Text.isSheetSpace c = true) :
    c ∈ separators :=
  isSeparatorChar_iff.1 (by simp [isSeparatorChar, h])

/-- Behind a gap a compound can start. -/
theorem StartsFresh.of_gap {before gap : Text} (hbefore : Nesting.top.LeadsTo before .top)
    (hne : gap ≠ []) (hgap : ∀ c ∈ gap, c ∈ separators) : StartsFresh (before ++ gap) := by
  obtain ⟨inner, c, rfl⟩ := List.eq_nil_or_concat' gap |>.resolve_left hne
  obtain ⟨hinner, hc⟩ := List.forall_mem_append.1 hgap
  refine Or.inr ⟨before ++ inner, c, (List.append_assoc _ _ _).symm, by simpa using hc, ?_⟩
  exact hbefore.append_iff.2 (leadsTo_of_separators hinner)

/-- Nothing is open where a compound can start. -/
theorem StartsFresh.leadsTo {before : Text} (h : StartsFresh before) :
    Nesting.top.LeadsTo before .top := by
  rcases h with rfl | ⟨outer, c, rfl, hc, houter⟩
  · exact .nil
  · exact houter.append_iff.2 (leadsTo_of_separators (by simpa using hc))

/-- A text that ends with a compound does not end with a separator at top level. -/
theorem IsCompound.not_leadsTo_of_concat {compound before outer : Text} {c : Char}
    (h : IsCompound compound) (hbefore : Nesting.top.LeadsTo before .top)
    (hconcat : before ++ compound = outer ++ [c]) (hc : c ∈ separators) :
    ¬ Nesting.top.LeadsTo outer .top := by
  obtain ⟨hne, -⟩ := isCompound_iff.1 h
  obtain ⟨inner, d, rfl⟩ := (List.eq_nil_or_concat' compound).resolve_left hne
  obtain ⟨rfl, rfl⟩ : before ++ inner = outer ∧ d = c := by
    rw [← List.append_assoc] at hconcat
    simpa using List.append_inj' hconcat rfl
  rw [hbefore.append_iff]
  intro hinner
  rcases h.shielded inner d [] rfl hc with
    ⟨escaped, nesting, rfl, hescaped⟩ | ⟨nesting, hnesting, htop⟩
  · exact hescaped.not_append_backslash hinner
  · exact htop (hnesting.unique hinner)

namespace Links

variable {compound rest tail : Text} {links others : List (Combinator × Text)}

/-- A descendant combinator among the links behind a compound has white space alone before it. -/
theorem spacedApart {before : Text} (h : Links rest links) (hfresh : StartsFresh before)
    (hcompound : IsCompound compound) (hclosed : rest ≠ [] → Nesting.top.LeadsTo compound .top)
    (hdescendant : .descendant ∈ links.map Prod.fst) :
    SpacedApart (before ++ (compound ++ rest)) := by
  induction h generalizing before compound with
  | trail => cases hdescendant
  | @link gap next rest combinator links hne hgap hwritten hnext hended hrest ih =>
    have hleads := hclosed (List.append_ne_nil_of_left_ne_nil hne _)
    rcases List.mem_cons.1 hdescendant with hhere | hlater
    · obtain rfl : combinator = .descendant := hhere.symm
      cases hwritten with
      | symbol _ hwritten => exact absurd rfl hwritten
      | space hspace =>
        exact ⟨before, compound, gap, next, rest, rfl, hfresh, hcompound, hleads, hne, hspace,
          hnext, hended, hrest.head_mem⟩
    · have hbehind : StartsFresh (before ++ compound ++ gap) :=
        .of_gap (hfresh.leadsTo.append_iff.2 hleads) hne hgap
      simpa using ih hbehind hnext hended hlater

/-- Further links may follow those of a text that leaves nothing open and does not end with a
separator. -/
theorem append (h : Links rest links) (hclosed : rest ≠ [] → Nesting.top.LeadsTo compound .top)
    (htop : Nesting.top.LeadsTo (compound ++ rest) .top)
    (hend : ∀ outer c, compound ++ rest = outer ++ [c] → c ∈ separators →
      ¬ Nesting.top.LeadsTo outer .top)
    (htail : Links tail others) : Links (rest ++ tail) (links ++ others) := by
  induction h generalizing compound with
  | @trail gap hgap =>
    rcases List.eq_nil_or_concat' gap with rfl | ⟨inner, c, rfl⟩
    · exact htail
    · obtain ⟨hinner, hc⟩ := List.forall_mem_append.1 hgap
      refine absurd ?_ (hend (compound ++ inner) c (by simp) (by simpa using hc))
      exact (hclosed (by simp)).append_iff.2 (leadsTo_of_separators hinner)
  | @link gap next rest combinator links hne hgap hwritten hnext hended hrest ih =>
    have hbefore : Nesting.top.LeadsTo (compound ++ gap) .top :=
      (hclosed (List.append_ne_nil_of_left_ne_nil hne _)).append_iff.2 (leadsTo_of_separators hgap)
    rw [← List.append_assoc, hbefore.append_iff] at htop
    have hopen : Nesting.top.LeadsTo next .top := by
      by_cases hempty : rest = []
      · rwa [hempty, List.append_nil] at htop
      · exact hended hempty
    rw [List.append_assoc, List.append_assoc]
    refine .link hne hgap hwritten hnext (fun _ => hopen) (ih hended htop fun outer c heq hc => ?_)
    intro houter
    refine hend (compound ++ gap ++ outer) c ?_ hc (hbefore.append_iff.2 houter)
    simp [heq]

end Links

/-- A text with a descendant combinator has two compounds with white space alone between them. -/
theorem Chain.WrittenBy.spacedApart {text : Text} {chain : Chain Text} (h : WrittenBy text chain)
    (hdescendant : .descendant ∈ chain.combinators) : SpacedApart text := by
  obtain ⟨gap, rest, rfl, hgap, hcompound, hclosed, hlinks⟩ := h
  refine hlinks.spacedApart ?_ hcompound hclosed hdescendant
  by_cases hne : gap = []
  · exact Or.inl hne
  · exact StartsFresh.of_gap .nil hne hgap

/-- Links may follow a text that leaves nothing open and does not end with a separator. -/
theorem Chain.WrittenBy.append {text tail : Text} {chain : Chain Text}
    {others : List (Combinator × Text)} (h : WrittenBy text chain)
    (htop : Nesting.top.LeadsTo text .top)
    (hend : ∀ outer c, text = outer ++ [c] → c ∈ separators → ¬ Nesting.top.LeadsTo outer .top)
    (htail : Links tail others) : WrittenBy (text ++ tail) ⟨chain.first, chain.rest ++ others⟩ := by
  obtain ⟨gap, rest, rfl, hgap, hcompound, hclosed, hlinks⟩ := h
  have hleads := leadsTo_of_separators hgap
  rw [hleads.append_iff] at htop
  refine ⟨gap, rest ++ tail, by simp, hgap, hcompound, fun _ => ?_, ?_⟩
  · by_cases hempty : rest = []
    · rwa [hempty, List.append_nil] at htop
    · exact hclosed hempty
  · refine hlinks.append hclosed htop (fun outer c heq hc houter => ?_) htail
    refine hend (gap ++ outer) c ?_ hc (hleads.append_iff.2 houter)
    rw [heq, List.append_assoc]

/-- White space alone between two compounds writes a descendant combinator. -/
theorem SpacedApart.exists_descendant {text : Text} (h : SpacedApart text) :
    ∃ chain, Chain.WrittenBy text chain ∧ .descendant ∈ chain.combinators := by
  obtain ⟨before, left, gap, right, after, rfl, hfresh, hleft, hclosed, hne, hspace, hright, hended,
    hafter⟩ := h
  obtain ⟨c, hc, hstart⟩ := hleft.start
  have hmem : c ∈ before ++ left := List.mem_append_right _ (List.mem_of_mem_head? hc)
  obtain ⟨chain, hchain⟩ := Chain.exists_writtenBy ⟨c, hmem, hstart⟩
  obtain ⟨others, hothers⟩ := exists_links after hafter
  have hgap : ∀ c ∈ gap, c ∈ separators := fun c hc => mem_separators_of_isSheetSpace (hspace c hc)
  have htail : Links (gap ++ (right ++ after)) ((.descendant, right) :: others) :=
    .link hne hgap (.space hspace) hright hended hothers
  have hwritten := hchain.append (hfresh.leadsTo.append_iff.2 hclosed)
    (fun outer c => hleft.not_leadsTo_of_concat hfresh.leadsTo) htail
  rw [List.append_assoc] at hwritten
  exact ⟨_, hwritten, by simp [Chain.combinators]⟩

namespace Selector

/-- A selector has a descendant combinator exactly if its trimmed text has two compounds with white
space alone between them. -/
theorem spacedApart_iff (text : Text) :
    SpacedApart (Text.strip text) ↔ ¬ (ofText text).NoDescendant := by
  have hchain {chain : Chain Text} (h : Chain.WrittenBy (Text.strip text) chain) :
      (ofText text).NoDescendant ↔ .descendant ∉ chain.combinators := by
    rw [ofText_of_writtenBy h, noDescendant_iff, Chain.combinators_map]
  constructor
  · intro h
    obtain ⟨chain, hwritten, hdescendant⟩ := h.exists_descendant
    rw [hchain hwritten, not_not]
    exact hdescendant
  · intro h
    by_cases hseparators : ∀ c ∈ Text.strip text, c ∈ separators
    · rw [ofText_of_separators hseparators] at h
      exact absurd (by simp [NoDescendant, Chain.parts]) h
    · obtain ⟨chain, hwritten⟩ := Chain.exists_writtenBy (by simpa using hseparators)
      rw [hchain hwritten, not_not] at h
      exact hwritten.spacedApart h

variable {selector : Selector} {options : Options}

/-- No other check reports a descendant combinator. -/
theorem kind_ne_of_mem_check {finding : Finding} (h : selector.NoDescendant)
    (hfinding : finding ∈ selector.check options) :
    finding.kind ≠ .unexpectedDescendantCombinator := by
  by_cases hdepth : selector.Shallow options
  · by_cases hcomponents : selector.OneComponentEach options
    · rw [check_of_tokens h hdepth hcomponents] at hfinding
      intro hkind
      have hwhole := isOfWhole_of_mem_checkTokens hfinding
      rw [hkind] at hwhole
      cases hwhole
    · rw [check_of_components h hdepth hcomponents, List.mem_singleton] at hfinding
      rw [hfinding]
      rintro ⟨⟩
  · rw [check_of_depth h hdepth, List.mem_singleton] at hfinding
    rw [hfinding]
    rintro ⟨⟩

end Selector

/-- The two rules agree on descendant combinators. The rule for them alone reports at most one. It
reports one exactly if the rule of all checks does, which then reports nothing else, and the two
diagnostics differ in the name of the rule only. Under all options this happens exactly if white
space alone stands between two neighbouring compounds of the trimmed selector text. -/
theorem rules_agree_on_descendants (source : SelectorSource) (options : Options) :
    let alone := LintRule.noDescendantCombinator.diagnose source options
    let all := LintRule.classFormat.diagnose source options
    (alone = [] ∨ ∃ diagnostic, alone = [diagnostic]) ∧
    (alone ≠ [] ↔
      ∃ diagnostic ∈ all, diagnostic.kind = .unexpectedDescendantCombinator) ∧
    (∀ diagnostic ∈ alone, diagnostic.rule = LintRule.noDescendantCombinator.name ∧
      all = [{ diagnostic with rule := LintRule.classFormat.name }]) ∧
    (alone ≠ [] ↔ SpacedApart (Text.strip source.text)) := by
  intro alone all
  rw [Selector.spacedApart_iff]
  by_cases h : (Selector.ofText source.text).NoDescendant
  · have halone : alone = [] :=
      (LintRule.diagnose_eq_map _ _ _).trans
        (List.map_eq_nil_iff.2 (Selector.checkDescendant_eq_nil_iff.2 h))
    have hall : ¬ ∃ diagnostic ∈ all, diagnostic.kind = .unexpectedDescendantCombinator := by
      rintro ⟨_, hdiagnostic, hkind⟩
      obtain ⟨finding, hfinding, rfl⟩ := LintRule.mem_diagnose_iff.1 hdiagnostic
      exact Selector.kind_ne_of_mem_check h hfinding hkind
    rw [halone]
    exact ⟨Or.inl rfl, iff_of_false (by simp) hall, List.forall_mem_nil _,
      iff_of_false (by simp) (not_not.2 h)⟩
  · have halone : alone = [((Selector.ofText source.text).findingOf
        .unexpectedDescendantCombinator).toDiagnostic LintRule.noDescendantCombinator.name .error
          source.location] :=
      (LintRule.diagnose_eq_map _ _ _).trans (congrArg (List.map _)
        (Selector.eq_singleton_of_ne_nil (mt Selector.checkDescendant_eq_nil_iff.1 h)))
    have hall : all = [((Selector.ofText source.text).findingOf
        .unexpectedDescendantCombinator).toDiagnostic LintRule.classFormat.name .error
          source.location] :=
      (LintRule.diagnose_eq_map _ _ _).trans
        (congrArg (List.map _) (Selector.check_of_descendant h))
    rw [halone, hall]
    refine ⟨Or.inr ⟨_, rfl⟩, iff_of_true (by simp) ⟨_, List.mem_singleton_self _, rfl⟩, ?_,
      iff_of_true (by simp) h⟩
    exact List.forall_mem_singleton.2 ⟨rfl, rfl⟩

/-- A tab and a line feed between two compounds, of which the first has an escaped space and a space
in brackets. -/
theorem rules_agree_on_descendants_line_feed :
    SpacedApart ".a\\ [b c]\t\nd".toList ∧
      ∃ diagnostic,
        LintRule.noDescendantCombinator.diagnose ⟨" .a\\ [b c]\t\nd".toList, ⟨3, 7⟩⟩ {} =
          [diagnostic] ∧
        LintRule.classFormat.diagnose ⟨" .a\\ [b c]\t\nd".toList, ⟨3, 7⟩⟩ {} =
          [{ diagnostic with rule := "class-format".toList }] := by
  obtain ⟨hone, -, hall, hspaced⟩ :=
    rules_agree_on_descendants ⟨" .a\\ [b c]\t\nd".toList, ⟨3, 7⟩⟩ {}
  have hne :
      LintRule.noDescendantCombinator.diagnose ⟨" .a\\ [b c]\t\nd".toList, ⟨3, 7⟩⟩ {} ≠ [] := by
    with_unfolding_all decide
  obtain ⟨diagnostic, hdiagnostic⟩ := hone.resolve_left hne
  exact ⟨hspaced.1 hne, diagnostic, hdiagnostic, (hall diagnostic (by rw [hdiagnostic]; simp)).2⟩

end ClassLint
