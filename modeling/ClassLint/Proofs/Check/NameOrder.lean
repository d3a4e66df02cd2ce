import ClassLint.Proofs.Check.Alike
import Mathlib.Data.List.Perm.Basic

/-!
# The order of class names in a compound

The components that a compound names are counted over its tokens, and a token is judged by its name
and the level of its compound alone. So the tokens of a compound can stand in any order: what is
reported of the selector as a whole stays the same, and the reports of invalid names follow the
names, compound by compound.
-/

namespace ClassLint

/-- Of rows that are related place by place, every item of one is related to an item of the other. -/
theorem exists_mem_of_forall₂ {α β : Type} {R : α → β → Prop} {items : List α} {others : List β}
    (h : List.Forall₂ R items others) {other : β} (hother : other ∈ others) :
    ∃ item ∈ items, R item other := by
  induction h with
  | nil => cases hother
  | @cons item _ items _ hrelated _ ih =>
    rcases List.mem_cons.1 hother with rfl | hrest
    · exact ⟨item, List.mem_cons_self, hrelated⟩
    · obtain ⟨found, hfound, hrelated⟩ := ih hrest
      exact ⟨found, List.mem_cons_of_mem _ hfound, hrelated⟩

/-- Items that are related place by place and joined by the same combinators stand on the same
levels. -/
theorem Chain.forall₂_leveled {α β : Type} {R : α → β → Prop} {chain : Chain α} {other : Chain β}
    (hcombinators : chain.combinators = other.combinators)
    (hitems : List.Forall₂ R chain.items other.items) :
    List.Forall₂ (fun entry related => entry.1 = related.1 ∧ R entry.2 related.2)
      chain.leveled other.leveled := by
  have hlevels : chain.levels = other.levels := by rw [levels, hcombinators, levels]
  rw [leveled, leveled, hlevels]
  -- induction on the related items, with the levels that are left for them
  generalize other.levels = levels, chain.items = items, other.items = others at hitems
  induction hitems generalizing levels with
  | nil => simp
  | cons hitem _ ih =>
    cases levels with
    | nil => exact .nil
    | cons level levels => exact .cons ⟨rfl, hitem⟩ (ih levels)

namespace Selector

/-- Selectors with the same text and the same combinators, and in each compound the same tokens in
any order. -/
structure Reordered (first second : Selector) : Prop where
  text_eq : first.text = second.text
  combinators_eq : first.chain.combinators = second.chain.combinators
  tokens_perm : List.Forall₂ (fun compound other => compound.tokens.Perm other.tokens)
    first.chain.items second.chain.items

/-- One violation of the selector as a whole is all that is reported. -/
def ReportedAsWhole (selector : Selector) (options : Options) : Prop :=
  ∃ finding, finding.kind.isOfWhole = true ∧ selector.check options = [finding]

/-- The findings for the tokens of a compound whose names do not fit, in the order of the tokens. -/
def compoundFindings (options : Options) (level : Nat) (compound : Compound) : List Finding :=
  (compound.tokens.filter fun token => !(token.classify level options).valid).map
    (invalidToken options level)

/-- The findings for the tokens of each compound, in the order of the compounds. -/
def findingBlocks (selector : Selector) (options : Options) : List (List Finding) :=
  selector.chain.leveled.map fun (level, compound) => compoundFindings options level compound

variable {selector first second : Selector} {options : Options}

/-- The last check reports block by block. -/
theorem checkTokens_eq_flatten :
    selector.checkTokens options = (selector.findingBlocks options).flatten := by
  simp only [checkTokens, findingBlocks, compoundFindings, filterMap_tokenFinding?,
    List.flatMap_def]

/-- A selector is reported as a whole exactly if it is not well shaped. -/
theorem reportedAsWhole_iff : selector.ReportedAsWhole options ↔ ¬ selector.WellShaped options := by
  constructor
  · rintro ⟨finding, hkind, hcheck⟩ hshaped
    have hmem : finding ∈ selector.checkTokens options := by
      rw [← hshaped.check_eq, hcheck]
      exact List.mem_singleton_self _
    rw [isOfWhole_of_mem_checkTokens hmem] at hkind
    cases hkind
  · exact exists_check_eq_of_not_wellShaped

/-- Reordering the tokens of a compound reorders its findings. -/
theorem compoundFindings_perm {compound other : Compound} (h : compound.tokens.Perm other.tokens)
    (level : Nat) :
    (compoundFindings options level compound).Perm (compoundFindings options level other) :=
  (h.filter _).map _

/-- Two tokens that name a component are two in any order. -/
theorem pairwise_namesComponent_iff {compound other : Compound}
    (h : compound.tokens.Perm other.tokens) (level : Nat) :
    (compound.tokens.Pairwise fun a b =>
        ¬ (NamesComponent options level a ∧ NamesComponent options level b)) ↔
      other.tokens.Pairwise fun a b =>
        ¬ (NamesComponent options level a ∧ NamesComponent options level b) :=
  h.pairwise_iff fun hnot hboth => hnot hboth.symm

namespace Reordered

/-- Each of two reordered selectors is the other one reordered. -/
theorem symm (h : Reordered first second) : Reordered second first where
  text_eq := h.text_eq.symm
  combinators_eq := h.combinators_eq.symm
  tokens_perm := (h.tokens_perm.imp fun _ _ hperm => hperm.symm).flip

/-- The compounds of reordered selectors stand on the same levels. -/
theorem forall₂_leveled (h : Reordered first second) :
    List.Forall₂ (fun entry other => entry.1 = other.1 ∧ entry.2.tokens.Perm other.2.tokens)
      first.chain.leveled second.chain.leveled :=
  Chain.forall₂_leveled h.combinators_eq h.tokens_perm

/-- The findings of each compound are reordered. -/
theorem forall₂_findingBlocks (h : Reordered first second) (options : Options) :
    List.Forall₂ List.Perm (first.findingBlocks options) (second.findingBlocks options) := by
  rw [findingBlocks, findingBlocks, List.forall₂_map_left_iff, List.forall₂_map_right_iff]
  refine h.forall₂_leveled.imp ?_
  rintro ⟨level, compound⟩ ⟨_, other⟩ ⟨rfl, hperm⟩
  exact compoundFindings_perm hperm level

/-- No descendant combinator comes up with another order. -/
theorem noDescendant (h : Reordered first second) (hfirst : first.NoDescendant) :
    second.NoDescendant := by
  rw [noDescendant_iff] at hfirst ⊢
  rw [← h.combinators_eq]
  exact hfirst

/-- No compound gets too deep with another order. -/
theorem shallow (h : Reordered first second) (hfirst : first.Shallow options) :
    second.Shallow options := by
  rw [Shallow, ← Chain.depth_le_iff, Chain.depth] at hfirst ⊢
  rw [← h.combinators_eq]
  exact hfirst

/-- No second component comes up with another order. -/
theorem oneComponentEach (h : Reordered first second) (hfirst : first.OneComponentEach options) :
    second.OneComponentEach options := by
  intro level compound hcompound
  obtain ⟨⟨_, other⟩, hother, rfl, hperm⟩ := exists_mem_of_forall₂ h.forall₂_leveled hcompound
  exact (pairwise_namesComponent_iff hperm _).1 (hfirst _ other hother)

/-- Of selectors that are not well shaped the same is reported, for they fail the same condition
first. -/
theorem check_eq (h : Reordered first second) (hfirst : ¬ first.WellShaped options) :
    second.check options = first.check options := by
  by_cases hdescendant : first.NoDescendant
  swap
  · rw [check_of_descendant hdescendant, check_of_descendant (mt h.symm.noDescendant hdescendant),
      h.text_eq]
  have hdescendant' := h.noDescendant hdescendant
  by_cases hdepth : first.Shallow options
  swap
  · rw [check_of_depth hdescendant hdepth, check_of_depth hdescendant' (mt h.symm.shallow hdepth),
      h.text_eq]
  have hone : ¬ first.OneComponentEach options := fun hone => hfirst ⟨hdescendant, hdepth, hone⟩
  rw [check_of_components hdescendant hdepth hone,
    check_of_components hdescendant' (h.shallow hdepth) (mt h.symm.oneComponentEach hone), h.text_eq]

/-- What is well shaped is well shaped in every order. -/
theorem wellShaped (h : Reordered first second) (hfirst : first.WellShaped options) :
    second.WellShaped options :=
  ⟨h.noDescendant hfirst.noDescendant, h.shallow hfirst.shallow,
    h.oneComponentEach hfirst.oneComponentEach⟩

/-- Reordered selectors that are well shaped are reported for the same tokens in any order. -/
theorem check_perm (h : Reordered first second) (hfirst : first.WellShaped options) :
    (first.check options).Perm (second.check options) := by
  rw [hfirst.check_eq, (h.wellShaped hfirst).check_eq, checkTokens_eq_flatten,
    checkTokens_eq_flatten]
  exact List.Perm.flatten_congr (h.forall₂_findingBlocks options)

end Reordered

/-- The order of class names in a compound does not matter. Take two selectors with the same text
and the same combinators, whose compounds have the same class tokens in any order. If a violation of
the first as a whole is reported, or nothing, then the same is reported of the second; there is such
a violation exactly if the selector has a descendant combinator, a compound that is too deep or one
with two components. Else both are reported for the invalid names of each compound in turn, and only
findings of one compound can stand in another order. -/
theorem name_order_irrelevant (h : Reordered first second) (options : Options) :
    (first.ReportedAsWhole options ↔ ¬ first.WellShaped options) ∧
    (first.ReportedAsWhole options ∨ first.check options = [] →
      second.check options = first.check options) ∧
    (¬ first.ReportedAsWhole options →
      first.check options = (first.findingBlocks options).flatten ∧
      second.check options = (second.findingBlocks options).flatten ∧
      List.Forall₂ List.Perm (first.findingBlocks options) (second.findingBlocks options)) := by
  refine ⟨reportedAsWhole_iff, ?_, fun hwhole => ?_⟩
  · rintro (hwhole | hnone)
    · exact h.check_eq (reportedAsWhole_iff.1 hwhole)
    · by_cases hshaped : first.WellShaped options
      · -- no other list has the members of the empty one
        have hperm := h.check_perm hshaped
        rw [hnone] at hperm ⊢
        exact hperm.nil_eq.symm
      · exact h.check_eq hshaped
  · have hshaped : first.WellShaped options := by simpa using mt reportedAsWhole_iff.2 hwhole
    exact ⟨hshaped.check_eq.trans checkTokens_eq_flatten,
      (h.wellShaped hshaped).check_eq.trans checkTokens_eq_flatten, h.forall₂_findingBlocks options⟩

/-- A repeated name, one on the whitelist and a helper word in the outer compound, and two invalid
names in the inner one; then two components in a compound, of which one is on the whitelist. -/
theorem name_order_irrelevant_duplicates :
    let options : Options := { whitelist := ["app"] }
    let first := ofText ".X.app.left.X>.B.c.-V".toList
    let second := { ofText ".left.X.app.X>.-V.B.c".toList with text := first.text }
    let double := ofText ".app.X.a-b".toList
    let other := { ofText ".a-b.app.X".toList with text := double.text }
    (Reordered first second ∧
      first.check options =
        [⟨.invalidComponentName, [("selector", ".X".toList)]⟩,
          ⟨.invalidHelperName, [("selector", ".left".toList)]⟩,
          ⟨.invalidComponentName, [("selector", ".X".toList)]⟩,
          ⟨.invalidElementName, [("selector", ".B".toList)]⟩,
          ⟨.invalidVariantName, [("selector", ".-V".toList)]⟩] ∧
      second.check options =
        [⟨.invalidHelperName, [("selector", ".left".toList)]⟩,
          ⟨.invalidComponentName, [("selector", ".X".toList)]⟩,
          ⟨.invalidComponentName, [("selector", ".X".toList)]⟩,
          ⟨.invalidVariantName, [("selector", ".-V".toList)]⟩,
          ⟨.invalidElementName, [("selector", ".B".toList)]⟩]) ∧
    Reordered double other ∧ other.check options = double.check options ∧
      double.check options = [⟨.onlyOneComponentName, [("selector", ".app.X.a-b".toList)]⟩] := by
  intro options first second double other
  have hnames : Reordered first second := by
    refine ⟨rfl, by with_unfolding_all decide, ?_⟩
    exact .cons (by with_unfolding_all decide) (.cons (by with_unfolding_all decide) .nil)
  have hshaped : first.WellShaped options :=
    ⟨checkDescendant_eq_nil_iff.1 (by with_unfolding_all rfl),
      checkDepth_eq_nil_iff.1 (by with_unfolding_all rfl),
      checkMultiComponent_eq_nil_iff.1 (by with_unfolding_all rfl)⟩
  obtain ⟨hwhole, -, hblocks⟩ := name_order_irrelevant hnames options
  obtain ⟨hfirst, hsecond, -⟩ := hblocks fun hreported => hwhole.1 hreported hshaped
  have hdouble : Reordered double other := by
    refine ⟨rfl, by with_unfolding_all decide, ?_⟩
    exact .cons (by with_unfolding_all decide) .nil
  have hreported : double.ReportedAsWhole options := ⟨_, rfl, by with_unfolding_all rfl⟩
  refine ⟨⟨hnames, hfirst.trans ?_, hsecond.trans ?_⟩, hdouble,
    (name_order_irrelevant hdouble options).2.1 (.inl hreported), ?_⟩
  · with_unfolding_all rfl
  · with_unfolding_all rfl
  · with_unfolding_all rfl

end Selector

end ClassLint
