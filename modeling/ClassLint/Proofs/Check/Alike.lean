import ClassLint.Proofs.Check.Stages

/-!
# What the checks read of a selector

The checks read the combinators of a selector and the class tokens of its compounds. Of the texts
they only repeat the selector's own, in the findings about the selector as a whole. So selectors
with the same combinators and tokens are reported for the same kinds of violations, and for the same
violations if there is none of the selector as a whole.
-/

namespace ClassLint

namespace Chain

variable {α β : Type}

/-- Applying a function to the items of a chain leaves its combinators as they are. -/
@[simp] theorem combinators_map (f : α → β) (chain : Chain α) :
    (chain.map f).combinators = chain.combinators := by
  rw [combinators, combinators, map, List.map_map]
  rfl

/-- The items of a chain are those before the function was applied, with it applied. -/
@[simp] theorem items_map (f : α → β) (chain : Chain α) :
    (chain.map f).items = chain.items.map f := by
  simp [items, map]

/-- Applying a function to the items of a chain leaves its levels as they are. -/
@[simp] theorem levels_map (f : α → β) (chain : Chain α) :
    (chain.map f).levels = chain.levels := by
  rw [levels, combinators_map, levels]

/-- Applying a function to the items of a chain leaves its depth as it is. -/
@[simp] theorem depth_map (f : α → β) (chain : Chain α) : (chain.map f).depth = chain.depth := by
  rw [depth, combinators_map, depth]

/-- The items of a chain keep their levels when a function is applied to them. -/
theorem leveled_map (f : α → β) (chain : Chain α) :
    (chain.map f).leveled = chain.leveled.map (Prod.map id f) := by
  rw [leveled, levels_map, items_map, leveled, List.zip_map_right]

end Chain

namespace Selector

/-- A selector of which nothing is reported as a whole: it has no descendant combinator, and no
compound that is too deep or has two components. -/
structure WellShaped (selector : Selector) (options : Options) : Prop where
  noDescendant : selector.NoDescendant
  shallow : selector.Shallow options
  oneComponentEach : selector.OneComponentEach options

section

variable {selector : Selector} {options : Options}

/-- Of a well-shaped selector the invalid tokens are reported. -/
theorem WellShaped.check_eq (h : selector.WellShaped options) :
    selector.check options = selector.checkTokens options :=
  check_of_tokens h.noDescendant h.shallow h.oneComponentEach

/-- Of any other selector one violation of it as a whole is reported. -/
theorem exists_check_eq_of_not_wellShaped (h : ¬ selector.WellShaped options) :
    ∃ finding, finding.kind.isOfWhole = true ∧ selector.check options = [finding] := by
  by_cases hdescendant : selector.NoDescendant
  swap
  · exact ⟨_, rfl, check_of_descendant hdescendant⟩
  by_cases hdepth : selector.Shallow options
  swap
  · exact ⟨_, rfl, check_of_depth hdescendant hdepth⟩
  · exact ⟨_, rfl, check_of_components hdescendant hdepth fun hone =>
      h ⟨hdescendant, hdepth, hone⟩⟩

end

/-- Selectors with the same combinators and the same class tokens in each compound. -/
def Alike (first second : Selector) : Prop :=
  first.chain.map Compound.tokens = second.chain.map Compound.tokens

namespace Alike

variable {first second : Selector} {options : Options}

/-- Alike selectors have as many compounds, joined by the same combinators, on the same levels and
with the same tokens. -/
theorem chain_eq (h : Alike first second) :
    first.chain.items.length = second.chain.items.length ∧
      first.chain.combinators = second.chain.combinators ∧
      first.chain.levels = second.chain.levels ∧ first.chain.depth = second.chain.depth ∧
      first.chain.items.map Compound.tokens = second.chain.items.map Compound.tokens := by
  have hitems := congrArg Chain.items h
  have hcombinators := congrArg Chain.combinators h
  have hlevels := congrArg Chain.levels h
  have hdepth := congrArg Chain.depth h
  simp only [Chain.items_map, Chain.combinators_map, Chain.levels_map, Chain.depth_map] at *
  exact ⟨by simpa using congrArg List.length hitems, hcombinators, hlevels, hdepth, hitems⟩

/-- The tokens of alike selectors stand on the same levels. -/
theorem leveled_eq (h : Alike first second) :
    first.chain.leveled.map (Prod.map id Compound.tokens) =
      second.chain.leveled.map (Prod.map id Compound.tokens) := by
  rw [← Chain.leveled_map, ← Chain.leveled_map, h]

/-- Every token of alike selectors is judged alike. -/
theorem checkTokens_eq (h : Alike first second) :
    first.checkTokens options = second.checkTokens options := by
  have htokens (selector : Selector) : selector.checkTokens options =
      (selector.chain.leveled.map (Prod.map id Compound.tokens)).flatMap fun (level, tokens) =>
        tokens.filterMap (tokenFinding? options level) := by
    rw [checkTokens, List.flatMap_map]
    rfl
  rw [htokens, htokens, h.leveled_eq]

/-- Each check finds the same kinds of violations in alike selectors. -/
theorem map_kind_checkStage (h : Alike first second) (stage : Stage) :
    (first.checkStage options stage).map Finding.kind =
      (second.checkStage options stage).map Finding.kind := by
  obtain ⟨-, hcombinators, -, hdepth, -⟩ := h.chain_eq
  cases stage with
  | descendant =>
    rw [checkStage, checkStage, checkDescendant, checkDescendant, Chain.hasDescendant,
      Chain.hasDescendant, hcombinators]
    split <;> rfl
  | depth =>
    rw [checkStage, checkStage, checkDepth, checkDepth, hdepth]
    split <;> rfl
  | multiComponent =>
    have htwo (selector : Selector) :
        (selector.chain.leveled.any fun entry => namesTwoComponents options entry.1 entry.2) =
        (selector.chain.leveled.map (Prod.map id Compound.tokens)).any fun entry =>
          entry.2.countP (countsAsComponent options entry.1) > 1 := by
      rw [List.any_map]
      rfl
    rw [checkStage, checkStage, checkMultiComponent, checkMultiComponent, htwo, htwo, h.leveled_eq]
    split <;> rfl
  | tokens => rw [checkStage, checkStage, h.checkTokens_eq]

/-- Alike selectors are reported for the same kinds of violations. -/
theorem map_kind_check (h : Alike first second) :
    (first.check options).map Finding.kind = (second.check options).map Finding.kind := by
  have hempty (stage : Stage) : (first.checkStage options stage).isEmpty =
      (second.checkStage options stage).isEmpty := by
    rw [← List.isEmpty_map (f := Finding.kind), h.map_kind_checkStage, List.isEmpty_map]
  rw [check, check]
  simp only [hempty]
  cases Stage.all.find? fun stage => !(second.checkStage options stage).isEmpty with
  | none => rfl
  | some stage => exact h.map_kind_checkStage stage

/-- What is well shaped is well shaped in every selector that is alike. -/
theorem wellShaped (h : Alike first second) (hfirst : first.WellShaped options) :
    second.WellShaped options := by
  have hnone (stage : Stage) (hstage : first.checkStage options stage = []) :
      second.checkStage options stage = [] := by
    rw [← List.map_eq_nil_iff (f := Finding.kind), ← h.map_kind_checkStage, hstage]
    rfl
  exact ⟨checkDescendant_eq_nil_iff.1 (hnone .descendant
      (checkDescendant_eq_nil_iff.2 hfirst.noDescendant)),
    checkDepth_eq_nil_iff.1 (hnone .depth (checkDepth_eq_nil_iff.2 hfirst.shallow)),
    checkMultiComponent_eq_nil_iff.1 (hnone .multiComponent
      (checkMultiComponent_eq_nil_iff.2 hfirst.oneComponentEach))⟩

/-- Alike selectors that are well shaped are reported for the same tokens. -/
theorem check_eq (h : Alike first second) (hfirst : first.WellShaped options) :
    first.check options = second.check options := by
  rw [hfirst.check_eq, (h.wellShaped hfirst).check_eq, h.checkTokens_eq]

end Alike

end Selector

end ClassLint
