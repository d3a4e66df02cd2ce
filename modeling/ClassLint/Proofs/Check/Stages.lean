import ClassLint.Check.Stage
import Mathlib.Data.List.Basic

/-!
# What a selector is reported for

The conditions that the checks stand for, each said of the selector's parts without the check: no
descendant combinator, no compound too deep, no compound with two components, no token with a name
that does not fit. A selector without findings meets them all; of any other, the first condition
that fails decides what is reported.
-/

namespace ClassLint

namespace Chain

variable {α : Type}

/-- The last of the levels that combinators lead to counts the child combinators. -/
theorem getLast?_levelsFrom (level : Nat) (combinators : List Combinator) :
    (level :: levelsFrom level combinators).getLast? =
      some (level + combinators.count .child) := by
  induction combinators generalizing level with
  | nil => rfl
  | cons combinator rest ih =>
    rw [levelsFrom, List.getLast?_cons_cons, ih, List.count_cons]
    by_cases hchild : combinator = .child
    · simp [hchild]
      omega
    · simp [hchild]

/-- No level is above the last one. -/
theorem le_of_mem_levelsFrom {level reached : Nat} {combinators : List Combinator}
    (h : reached ∈ level :: levelsFrom level combinators) :
    reached ≤ level + combinators.count .child := by
  induction combinators generalizing level with
  | nil =>
    rw [List.mem_singleton.1 h]
    exact Nat.le_refl _
  | cons combinator rest ih =>
    rcases List.mem_cons.1 h with rfl | hrest
    · exact Nat.le_add_right _ _
    · have hbound := ih hrest
      rw [List.count_cons]
      by_cases hchild : combinator = .child
      · simp only [hchild, if_true, BEq.rfl] at hbound ⊢
        omega
      · simp only [hchild, if_false] at hbound
        omega

/-- The depth of a chain is one more than the level of its last item. -/
theorem depth_eq_last_level (chain : Chain α) :
    ∃ level ∈ chain.levels.getLast?, chain.depth = level + 1 := by
  refine ⟨chain.combinators.count .child, ?_, rfl⟩
  rw [levels, getLast?_levelsFrom, Nat.zero_add]
  rfl

/-- The depth of a chain bounds the levels of its items. -/
theorem depth_le_iff (chain : Chain α) (bound : Nat) :
    chain.depth ≤ bound ↔ ∀ level ∈ chain.levels, level < bound := by
  constructor
  · intro h level hlevel
    have hreached := le_of_mem_levelsFrom hlevel
    rw [depth] at h
    omega
  · intro h
    obtain ⟨level, hlevel, hdepth⟩ := chain.depth_eq_last_level
    rw [hdepth]
    exact h level (List.mem_of_mem_getLast? hlevel)

end Chain

/-- The kinds of violations of a selector as a whole. -/
def Kind.isOfWhole : Kind → Bool
  | .unexpectedDescendantCombinator | .maxDepthExceeded | .onlyOneComponentName => true
  | _ => false

/-- A name that does not fit its role is no violation of the selector as a whole. -/
theorem Role.isOfWhole_invalidName (role : Role) : role.invalidName.isOfWhole = false := by
  cases role <;> rfl

namespace Selector

/-- No compound is joined to the one before it by a descendant combinator. -/
def NoDescendant (selector : Selector) : Prop :=
  ∀ part ∈ selector.chain.parts, part.1 ≠ some .descendant

/-- The level of every compound is below the allowed depth. -/
def Shallow (selector : Selector) (options : Options) : Prop :=
  ∀ level ∈ selector.chain.levels, level < options.maxDepth

/-- A token is a valid component at a level. If names on the whitelist do not count, the component
format itself accepts it. -/
def NamesComponent (options : Options) (level : Nat) (token : ClassToken) : Prop :=
  token.classify level options = ⟨.component, true⟩ ∧
    (options.whitelistCounts = false → options.formats.component.fits token.name = true)

/-- No compound has two tokens that name a component. -/
def OneComponentEach (selector : Selector) (options : Options) : Prop :=
  ∀ level compound, (level, compound) ∈ selector.chain.leveled →
    compound.tokens.Pairwise fun a b =>
      ¬ (NamesComponent options level a ∧ NamesComponent options level b)

/-- The tokens of a selector from left to right, each with the level of its compound. -/
def leveledTokens (selector : Selector) : List (Nat × ClassToken) :=
  selector.chain.leveled.flatMap fun (level, compound) => compound.tokens.map (level, ·)

/-- Every token's name fits its role. -/
def AllValid (selector : Selector) (options : Options) : Prop :=
  ∀ level token, (level, token) ∈ selector.leveledTokens → (token.classify level options).valid = true

/-- The finding for a token at a level whose name does not fit its role. -/
def invalidToken (options : Options) (level : Nat) (token : ClassToken) : Finding :=
  ⟨(token.classify level options).role.invalidName, [("selector", '.' :: token.name)]⟩

variable {selector : Selector} {options : Options}

/-- The combinator before a compound is one of the selector's combinators. -/
theorem noDescendant_iff : selector.NoDescendant ↔ .descendant ∉ selector.chain.combinators := by
  rw [NoDescendant, Chain.parts, List.forall_mem_cons, List.forall_mem_map]
  constructor
  · rintro ⟨-, hrest⟩ hdescendant
    obtain ⟨part, hpart, hcombinator⟩ := List.mem_map.1 hdescendant
    exact hrest part hpart (congrArg some hcombinator)
  · refine fun hnone => ⟨nofun, fun part hpart hcombinator => hnone ?_⟩
    exact List.mem_map.2 ⟨part, hpart, Option.some.inj hcombinator⟩

/-- The descendant combinators of a selector are reported once. -/
theorem checkDescendant_eq_nil_iff : selector.checkDescendant = [] ↔ selector.NoDescendant := by
  rw [checkDescendant, noDescendant_iff, Chain.hasDescendant]
  simp

/-- A selector that is too deep has a compound that is. -/
theorem checkDepth_eq_nil_iff : selector.checkDepth options = [] ↔ selector.Shallow options := by
  rw [Shallow, ← Chain.depth_le_iff, checkDepth]
  split
  · exact iff_of_false (by simp) (by omega)
  · exact iff_of_true rfl (by omega)

/-- Counting a token as a component is finding that it names one. -/
theorem countsAsComponent_iff {level : Nat} {token : ClassToken} :
    countsAsComponent options level token = true ↔ NamesComponent options level token := by
  rw [countsAsComponent, NamesComponent, Bool.and_eq_true, beq_iff_eq, Bool.or_eq_true,
    ← Bool.not_eq_true, or_iff_not_imp_left]

/-- At most one of some items is counted exactly if no two of them are. -/
theorem countP_le_one_iff {α : Type} {p : α → Bool} {items : List α} :
    items.countP p ≤ 1 ↔ items.Pairwise fun a b => ¬ (p a = true ∧ p b = true) := by
  induction items with
  | nil => simp
  | cons item rest ih =>
    rw [List.countP_cons, List.pairwise_cons, ← ih]
    by_cases hitem : p item = true
    · have hnone : rest.countP p = 0 ↔ ∀ other ∈ rest, ¬ (p item = true ∧ p other = true) := by
        rw [List.countP_eq_zero]
        simp [hitem]
      rw [if_pos hitem, ← hnone]
      omega
    · simp [hitem]

/-- A selector with two components in a compound is reported once. -/
theorem checkMultiComponent_eq_nil_iff :
    selector.checkMultiComponent options = [] ↔ selector.OneComponentEach options := by
  have hcompound (level : Nat) (compound : Compound) :
      namesTwoComponents options level compound = false ↔
        compound.tokens.Pairwise fun a b =>
          ¬ (NamesComponent options level a ∧ NamesComponent options level b) := by
    simp only [namesTwoComponents, ← countsAsComponent_iff, ← countP_le_one_iff,
      decide_eq_false_iff_not, Nat.not_lt]
  rw [checkMultiComponent, OneComponentEach]
  simp only [← hcompound]
  split
  · rename_i h
    obtain ⟨⟨level, compound⟩, hmem, htwo⟩ := List.any_eq_true.1 h
    refine iff_of_false (by simp) fun hnone => ?_
    rw [hnone level compound hmem] at htwo
    cases htwo
  · rename_i h
    refine iff_of_true rfl fun level compound hmem => ?_
    by_contra htwo
    exact h (List.any_eq_true.2 ⟨(level, compound), hmem, by simpa using htwo⟩)

/-- Keeping what is made of the items that fail a test is making it of the items that fail. -/
theorem filterMap_ite {α β : Type} (p : α → Bool) (f : α → β) (items : List α) :
    (items.filterMap fun item => if p item then none else some (f item)) =
      (items.filter (!p ·)).map f := by
  induction items with
  | nil => rfl
  | cons item rest ih =>
    rw [List.filterMap_cons, List.filter_cons, ih]
    cases p item <;> rfl

/-- Of the tokens of a compound those that are not valid are reported. -/
theorem filterMap_tokenFinding? (level : Nat) (tokens : List ClassToken) :
    tokens.filterMap (tokenFinding? options level) =
      (tokens.filter fun token => !(token.classify level options).valid).map
        (invalidToken options level) :=
  filterMap_ite (fun token : ClassToken => (token.classify level options).valid) _ tokens

/-- The last check reports every token that is not valid, from left to right. -/
theorem checkTokens_eq :
    selector.checkTokens options =
      (selector.leveledTokens.filter fun (level, token) =>
        !(token.classify level options).valid).map fun (level, token) =>
          invalidToken options level token := by
  have hcompound (level : Nat) (tokens : List ClassToken) :
      tokens.filterMap (tokenFinding? options level) =
        ((tokens.map (level, ·)).filter fun (level, token) =>
          !(token.classify level options).valid).map fun (level, token) =>
            invalidToken options level token := by
    rw [List.filter_map, List.map_map]
    exact filterMap_tokenFinding? level tokens
  rw [checkTokens, leveledTokens, List.filter_flatMap, List.map_flatMap]
  simp only [hcompound]

/-- The last check reports nothing of the selector as a whole. -/
theorem isOfWhole_of_mem_checkTokens {finding : Finding}
    (h : finding ∈ selector.checkTokens options) : finding.kind.isOfWhole = false := by
  rw [checkTokens_eq] at h
  obtain ⟨entry, -, rfl⟩ := List.mem_map.1 h
  exact Role.isOfWhole_invalidName _

/-- Without an invalid token nothing is left to report. -/
theorem checkTokens_eq_nil_iff : selector.checkTokens options = [] ↔ selector.AllValid options := by
  rw [checkTokens_eq, List.map_eq_nil_iff, List.filter_eq_nil_iff, AllValid]
  simp

/-- Behind checks that find nothing, the next check decides: it finds something, or it is the
last. -/
theorem check_eq_checkStage {before after : List Stage} {stage : Stage}
    (hall : Stage.all = before ++ stage :: after)
    (hbefore : ∀ earlier ∈ before, selector.checkStage options earlier = [])
    (hdecides : selector.checkStage options stage ≠ [] ∨ after = []) :
    selector.check options = selector.checkStage options stage := by
  have hnone : (before.find? fun earlier => !(selector.checkStage options earlier).isEmpty) = none := by
    refine List.find?_eq_none.2 fun earlier hearlier => ?_
    simp [hbefore earlier hearlier]
  rw [check, hall, List.find?_append, hnone, Option.none_or, List.find?_cons]
  by_cases hfound : selector.checkStage options stage = []
  · rw [hdecides.resolve_left (not_not.2 hfound), hfound]
    rfl
  · rw [Bool.eq_false_iff.2 (List.isEmpty_iff.not.2 hfound)]
    rfl

/-- What is reported at most once is reported once if at all. -/
theorem eq_singleton_of_ne_nil {α : Type} {c : Prop} [Decidable c] {item : α}
    (h : (if c then [item] else []) ≠ []) : (if c then [item] else []) = [item] := by
  split
  · rfl
  · rename_i hc
    exact absurd (if_neg hc) h

/-- A descendant combinator is all that is reported. -/
theorem check_of_descendant (h : ¬ selector.NoDescendant) :
    selector.check options = [⟨.unexpectedDescendantCombinator, [("selector", selector.text)]⟩] := by
  have hfound : selector.checkStage options .descendant ≠ [] := mt checkDescendant_eq_nil_iff.1 h
  rw [check_eq_checkStage rfl (List.forall_mem_nil _) (Or.inl hfound)]
  exact eq_singleton_of_ne_nil hfound

/-- Without descendant combinators, a compound that is too deep is all that is reported. -/
theorem check_of_depth (hdescendant : selector.NoDescendant) (h : ¬ selector.Shallow options) :
    selector.check options =
      [⟨.maxDepthExceeded,
        [("selector", selector.text), ("maxDepth", Text.ofNat options.maxDepth)]⟩] := by
  have hfound : selector.checkStage options .depth ≠ [] := mt checkDepth_eq_nil_iff.1 h
  have hbefore : ∀ stage ∈ [Stage.descendant], selector.checkStage options stage = [] :=
    List.forall_mem_singleton.2 (checkDescendant_eq_nil_iff.2 hdescendant)
  rw [check_eq_checkStage rfl hbefore (Or.inl hfound)]
  exact eq_singleton_of_ne_nil hfound

/-- In a selector without descendant combinators that is not too deep, a compound with two
components is all that is reported. -/
theorem check_of_components (hdescendant : selector.NoDescendant) (hdepth : selector.Shallow options)
    (h : ¬ selector.OneComponentEach options) :
    selector.check options = [⟨.onlyOneComponentName, [("selector", selector.text)]⟩] := by
  have hfound : selector.checkStage options .multiComponent ≠ [] :=
    mt checkMultiComponent_eq_nil_iff.1 h
  have hbefore : ∀ stage ∈ [Stage.descendant, .depth], selector.checkStage options stage = [] :=
    List.forall_mem_cons.2 ⟨checkDescendant_eq_nil_iff.2 hdescendant,
      List.forall_mem_singleton.2 (checkDepth_eq_nil_iff.2 hdepth)⟩
  rw [check_eq_checkStage rfl hbefore (Or.inl hfound)]
  exact eq_singleton_of_ne_nil hfound

/-- In a selector that passes the first three checks, the invalid tokens are reported. -/
theorem check_of_tokens (hdescendant : selector.NoDescendant) (hdepth : selector.Shallow options)
    (hcomponents : selector.OneComponentEach options) :
    selector.check options = selector.checkTokens options := by
  have hbefore : ∀ stage ∈ [Stage.descendant, .depth, .multiComponent],
      selector.checkStage options stage = [] :=
    List.forall_mem_cons.2 ⟨checkDescendant_eq_nil_iff.2 hdescendant,
      List.forall_mem_cons.2 ⟨checkDepth_eq_nil_iff.2 hdepth,
        List.forall_mem_singleton.2 (checkMultiComponent_eq_nil_iff.2 hcomponents)⟩⟩
  exact check_eq_checkStage rfl hbefore (Or.inr rfl)

/-- Nothing is reported exactly if all conditions hold. -/
theorem check_eq_nil_iff :
    selector.check options = [] ↔ selector.NoDescendant ∧ selector.Shallow options ∧
      selector.OneComponentEach options ∧ selector.AllValid options := by
  by_cases hdescendant : selector.NoDescendant
  · by_cases hdepth : selector.Shallow options
    · by_cases hcomponents : selector.OneComponentEach options
      · rw [check_of_tokens hdescendant hdepth hcomponents, checkTokens_eq_nil_iff]
        simp [hdescendant, hdepth, hcomponents]
      · simp [check_of_components hdescendant hdepth hcomponents, hcomponents]
    · simp [check_of_depth hdescendant hdepth, hdepth]
  · simp [check_of_descendant hdescendant, hdescendant]

end Selector

/-- The checks of a selector are sound and complete, in a fixed order. Nothing is reported exactly
if no compound is joined by a descendant combinator, none is too deep, none has two components and
every token is valid. Of the first three conditions the first that fails is reported once, with the
selector's text; if only the last one fails, every invalid token is reported, from left to right.
The depth is one more than the level of the last compound. -/
theorem checkSelector_sound_complete (text : Text) (options : Options) :
    let selector := Selector.ofText text
    (checkSelector text options = [] ↔ selector.NoDescendant ∧ selector.Shallow options ∧
      selector.OneComponentEach options ∧ selector.AllValid options) ∧
    (¬ selector.NoDescendant → checkSelector text options =
      [⟨.unexpectedDescendantCombinator, [("selector", selector.text)]⟩]) ∧
    (selector.NoDescendant → ¬ selector.Shallow options → checkSelector text options =
      [⟨.maxDepthExceeded,
        [("selector", selector.text), ("maxDepth", Text.ofNat options.maxDepth)]⟩]) ∧
    (selector.NoDescendant → selector.Shallow options → ¬ selector.OneComponentEach options →
      checkSelector text options = [⟨.onlyOneComponentName, [("selector", selector.text)]⟩]) ∧
    (selector.NoDescendant → selector.Shallow options → selector.OneComponentEach options →
      checkSelector text options =
        (selector.leveledTokens.filter fun (level, token) =>
          !(token.classify level options).valid).map fun (level, token) =>
            ⟨(token.classify level options).role.invalidName, [("selector", '.' :: token.name)]⟩) ∧
    ∃ level ∈ selector.chain.levels.getLast?, selector.chain.depth = level + 1 := by
  intro selector
  refine ⟨Selector.check_eq_nil_iff, Selector.check_of_descendant, Selector.check_of_depth,
    Selector.check_of_components, fun hdescendant hdepth hcomponents => ?_,
    selector.chain.depth_eq_last_level⟩
  exact (Selector.check_of_tokens hdescendant hdepth hcomponents).trans Selector.checkTokens_eq

/-- One selector for each check, with nothing for the checks before it to report. -/
theorem checkSelector_sound_complete_each_stage :
    checkSelector ".a .b".toList {} =
      [⟨.unexpectedDescendantCombinator, [("selector", ".a .b".toList)]⟩] ∧
    checkSelector ".a-b>.c".toList { maxDepth := 1 } =
      [⟨.maxDepthExceeded, [("selector", ".a-b>.c".toList), ("maxDepth", "1".toList)]⟩] ∧
    checkSelector ".a-b.c-d".toList {} =
      [⟨.onlyOneComponentName, [("selector", ".a-b.c-d".toList)]⟩] ∧
    checkSelector ".a-b>.C.-d.E".toList {} =
      [⟨.invalidElementName, [("selector", ".C".toList)]⟩,
        ⟨.invalidElementName, [("selector", ".E".toList)]⟩] := by
  have hspace := (checkSelector_sound_complete ".a .b".toList {}).2.1
  have hdeep := (checkSelector_sound_complete ".a-b>.c".toList { maxDepth := 1 }).2.2.1
  have htwo := (checkSelector_sound_complete ".a-b.c-d".toList {}).2.2.2.1
  have hnames := (checkSelector_sound_complete ".a-b>.C.-d.E".toList {}).2.2.2.2.1
  refine ⟨hspace ?_, hdeep ?_ ?_, htwo ?_ ?_ ?_, (hnames ?_ ?_ ?_).trans ?_⟩
  · exact mt Selector.checkDescendant_eq_nil_iff.2 (by with_unfolding_all decide)
  · exact Selector.checkDescendant_eq_nil_iff.1 (by with_unfolding_all rfl)
  · exact mt Selector.checkDepth_eq_nil_iff.2 (by with_unfolding_all decide)
  · exact Selector.checkDescendant_eq_nil_iff.1 (by with_unfolding_all rfl)
  · exact Selector.checkDepth_eq_nil_iff.1 (by with_unfolding_all rfl)
  · exact mt Selector.checkMultiComponent_eq_nil_iff.2 (by with_unfolding_all decide)
  · exact Selector.checkDescendant_eq_nil_iff.1 (by with_unfolding_all rfl)
  · exact Selector.checkDepth_eq_nil_iff.1 (by with_unfolding_all rfl)
  · exact Selector.checkMultiComponent_eq_nil_iff.1 (by with_unfolding_all rfl)
  · with_unfolding_all rfl

end ClassLint
