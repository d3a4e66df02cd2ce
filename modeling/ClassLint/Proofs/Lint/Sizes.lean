import ClassLint.Proofs.Check.Alike
import ClassLint.Proofs.Config.KeyOrder
import ClassLint.Proofs.Lint.SourceOrder
import ClassLint.Proofs.Selector.ClassNames
import ClassLint.Proofs.Selector.Compounds
import Mathlib.Algebra.Order.BigOperators.Group.List
import Mathlib.Algebra.Order.Ring.Nat

/-!
# How much is reported

The size of a source bounds what linting reports of it. A source of some length has no more
selectors than characters, none of them is longer than the source, and none stands beyond its end.
A rule has at most one finding for every token of a selector, or one for the selector as a whole,
and no rule runs twice.
-/

namespace ClassLint

/-- A function that makes at most so many of each item makes at most so many times more. -/
theorem length_flatMap_le {α β : Type} {items : List α} {f : α → List β} {bound : Nat}
    (h : ∀ item ∈ items, (f item).length ≤ bound) :
    (items.flatMap f).length ≤ items.length * bound := by
  rw [List.length_flatMap]
  have hsum := List.sum_le_card_nsmul (items.map fun item => (f item).length) bound
    (List.forall_mem_map.2 h)
  rw [List.length_map] at hsum
  exact hsum

/-! ## Tokens -/

namespace Text

/-- Stripping makes no text longer. -/
theorem length_strip_le (text : Text) : (strip text).length ≤ text.length := by
  rw [strip, stripRight, List.length_reverse]
  calc
    ((text.dropWhile isBlank).reverse.dropWhile isBlank).length
      ≤ (text.dropWhile isBlank).reverse.length := (List.dropWhile_sublist _).length_le
    _ = (text.dropWhile isBlank).length := List.length_reverse
    _ ≤ text.length := (List.dropWhile_sublist _).length_le

end Text

/-- A compound has no more tokens than characters. -/
theorem ClassToken.length_ofCompound_le (text : Text) : (ofCompound text).length ≤ text.length := by
  have hmarks : (scan false .start text).1.length = text.length := by
    rw [← List.length_map Mark.char, map_char_scan]
  rw [ofCompound]
  dsimp only
  split
  · rw [ofMarks_eq_map, List.length_map]
    exact (List.length_filter_le _ _).trans (by rw [List.length_range, hmarks])
  · exact Nat.zero_le _

/-- The compounds behind a compound are parts of what follows it. -/
theorem Links.sum_length_le {text : Text} {links : List (Combinator × Text)} (h : Links text links) :
    (links.map fun link => link.2.length).sum ≤ text.length := by
  induction h with
  | trail hgap => exact Nat.zero_le _
  | link _ _ _ _ _ _ ih =>
    simp only [List.map_cons, List.sum_cons, List.length_append]
    omega

namespace Chain

/-- The compounds of a text are parts of it. -/
theorem WrittenBy.sum_length_le {text : Text} {chain : Chain Text} (h : WrittenBy text chain) :
    (chain.items.map List.length).sum ≤ text.length := by
  obtain ⟨gap, rest, rfl, -, -, -, hlinks⟩ := h
  have hrest := hlinks.sum_length_le
  simp only [items, List.map_cons, List.map_map, List.sum_cons, List.length_append]
  change _ + (chain.rest.map fun link => link.2.length).sum ≤ _
  omega

/-- As many levels are reached as combinators are followed. -/
theorem length_levelsFrom (level : Nat) (combinators : List Combinator) :
    (levelsFrom level combinators).length = combinators.length := by
  induction combinators generalizing level with
  | nil => rfl
  | cons combinator combinators ih => rw [levelsFrom, List.length_cons, ih, List.length_cons]

/-- The items of a chain are those that have a level. -/
theorem map_snd_leveled {α : Type} (chain : Chain α) : chain.leveled.map Prod.snd = chain.items := by
  apply List.map_snd_zip
  rw [levels, items, List.length_cons, List.length_cons, length_levelsFrom, combinators,
    List.length_map, List.length_map]

end Chain

namespace Selector

/-- The tokens of a selector are those of its compounds. -/
theorem length_leveledTokens (selector : Selector) :
    selector.leveledTokens.length =
      (selector.chain.items.map fun compound => compound.tokens.length).sum := by
  rw [leveledTokens, List.length_flatMap, ← selector.chain.map_snd_leveled, List.map_map]
  simp only [List.length_map]
  rfl

/-- A selector has no more tokens than characters. -/
theorem length_leveledTokens_ofText_le (text : Text) :
    (ofText text).leveledTokens.length ≤ text.length := by
  by_cases h : ∀ c ∈ Text.strip text, c ∈ separators
  · rw [ofText_of_separators h]
    exact Nat.zero_le _
  · obtain ⟨chain, hchain⟩ := Chain.exists_writtenBy (by simpa using h)
    rw [length_leveledTokens, ofText_of_writtenBy hchain]
    dsimp only
    rw [Chain.items_map, List.map_map]
    calc
      (chain.items.map fun compound => (ClassToken.ofCompound compound).length).sum
        ≤ (chain.items.map List.length).sum :=
          List.sum_le_sum fun compound _ => ClassToken.length_ofCompound_le compound
      _ ≤ (Text.strip text).length := hchain.sum_length_le
      _ ≤ text.length := Text.length_strip_le text

end Selector

/-! ## Findings -/

/-- A rule finds no more than one thing more than a selector has characters. -/
theorem LintRule.length_findings_le (rule : LintRule) (text : Text) (options : Options) :
    (rule.findings text options).length ≤ text.length + 1 := by
  have hone {c : Prop} [Decidable c] (finding : Finding) :
      (if c then [finding] else []).length ≤ text.length + 1 := by
    split
    · exact Nat.succ_le_succ (Nat.zero_le _)
    · exact Nat.zero_le _
  have hstage (stage : Stage) :
      ((Selector.ofText text).checkStage options stage).length ≤ text.length + 1 := by
    cases stage with
    | descendant => exact hone _
    | depth => exact hone _
    | multiComponent => exact hone _
    | tokens =>
      have htokens : ((Selector.ofText text).checkTokens options).length ≤ text.length := by
        rw [Selector.checkTokens_eq, List.length_map]
        exact (List.length_filter_le _ _).trans (Selector.length_leveledTokens_ofText_le text)
      exact Nat.le_succ_of_le htokens
  cases rule with
  | classFormat =>
    change ((Stage.all.find? _).elim [] ((Selector.ofText text).checkStage options)).length ≤ _
    cases Stage.all.find? _ with
    | none => exact Nat.zero_le _
    | some stage => exact hstage stage
  | noDescendantCombinator => exact hstage .descendant

/-! ## Selectors -/

/-- A location in a source is not beyond its length. -/
theorem Location.natAbs_atOffset_le (source : Text) (offset : Nat) :
    (atOffset source offset).line.natAbs ≤ source.length + 1 ∧
      (atOffset source offset).column.natAbs ≤ source.length + 1 := by
  have hbefore : (source.take offset).length ≤ source.length := List.length_take_le' _ _
  have hline : (source.take offset).count '\n' ≤ (source.take offset).length :=
    List.count_le_length
  have hcolumn : ((source.take offset).rtakeWhile (· ≠ '\n')).length ≤ (source.take offset).length :=
    (List.rtakeWhile_suffix _ _).length_le
  rw [atOffset]
  dsimp only
  omega

/-- A selector is no longer than its prelude. -/
theorem SelectorList.length_le_of_mem_split {prelude : Text} {origin : Location}
    {selector : SelectorSource} (h : selector ∈ split prelude origin) :
    selector.text.length ≤ prelude.length := by
  obtain ⟨group, hgroup, hselector⟩ := List.mem_filterMap.1 h
  have hmarks : group.length ≤ prelude.length := by
    calc
      group.length ≤ (locatedMarks prelude origin).length :=
        ((List.sublist_flatten_of_mem hgroup).trans (splitWhere_sublist _ _)).length_le
      _ ≤ ((origin.along prelude).map Prod.fst).length := by
        rw [locatedMarks, List.length_zip]
        exact Nat.min_le_left _ _
      _ = prelude.length := by rw [List.length_map, Location.length_along]
  rw [selector?] at hselector
  dsimp only at hselector
  split at hselector
  · cases hselector
    calc
      _ ≤ ((group.filter fun located => located.2.isCode).map fun located => located.2.char).length :=
        Text.length_strip_le _
      _ ≤ group.length := by
        rw [List.length_map]
        exact List.length_filter_le _ _
      _ ≤ prelude.length := hmarks
  · cases hselector

/-- A selector among the rules of items is no longer than the source. -/
theorem Items.length_le_of_mem_walkAll {source : Text} {tokens : List Token}
    {rules : List StyleRule} (h : Items source tokens rules) :
    ∀ selector ∈ StyleRule.walkAll rules, selector.text.length ≤ source.length := by
  induction h with
  | nil => exact List.forall_mem_nil _
  | statement _ _ _ ih => exact ih
  | rule hchunk _ _ _ _ _ ihbody ihrest =>
    intro selector hselector
    obtain hrule | hrest := List.mem_append.1 hselector
    · obtain hown | hchild := List.mem_append.1 ((StyleRule.walk_ofChunk_sublist _ _).subset hrule)
      · obtain ⟨first, -, last, -, rfl⟩ := hchunk.reach
        have hslice : (source.slice first.start last.stop).length ≤ source.length :=
          ((List.take_sublist _ _).trans (List.drop_sublist _ _)).length_le
        exact (SelectorList.length_le_of_mem_split hown).trans hslice
      · exact ihbody selector hchild
    · exact ihrest selector hrest

namespace Stylesheet

variable {source : Text} {sheet : Stylesheet}

/-- A source has no more selectors than characters. -/
theorem length_selectors_le (h : parse source = .ok sheet) :
    sheet.selectors.length ≤ source.length :=
  (rising_selectors h).length_add_le

/-- A selector is no longer than the source. -/
theorem length_text_le (h : parse source = .ok sheet) :
    ∀ selector ∈ sheet.selectors, selector.text.length ≤ source.length := by
  obtain ⟨_, items, tail, htokens, hitems, _⟩ := sentence_of_parse h
  exact hitems.length_le_of_mem_walkAll

/-- A selector does not stand beyond the end of the source. -/
theorem natAbs_location_le (h : parse source = .ok sheet) :
    ∀ selector ∈ sheet.selectors, selector.location.line.natAbs ≤ source.length + 1 ∧
      selector.location.column.natAbs ≤ source.length + 1 := by
  intro selector hselector
  obtain ⟨start, stop, -, hat⟩ := (rising_selectors h).exists_of_mem hselector
  rw [hat.location]
  exact Location.natAbs_atOffset_le source start

end Stylesheet

/-! ## Rules -/

namespace RuleLevels

variable {rules : RuleLevels}

/-- No rule is named twice. -/
def Distinct (rules : RuleLevels) : Prop := (rules.map Prod.fst).Nodup

/-- A rule that is not named yet is put at the end. -/
theorem put_of_not_mem {name : Text} (h : name ∉ rules.map Prod.fst) (severity : Severity) :
    rules.put name severity = rules ++ [(name, severity)] := by
  induction rules with
  | nil => rfl
  | cons entry rules ih =>
    obtain ⟨hfirst, hrest⟩ := not_or.1 fun hmem => h (List.mem_cons.2 hmem)
    rw [put, if_neg (Ne.symm hfirst), ih hrest]
    rfl

/-- Rules stay distinct when one is given a severity. -/
theorem Distinct.put (h : rules.Distinct) (name : Text) (severity : Severity) :
    (rules.put name severity).Distinct := by
  by_cases hname : name ∈ rules.map Prod.fst
  · rw [put_eq_map h hname, Distinct, List.map_map]
    exact h
  · rw [put_of_not_mem hname, Distinct, List.map_append, List.map_singleton]
    refine List.nodup_append.2 ⟨h, List.nodup_singleton _, ?_⟩
    intro other hother last hlast hsame
    rw [hsame, List.mem_singleton.1 hlast] at hother
    exact hname hother

/-- Rules stay distinct when one is taken out. -/
theorem Distinct.remove (h : rules.Distinct) (name : Text) : (rules.remove name).Distinct :=
  (List.filter_sublist.map Prod.fst).nodup h

/-- A sequence leaves distinct rules. -/
theorem distinct_ofList (entries : List (Text × Severity)) : (ofList entries).Distinct := by
  refine List.foldlRecOn entries _ List.nodup_nil ?_
  intro rules hrules entry _
  exact hrules.put entry.1 entry.2

/-- Known rules that are distinct are not more than all rules. -/
theorem length_le_of_distinct (hdistinct : rules.Distinct) (hknown : rules.Known) :
    rules.length ≤ LintRule.names.length := by
  have hnames : rules.map Prod.fst ⊆ LintRule.names := by
    intro name hname
    obtain ⟨entry, hentry, rfl⟩ := List.mem_map.1 hname
    exact hknown entry hentry
  have hlength := (List.subperm_of_subset hdistinct hnames).length_le
  rwa [List.length_map] at hlength

end RuleLevels

namespace Config

/-- The members of a configuration leave distinct rules. -/
theorem distinct_of_rulesOfMembers {members : Members} {rules : RuleLevels}
    (h : rulesOfMembers members = .ok rules) : rules.Distinct := by
  have hdefault : RuleLevels.Distinct ({} : Config).rules := nodup_default
  unfold rulesOfMembers at h
  split at h
  · cases h
    exact hdefault
  · rw [readRules_eq, map_eq_ok_iff] at h
    obtain ⟨levels, -, rfl⟩ := h
    refine List.foldlRecOn levels _ hdefault ?_
    intro rules hrules entry _
    rw [applyLevel]
    split
    · exact hrules.remove entry.1
    · exact hrules.put entry.1 _
  · cases h

end Config

/-! ## Results -/

/-- What linting gives for a source is bounded by its length: the number of selectors, that of
diagnostics, and their locations. -/
theorem Config.sizes_of_lintSource {config : Config} {source filename : Text} {result : LintResult}
    (hknown : RuleLevels.Known config.rules) (hdistinct : RuleLevels.Distinct config.rules)
    (h : config.lintSource source filename = .ok result) :
    result.selectorCount ≤ source.length ∧
      result.diagnostics.length ≤ source.length * (2 * (source.length + 1)) ∧
      ∀ diagnostic ∈ result.diagnostics,
        diagnostic.location.line.natAbs ≤ source.length + 1 ∧
          diagnostic.location.column.natAbs ≤ source.length + 1 := by
  cases hparse : Stylesheet.parse source with
  | error error =>
    rw [lintSource, hparse] at h
    cases h
  | ok sheet =>
    obtain ⟨rules, hrules⟩ := LintRule.exists_levels hknown
    have hcount : rules.length ≤ 2 := by
      have hlength := RuleLevels.length_le_of_distinct hdistinct hknown
      rw [hrules, List.length_map] at hlength
      exact hlength
    rw [lintSource_eq_flatMap filename hparse hrules] at h
    cases h
    have hselector : ∀ selector ∈ sheet.selectors,
        (Diagnostic.ofSelector config.options rules selector).length ≤ 2 * (source.length + 1) := by
      intro selector hselector
      have hrule : ∀ entry ∈ rules, ((entry.1.diagnose selector config.options).map
          ({ · with severity := entry.2 })).length ≤ source.length + 1 := by
        intro entry _
        rw [List.length_map, entry.1.diagnose_eq_map, List.length_map]
        have htext := Stylesheet.length_text_le hparse selector hselector
        have hfindings := entry.1.length_findings_le selector.text config.options
        omega
      exact (length_flatMap_le hrule).trans (Nat.mul_le_mul_right _ hcount)
    refine ⟨Stylesheet.length_selectors_le hparse, ?_, ?_⟩
    · exact (length_flatMap_le hselector).trans
        (Nat.mul_le_mul_right _ (Stylesheet.length_selectors_le hparse))
    · intro diagnostic hdiagnostic
      obtain ⟨selector, hmem, hdiagnostic⟩ := List.mem_flatMap.1 hdiagnostic
      rw [Diagnostic.location_of_mem_ofSelector hdiagnostic]
      exact Stylesheet.natAbs_location_le hparse selector hmem

end ClassLint
