import ClassLint.Proofs.Lint.SourceOrder
import Mathlib.Data.List.Perm.Basic
import Mathlib.Data.Prod.Basic

/-!
# Rules do not interfere

What a rule finds in a source depends on neither the other rules nor the severities. The
diagnostics of some of the rules are found among those of all of them, in order; another severity
of a rule is another severity of its diagnostics and nothing else; another order of the rules is
another order of the diagnostics that share a location. The selectors are counted under every
configuration alike.
-/

namespace ClassLint

/-- Rules with different names are different. -/
theorem LintRule.name_injective : Function.Injective name := by
  intro rule other h
  have hfound := ofName?_name rule
  rw [h, ofName?_name other] at hfound
  exact (Option.some.inj hfound).symm

/-- Rules with severities are determined by the names and the severities. -/
theorem LintRule.level_injective :
    Function.Injective fun entry : LintRule × Severity => (entry.1.name, entry.2) :=
  name_injective.prodMap Function.injective_id

namespace RuleLevels

/-- In levels that name every rule once, a rule's level stands among those of other rules. -/
theorem exists_split {levels : RuleLevels} {name : Text} {severity : Severity}
    (hunique : (levels.map Prod.fst).Nodup) (h : (name, severity) ∈ levels) :
    ∃ first second, levels = first ++ (name, severity) :: second ∧
      (∀ entry ∈ first, entry.1 ≠ name) ∧ ∀ entry ∈ second, entry.1 ≠ name := by
  obtain ⟨first, second, rfl⟩ := List.append_of_mem h
  rw [List.map_append, List.map_cons, List.perm_middle.nodup_iff, List.nodup_cons,
    ← List.map_append] at hunique
  have hother : ∀ entry ∈ first ++ second, entry.1 ≠ name := by
    intro entry hentry hname
    exact hunique.1 (List.mem_map.2 ⟨entry, hentry, hname⟩)
  exact ⟨first, second, rfl, List.forall_mem_append.1 hother⟩

/-- In levels that name every rule once, each rule is found with its severity. -/
theorem lookup_of_mem {levels : RuleLevels} {name : Text} {severity : Severity}
    (hunique : (levels.map Prod.fst).Nodup) (h : (name, severity) ∈ levels) :
    levels.lookup name = some severity := by
  obtain ⟨first, second, rfl, hfirst, -⟩ := exists_split hunique h
  refine List.lookup_eq_some_iff.2 ⟨first, second, rfl, fun entry hentry => ?_⟩
  simpa using (hfirst entry hentry).symm

/-- In levels that name every rule once, the levels of one rule are a single one. -/
theorem filter_eq_singleton {levels : RuleLevels} {name : Text} {severity : Severity}
    (hunique : (levels.map Prod.fst).Nodup) (h : (name, severity) ∈ levels) :
    levels.filter (fun entry => entry.1 = name) = [(name, severity)] := by
  obtain ⟨first, second, rfl, hfirst, hsecond⟩ := exists_split hunique h
  have hnone {entries : RuleLevels} (hentries : ∀ entry ∈ entries, entry.1 ≠ name) :
      entries.filter (fun entry => entry.1 = name) = [] := by
    simpa [List.filter_eq_nil_iff] using hentries
  rw [List.filter_append, List.filter_cons, hnone hfirst, hnone hsecond]
  simp

end RuleLevels

namespace Diagnostic

variable {options : Options} {rules others : List (LintRule × Severity)}
  {selector : SelectorSource}

/-- Two diagnostics that differ in the severity alone, each with the severity that its levels give
the rule. -/
structure Releveled (levels others : RuleLevels) (diagnostic other : Diagnostic) : Prop where
  same : other = { diagnostic with severity := other.severity }
  level : levels.lookup diagnostic.rule = some diagnostic.severity
  other : others.lookup diagnostic.rule = some other.severity

/-- Two lists of diagnostics with the same locations in the same order, in which those at one
location may stand in another order. -/
structure Reordered (diagnostics others : List Diagnostic) : Prop where
  locations : diagnostics.map location = others.map location
  perm : ∀ place, (diagnostics.filter fun diagnostic => diagnostic.location = place).Perm
    (others.filter fun diagnostic => diagnostic.location = place)

/-- The diagnostics of one more rule come first. -/
theorem ofSelector_cons (options : Options) (rule : LintRule) (severity : Severity)
    (rules : List (LintRule × Severity)) (selector : SelectorSource) :
    ofSelector options ((rule, severity) :: rules) selector =
      (rule.diagnose selector options).map ({ · with severity }) ++
        ofSelector options rules selector := rfl

/-- The diagnostics of a rule have its name. -/
theorem rule_of_mem_diagnose {rule : LintRule} {diagnostic : Diagnostic}
    (h : diagnostic ∈ rule.diagnose selector options) : diagnostic.rule = rule.name := by
  obtain ⟨finding, -, rfl⟩ := LintRule.mem_diagnose_iff.1 h
  rfl

/-- The diagnostics of some rules for a selector are those of all rules with the names of these. -/
theorem filter_ofSelector (options : Options) (rules : List (LintRule × Severity))
    (keep : Text → Bool) (selector : SelectorSource) :
    (ofSelector options rules selector).filter (fun diagnostic => keep diagnostic.rule) =
      ofSelector options (rules.filter fun entry => keep entry.1.name) selector := by
  induction rules with
  | nil => rfl
  | cons entry rules ih =>
    obtain ⟨rule, severity⟩ := entry
    have hrule : ∀ diagnostic ∈ (rule.diagnose selector options).map ({ · with severity }),
        diagnostic.rule = rule.name := by
      intro diagnostic hdiagnostic
      obtain ⟨found, hfound, rfl⟩ := List.mem_map.1 hdiagnostic
      exact (rule_of_mem_diagnose hfound :)
    rw [ofSelector_cons, List.filter_append, ih]
    by_cases hkeep : keep rule.name = true
    · rw [List.filter_cons, if_pos hkeep, ofSelector_cons, List.filter_eq_self.2]
      intro diagnostic hdiagnostic
      rw [hrule diagnostic hdiagnostic, hkeep]
    · rw [List.filter_cons, if_neg hkeep, List.filter_eq_nil_iff.2, List.nil_append]
      intro diagnostic hdiagnostic
      rwa [hrule diagnostic hdiagnostic]

/-- Other severities of the rules are other severities of their diagnostics. -/
theorem forall₂_ofSelector {levels otherLevels : RuleLevels}
    (hsame : rules.map Prod.fst = others.map Prod.fst)
    (hlevels : ∀ entry ∈ rules, levels.lookup entry.1.name = some entry.2)
    (hothers : ∀ entry ∈ others, otherLevels.lookup entry.1.name = some entry.2) :
    List.Forall₂ (Releveled levels otherLevels) (ofSelector options rules selector)
      (ofSelector options others selector) := by
  induction rules generalizing others with
  | nil =>
    rw [List.map_eq_nil_iff.1 hsame.symm]
    exact .nil
  | cons entry rules ih =>
    cases others with
    | nil => cases hsame
    | cons other others =>
      obtain ⟨rule, severity⟩ := entry
      obtain ⟨otherRule, otherSeverity⟩ := other
      obtain ⟨rfl, hrest⟩ := List.cons.inj hsame
      rw [List.forall_mem_cons] at hlevels hothers
      rw [ofSelector_cons, ofSelector_cons]
      refine List.rel_append ?_ (ih hrest hlevels.2 hothers.2)
      rw [List.forall₂_map_left_iff, List.forall₂_map_right_iff, List.forall₂_same]
      intro diagnostic hdiagnostic
      refine ⟨rfl, ?_, ?_⟩
      · rw [rule_of_mem_diagnose hdiagnostic]
        exact hlevels.1
      · rw [rule_of_mem_diagnose hdiagnostic]
        exact hothers.1

/-- Another order of the rules is another order of the diagnostics for a selector, which all have
its location. -/
theorem reordered_ofSelector (h : rules.Perm others) :
    Reordered (ofSelector options rules selector) (ofSelector options others selector) := by
  have hperm : (ofSelector options rules selector).Perm (ofSelector options others selector) :=
    h.flatMap_right _
  have hlocation (entries : List (LintRule × Severity)) :
      (ofSelector options entries selector).map location =
        List.replicate (ofSelector options entries selector).length selector.location := by
    rw [List.map_congr_left fun diagnostic hdiagnostic => location_of_mem_ofSelector hdiagnostic,
      List.map_const']
  refine ⟨?_, fun place => hperm.filter _⟩
  rw [hlocation, hlocation, hperm.length_eq]

/-- Reordered lists in front of reordered ones are reordered. -/
theorem Reordered.append {first second firstOthers secondOthers : List Diagnostic}
    (hfirst : Reordered first firstOthers) (hsecond : Reordered second secondOthers) :
    Reordered (first ++ second) (firstOthers ++ secondOthers) where
  locations := by rw [List.map_append, List.map_append, hfirst.locations, hsecond.locations]
  perm place := by
    rw [List.filter_append, List.filter_append]
    exact (hfirst.perm place).append (hsecond.perm place)

/-- Another order of the rules reorders the diagnostics of every selector. -/
theorem reordered_flatMap (h : rules.Perm others) (selectors : List SelectorSource) :
    Reordered (selectors.flatMap (ofSelector options rules))
      (selectors.flatMap (ofSelector options others)) := by
  induction selectors with
  | nil => exact ⟨rfl, fun place => .nil⟩
  | cons selector selectors ih => exact (reordered_ofSelector h).append ih

end Diagnostic

namespace Config

variable {options : Options} {source filename : Text} {sheet : Stylesheet} {levels : RuleLevels}
  {rules : List (LintRule × Severity)}

/-- A run of some of the rules gives their diagnostics out of a run of all of them. -/
theorem lintSource_filter (hparse : Stylesheet.parse source = .ok sheet)
    (hlevels : levels = rules.map fun entry => (entry.1.name, entry.2)) (keep : Text → Bool) :
    lintSource ⟨options, levels.filter fun entry => keep entry.1⟩ source filename =
      .ok ⟨filename,
        (sheet.selectors.flatMap (Diagnostic.ofSelector options rules)).filter
          fun diagnostic => keep diagnostic.rule,
        sheet.selectors.length⟩ := by
  have hkept : levels.filter (fun entry => keep entry.1) =
      (rules.filter fun entry => keep entry.1.name).map fun entry => (entry.1.name, entry.2) := by
    rw [hlevels, List.filter_map]
    rfl
  rw [lintSource_eq_flatMap filename hparse hkept, List.filter_flatMap]
  congr 3
  funext selector
  exact (Diagnostic.filter_ofSelector options rules keep selector).symm

/-- Runs with other severities differ in the severities of the diagnostics only. -/
theorem forall₂_lintSource {others : RuleLevels} {otherRules : List (LintRule × Severity)}
    (hlevels : levels = rules.map fun entry => (entry.1.name, entry.2))
    (hothers : others = otherRules.map fun entry => (entry.1.name, entry.2))
    (hsame : others.map Prod.fst = levels.map Prod.fst) (hunique : (levels.map Prod.fst).Nodup)
    (selectors : List SelectorSource) :
    List.Forall₂ (Diagnostic.Releveled levels others)
      (selectors.flatMap (Diagnostic.ofSelector options rules))
      (selectors.flatMap (Diagnostic.ofSelector options otherRules)) := by
  have hrules : rules.map Prod.fst = otherRules.map Prod.fst := by
    apply List.map_injective_iff.2 LintRule.name_injective
    rw [hlevels, hothers, List.map_map, List.map_map] at hsame
    rw [List.map_map, List.map_map]
    exact hsame.symm
  have hfound {entries : RuleLevels} {known : List (LintRule × Severity)}
      (hentries : entries = known.map fun entry => (entry.1.name, entry.2))
      (honce : (entries.map Prod.fst).Nodup) :
      ∀ entry ∈ known, entries.lookup entry.1.name = some entry.2 := by
    intro entry hentry
    apply RuleLevels.lookup_of_mem honce
    rw [hentries]
    exact List.mem_map_of_mem hentry
  induction selectors with
  | nil => exact .nil
  | cons selector selectors ih =>
    exact List.rel_append (Diagnostic.forall₂_ofSelector hrules (hfound hlevels hunique)
      (hfound hothers (hsame ▸ hunique))) ih

/-- Rules and severities do not interfere. In a run, the diagnostics of a rule are those of a run
of this rule alone, so that without the rule exactly its diagnostics are missing. Other severities
change nothing but the severities of the diagnostics of their rules, and another order of the
rules reorders diagnostics that share a location. The number of selectors is always the same. -/
theorem rules_do_not_interfere (hparse : Stylesheet.parse source = .ok sheet)
    (hnames : ∀ entry ∈ levels, entry.1 ∈ LintRule.names) (hunique : (levels.map Prod.fst).Nodup)
    (options : Options) (filename : Text) :
    ∃ result, lintSource ⟨options, levels⟩ source filename = .ok result ∧
      (∀ name severity, (name, severity) ∈ levels →
        lintSource ⟨options, [(name, severity)]⟩ source filename =
          .ok { result with
            diagnostics := result.diagnostics.filter fun diagnostic => diagnostic.rule = name }) ∧
      (∀ name, lintSource ⟨options, levels.remove name⟩ source filename =
        .ok { result with
          diagnostics := result.diagnostics.filter fun diagnostic => diagnostic.rule ≠ name }) ∧
      (∀ others : RuleLevels, others.map Prod.fst = levels.map Prod.fst →
        ∃ other, lintSource ⟨options, others⟩ source filename = .ok other ∧
          List.Forall₂ (Diagnostic.Releveled levels others) result.diagnostics other.diagnostics) ∧
      (∀ others : RuleLevels, others.Perm levels →
        ∃ other, lintSource ⟨options, others⟩ source filename = .ok other ∧
          Diagnostic.Reordered result.diagnostics other.diagnostics) ∧
      ∀ others : RuleLevels, (∀ entry ∈ others, entry.1 ∈ LintRule.names) →
        ∃ other, lintSource ⟨options, others⟩ source filename = .ok other ∧
          other.selectorCount = result.selectorCount := by
  obtain ⟨rules, hlevels⟩ := LintRule.exists_levels hnames
  refine ⟨_, lintSource_eq_flatMap filename hparse hlevels, ?_, ?_, ?_, ?_, ?_⟩
  · intro name severity hlevel
    rw [← RuleLevels.filter_eq_singleton hunique hlevel]
    exact lintSource_filter hparse hlevels fun other => other = name
  · intro name
    exact lintSource_filter hparse hlevels fun other => other ≠ name
  · intro others hsame
    have hknown : ∀ entry ∈ others, entry.1 ∈ LintRule.names := by
      rw [← List.forall_mem_map, hsame, List.forall_mem_map]
      exact hnames
    obtain ⟨otherRules, hothers⟩ := LintRule.exists_levels hknown
    exact ⟨_, lintSource_eq_flatMap filename hparse hothers,
      forall₂_lintSource hlevels hothers hsame hunique sheet.selectors⟩
  · intro others hperm
    obtain ⟨otherRules, hothers⟩ :=
      LintRule.exists_levels fun entry hentry => hnames entry (hperm.mem_iff.1 hentry)
    have hrules : rules.Perm otherRules := by
      rw [hlevels, hothers] at hperm
      exact ((List.map_perm_map_iff LintRule.level_injective).1 hperm).symm
    exact ⟨_, lintSource_eq_flatMap filename hparse hothers,
      Diagnostic.reordered_flatMap hrules sheet.selectors⟩
  · intro others hknown
    obtain ⟨otherRules, hothers⟩ := LintRule.exists_levels hknown
    exact ⟨_, lintSource_eq_flatMap filename hparse hothers, rfl⟩

/-- Two selectors on two lines and both rules, in another order than the usual one: a run of one of
the rules alone, one without it, one with another severity, one in the usual order, and one without
rules. -/
theorem rules_do_not_interfere_two_selectors :
    ∃ result releveled reordered empty,
      lintSource ⟨{}, [(LintRule.noDescendantCombinator.name, .warning),
        (LintRule.classFormat.name, .error)]⟩ ".a .b,\n.c .d\x7b\x7d".toList "a.css" = .ok result ∧
      lintSource ⟨{}, [(LintRule.classFormat.name, .error)]⟩
          ".a .b,\n.c .d\x7b\x7d".toList "a.css" =
        .ok { result with diagnostics := result.diagnostics.filter fun diagnostic =>
          diagnostic.rule = LintRule.classFormat.name } ∧
      lintSource ⟨{}, [(LintRule.noDescendantCombinator.name, .warning)]⟩
          ".a .b,\n.c .d\x7b\x7d".toList "a.css" =
        .ok { result with diagnostics := result.diagnostics.filter fun diagnostic =>
          diagnostic.rule ≠ LintRule.classFormat.name } ∧
      lintSource ⟨{}, [(LintRule.noDescendantCombinator.name, .error),
        (LintRule.classFormat.name, .error)]⟩ ".a .b,\n.c .d\x7b\x7d".toList "a.css" =
        .ok releveled ∧
      List.Forall₂ (Diagnostic.Releveled
          [(LintRule.noDescendantCombinator.name, .warning), (LintRule.classFormat.name, .error)]
          [(LintRule.noDescendantCombinator.name, .error), (LintRule.classFormat.name, .error)])
        result.diagnostics releveled.diagnostics ∧
      lintSource ⟨{}, [(LintRule.classFormat.name, .error),
        (LintRule.noDescendantCombinator.name, .warning)]⟩ ".a .b,\n.c .d\x7b\x7d".toList "a.css" =
        .ok reordered ∧
      Diagnostic.Reordered result.diagnostics reordered.diagnostics ∧
      lintSource ⟨{}, []⟩ ".a .b,\n.c .d\x7b\x7d".toList "a.css" = .ok empty ∧
      empty.selectorCount = result.selectorCount := by
  have hparse : Stylesheet.parse ".a .b,\n.c .d\x7b\x7d".toList =
      .ok ⟨[⟨".a .b,\n.c .d".toList, ⟨1, 1⟩,
        [⟨".a .b".toList, ⟨1, 1⟩⟩, ⟨".c .d".toList, ⟨2, 1⟩⟩], []⟩]⟩ := by
    with_unfolding_all rfl
  have hnames : ∀ entry ∈ [(LintRule.noDescendantCombinator.name, Severity.warning),
      (LintRule.classFormat.name, .error)], entry.1 ∈ LintRule.names := by
    decide
  obtain ⟨result, hresult, halone, hwithout, hseverity, horder, hcount⟩ :=
    rules_do_not_interfere hparse hnames (by decide) {} "a.css"
  obtain ⟨releveled, hreleveled, hsame⟩ :=
    hseverity [(LintRule.noDescendantCombinator.name, .error), (LintRule.classFormat.name, .error)]
      rfl
  obtain ⟨reordered, hreordered, hperm⟩ := horder _ (.swap _ _ _)
  obtain ⟨empty, hempty, hselectors⟩ := hcount [] (by simp)
  exact ⟨result, releveled, reordered, empty, hresult, halone _ _ (by simp),
    hwithout LintRule.classFormat.name, hreleveled, hsame, hreordered, hperm, hempty, hselectors⟩

end Config

end ClassLint
