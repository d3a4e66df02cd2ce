import ClassLint.Lint.Basic
import ClassLint.Proofs.Stylesheet.SelectorOrder

/-!
# Diagnostics in source order

Linting gives the diagnostics selector by selector in the order of the source, and rule by rule
in the order of the configuration. The sort at the end finds them in order already: the locations
of the selectors strictly increase, and every diagnostic has the location of its selector.
-/

namespace ClassLint

/-- A rule is found by its name. -/
theorem LintRule.ofName?_name (rule : LintRule) : ofName? rule.name = some rule := by
  cases rule with
  | classFormat => decide
  | noDescendantCombinator => decide

/-- Names of rules with severities are rules with severities. -/
theorem LintRule.exists_levels {levels : RuleLevels}
    (h : ∀ entry ∈ levels, entry.1 ∈ LintRule.names) :
    ∃ rules : List (LintRule × Severity),
      levels = rules.map fun entry => (entry.1.name, entry.2) := by
  induction levels with
  | nil => exact ⟨[], rfl⟩
  | cons entry levels ih =>
    obtain ⟨hentry, hlevels⟩ := List.forall_mem_cons.1 h
    obtain ⟨rule, _, hrule⟩ := List.mem_map.1 hentry
    obtain ⟨rules, rfl⟩ := ih hlevels
    exact ⟨(rule, entry.2) :: rules, by rw [List.map_cons, hrule]⟩

namespace Diagnostic

/-- The diagnostics of a selector: those of every rule, in order and with the rule's severity. -/
def ofSelector (options : Options) (rules : List (LintRule × Severity))
    (selector : SelectorSource) : List Diagnostic :=
  rules.flatMap fun (rule, severity) =>
    (rule.diagnose selector options).map ({ · with severity })

/-- The diagnostics of a selector have its location. -/
theorem location_of_mem_ofSelector {options : Options} {rules : List (LintRule × Severity)}
    {selector : SelectorSource} {diagnostic : Diagnostic}
    (h : diagnostic ∈ ofSelector options rules selector) :
    diagnostic.location = selector.location := by
  obtain ⟨⟨rule, severity⟩, _, hrule⟩ := List.mem_flatMap.1 h
  obtain ⟨found, hfound, rfl⟩ := List.mem_map.1 hrule
  obtain ⟨finding, _, rfl⟩ := LintRule.mem_diagnose_iff.1 hfound
  rfl

/-- The diagnostics of selectors with increasing locations are in order already. -/
theorem sortByLocation_flatMap (options : Options) (rules : List (LintRule × Severity))
    {selectors : List SelectorSource}
    (h : selectors.Pairwise fun a b => a.location.Before b.location) :
    sortByLocation (selectors.flatMap (ofSelector options rules)) =
      selectors.flatMap (ofSelector options rules) := by
  apply List.mergeSort_of_pairwise
  refine List.pairwise_flatMap.2 ⟨fun selector _ => ?_, h.imp fun hbefore a ha b hb => ?_⟩
  · refine List.pairwise_of_forall_mem_list fun a ha b hb => ?_
    rw [location_of_mem_ofSelector ha, location_of_mem_ofSelector hb]
    exact selector.location.le_refl
  · rw [location_of_mem_ofSelector ha, location_of_mem_ofSelector hb]
    exact Location.le_of_before hbefore

/-- Every diagnostic is an error or a warning, and not both. -/
theorem isWarning_eq_not_isError (diagnostic : Diagnostic) :
    diagnostic.isWarning = !diagnostic.isError := by
  rw [isWarning, isError]
  cases diagnostic.severity with
  | error => rfl
  | warning => rfl

end Diagnostic

/-- The errors and the warnings of a result are all of its diagnostics. -/
theorem LintResult.length_errors_add_length_warnings (result : LintResult) :
    result.errors.length + result.warnings.length = result.diagnostics.length := by
  rw [errors, warnings, funext Diagnostic.isWarning_eq_not_isError]
  exact (List.length_eq_length_filter_add _).symm

namespace Config

/-- Rules with known names give their diagnostics for a selector. -/
theorem diagnoseWith_map (options : Options) (rules : List (LintRule × Severity))
    (selector : SelectorSource) :
    diagnoseWith options selector (rules.map fun entry => (entry.1.name, entry.2)) =
      .ok (Diagnostic.ofSelector options rules selector) := by
  induction rules with
  | nil => rfl
  | cons entry rules ih =>
    rw [List.map_cons, diagnoseWith, LintRule.ofName?_name, ih]
    rfl

/-- Rules with known names give their diagnostics for selectors, one after the other. -/
theorem diagnoseAll_eq_flatMap {config : Config} {rules : List (LintRule × Severity)}
    (hrules : config.rules = rules.map fun entry => (entry.1.name, entry.2))
    (selectors : List SelectorSource) :
    config.diagnoseAll selectors =
      .ok (selectors.flatMap (Diagnostic.ofSelector config.options rules)) := by
  induction selectors with
  | nil => rfl
  | cons selector selectors ih =>
    rw [diagnoseAll, hrules, diagnoseWith_map, ih]
    rfl

/-- Linting a source that can be read, by rules with known names. -/
theorem lintSource_eq_flatMap {config : Config} {source : Text} {sheet : Stylesheet}
    {rules : List (LintRule × Severity)} (filename : Text)
    (hparse : Stylesheet.parse source = .ok sheet)
    (hrules : config.rules = rules.map fun entry => (entry.1.name, entry.2)) :
    config.lintSource source filename =
      .ok ⟨filename, sheet.selectors.flatMap (Diagnostic.ofSelector config.options rules),
        sheet.selectors.length⟩ := by
  rw [lintSource, hparse]
  change config.lintStylesheet sheet filename = _
  rw [lintStylesheet, diagnoseAll_eq_flatMap hrules]
  change Except.ok _ = _
  rw [Diagnostic.sortByLocation_flatMap _ _ (Stylesheet.pairwise_before_selectors hparse)]

/-- A source that can be read and rules with known names give a result: the diagnostics of every
selector in source order, those of one selector in the order of the rules. -/
theorem lintSource_in_source_order {config : Config} {source : Text} {sheet : Stylesheet}
    (filename : Text) (hparse : Stylesheet.parse source = .ok sheet)
    (hnames : ∀ entry ∈ config.rules, entry.1 ∈ LintRule.names) :
    ∃ rules : List (LintRule × Severity),
      config.rules = rules.map (fun entry => (entry.1.name, entry.2)) ∧
      ∃ result, config.lintSource source filename = .ok result ∧
        result.filename = filename ∧
        result.diagnostics = (sheet.selectors.flatMap fun selector =>
          rules.flatMap fun (rule, severity) =>
            (rule.diagnose selector config.options).map ({ · with severity })) ∧
        result.selectorCount = sheet.selectors.length ∧
        result.errors.length + result.warnings.length = result.diagnostics.length := by
  obtain ⟨rules, hrules⟩ := LintRule.exists_levels hnames
  refine ⟨rules, hrules, _, lintSource_eq_flatMap filename hparse hrules, rfl, rfl, rfl, ?_⟩
  exact LintResult.length_errors_add_length_warnings _

/-- Two selectors in a grouping at-rule, and two rules in another order than the usual one, the
first with warnings. -/
theorem lintSource_in_source_order_two_rules :
    ∃ (config : Config) (sheet : Stylesheet),
      config.rules = [(LintRule.noDescendantCombinator.name, .warning),
        (LintRule.classFormat.name, .error)] ∧
      Stylesheet.parse "@media m\x7b.a .b,\n.c .d\x7b\x7d\x7d".toList = .ok sheet ∧
      (∀ entry ∈ config.rules, entry.1 ∈ LintRule.names) ∧
      sheet.selectors = [⟨".a .b".toList, ⟨1, 10⟩⟩, ⟨".c .d".toList, ⟨2, 1⟩⟩] ∧
      ∃ rules : List (LintRule × Severity),
        config.rules = rules.map (fun entry => (entry.1.name, entry.2)) ∧
        ∃ result,
          config.lintSource "@media m\x7b.a .b,\n.c .d\x7b\x7d\x7d".toList "a.css" = .ok result ∧
          result.filename = "a.css" ∧
          result.diagnostics = (sheet.selectors.flatMap fun selector =>
            rules.flatMap fun (rule, severity) =>
              (rule.diagnose selector config.options).map ({ · with severity })) ∧
          result.selectorCount = sheet.selectors.length ∧
          result.errors.length + result.warnings.length = result.diagnostics.length := by
  have hparse : Stylesheet.parse "@media m\x7b.a .b,\n.c .d\x7b\x7d\x7d".toList =
      .ok ⟨[
        ⟨"@media m".toList, ⟨1, 1⟩, [], [
          ⟨".a .b,\n.c .d".toList, ⟨1, 10⟩,
            [⟨".a .b".toList, ⟨1, 10⟩⟩, ⟨".c .d".toList, ⟨2, 1⟩⟩], []⟩]⟩]⟩ := by
    with_unfolding_all rfl
  have hnames : ∀ entry ∈ [(LintRule.noDescendantCombinator.name, Severity.warning),
      (LintRule.classFormat.name, .error)], entry.1 ∈ LintRule.names := by
    decide
  exact ⟨⟨{}, _⟩, _, rfl, hparse, hnames, rfl, lintSource_in_source_order "a.css" hparse hnames⟩

end Config

end ClassLint
