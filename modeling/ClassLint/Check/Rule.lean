import ClassLint.Check.Stage
import ClassLint.Stylesheet.SelectorList

/-!
# Rules

A rule turns a located selector into diagnostics. One rule makes all checks; the other looks for
descendant combinators alone.
-/

namespace ClassLint

/-- The rules that can be enabled. -/
inductive LintRule where
  | classFormat
  | noDescendantCombinator
  deriving DecidableEq, Repr

namespace LintRule

/-- All rules, in the order in which they run by default. -/
def all : List LintRule := [.classFormat, .noDescendantCombinator]

/-- The name of a rule. -/
def name : LintRule → Text
  | .classFormat => "class-format"
  | .noDescendantCombinator => "no-descendant-combinator"

/-- The names of all rules. -/
def names : List Text := all.map name

/-- The rule with a name. -/
def ofName? (name : Text) : Option LintRule := all.find? fun rule => rule.name == name

/-- The findings of a rule for a selector's text. -/
def findings (rule : LintRule) (text : Text) (options : Options) : List Finding :=
  match rule with
  | .classFormat => checkSelector text options
  | .noDescendantCombinator => (Selector.ofText text).checkDescendant

/-- The diagnostics of a rule for a located selector, as they are reported to its collector. -/
def diagnose (rule : LintRule) (source : SelectorSource) (options : Options) : List Diagnostic :=
  let collector : Collector := { rule := rule.name }
  match rule with
  | .classFormat => (collector.validate source.text options source.location).1.diagnostics
  | .noDescendantCombinator =>
    let findings := (Selector.ofText source.text).checkDescendant
    (collector.reportAll source.location findings).diagnostics

/-- A rule makes one diagnostic of each of its findings, in order, with the selector's location. -/
theorem diagnose_eq_map (rule : LintRule) (source : SelectorSource) (options : Options) :
    rule.diagnose source options = (rule.findings source.text options).map fun finding =>
      finding.toDiagnostic rule.name .error source.location := by
  cases rule with
  | classFormat => exact Collector.diagnostics_reportAll _ _ _
  | noDescendantCombinator => exact Collector.diagnostics_reportAll _ _ _

/-- The diagnostics of a rule are its findings, each at the selector's location. -/
theorem mem_diagnose_iff {rule : LintRule} {source : SelectorSource} {options : Options}
    {diagnostic : Diagnostic} :
    diagnostic ∈ rule.diagnose source options ↔
      ∃ finding ∈ rule.findings source.text options,
        finding.toDiagnostic rule.name .error source.location = diagnostic := by
  rw [diagnose_eq_map, List.mem_map]

end LintRule

end ClassLint
