import ClassLint.Proofs.Check.Values
import ClassLint.Proofs.Config.Reading
import ClassLint.Proofs.Lint.Composition
import ClassLint.Proofs.Lint.Independence

/-!
# Lines of a report

A diagnostic is written as one line: its location, its severity, its message and, in brackets, its
rule and its kind. The message may hold any text. But the location and the severity end at the first
spaces of the line, and the brackets start at its last space, so that the line is cut into its parts
from both ends; and the kind that is found this way tells the values from the message.
-/

namespace ClassLint

/-! ## Names -/

/-- A kind is found by its name. -/
theorem Kind.ofName?_name (kind : Kind) : ofName? kind.name = some kind := by
  cases kind <;> decide

/-- Kinds with different names are different. -/
theorem Kind.name_injective : Function.Injective name := by
  intro kind other h
  have hfound := ofName?_name kind
  rw [h, ofName?_name other] at hfound
  exact (Option.some.inj hfound).symm

/-- A severity is found by its name. -/
theorem Severity.ofName?_name (severity : Severity) : ofName? severity.name = some severity := by
  cases severity <;> decide

/-- Severities with different names are different. -/
theorem Severity.name_injective : Function.Injective name := by
  intro severity other h
  have hfound := ofName?_name severity
  rw [h, ofName?_name other] at hfound
  exact (Option.some.inj hfound).symm

/-- The name of a kind has no spaces. -/
theorem Kind.space_not_mem_name (kind : Kind) : ' ' ∉ kind.name := by
  cases kind <;> decide

/-- The name of a severity has no spaces. -/
theorem Severity.space_not_mem_name (severity : Severity) : ' ' ∉ severity.name := by
  cases severity <;> decide

/-- The name of a rule has no spaces. -/
theorem LintRule.space_not_mem_name (rule : LintRule) : ' ' ∉ rule.name := by
  cases rule <;> decide

/-- The name of a rule has no slashes. -/
theorem LintRule.slash_not_mem_name (rule : LintRule) : '/' ∉ rule.name := by
  cases rule <;> decide

/-! ## What is reported -/

/-- Every diagnostic of a result is a finding of a rule for a selector, at its location. -/
theorem Config.exists_finding_of_mem {config : Config} {source filename : Text} {result : LintResult}
    (h : config.lintSource source filename = .ok result) {diagnostic : Diagnostic}
    (hmem : diagnostic ∈ result.diagnostics) :
    ∃ sheet selector rule finding severity, Stylesheet.parse source = .ok sheet ∧
      selector ∈ sheet.selectors ∧
      finding ∈ LintRule.findings rule selector.text config.options ∧
      diagnostic = finding.toDiagnostic rule.name severity selector.location := by
  cases hparse : Stylesheet.parse source with
  | error error =>
    rw [lintSource, hparse] at h
    cases h
  | ok sheet =>
    rw [lintSource_eq_map filename hparse] at h
    obtain ⟨diagnostics, hdiagnostics, rfl⟩ := map_eq_ok_iff.1 h
    -- The rules are known as soon as there is a selector, and without one there is nothing to report.
    have hrules : ∃ rules : List (LintRule × Severity),
        diagnostics = sheet.selectors.flatMap (Diagnostic.ofSelector config.options rules) := by
      cases hselectors : sheet.selectors with
      | nil =>
        rw [hselectors] at hdiagnostics
        cases hdiagnostics
        exact ⟨[], rfl⟩
      | cons selector rest =>
        rw [hselectors] at hdiagnostics
        obtain ⟨found, hfound, -⟩ := bind_eq_ok_iff.1 hdiagnostics
        obtain ⟨rules, hrules⟩ := exists_rules_of_diagnoseWith hfound
        rw [diagnoseAll_eq_flatMap hrules] at hdiagnostics
        exact ⟨rules, (Except.ok.inj hdiagnostics).symm⟩
    obtain ⟨rules, rfl⟩ := hrules
    obtain ⟨selector, hselector, hmem⟩ := List.mem_flatMap.1 hmem
    obtain ⟨⟨rule, severity⟩, -, hmem⟩ := List.mem_flatMap.1 hmem
    obtain ⟨found, hfound, rfl⟩ := List.mem_map.1 hmem
    obtain ⟨finding, hfinding, rfl⟩ := LintRule.mem_diagnose_iff.1 hfound
    exact ⟨sheet, selector, rule, finding, severity, rfl, hselector, hfinding, rfl⟩

namespace Diagnostic

variable {diagnostic other : Diagnostic}

/-- A diagnostic that linting gives for some source, under some configuration. -/
def Reported (diagnostic : Diagnostic) : Prop :=
  ∃ (config : Config) (source filename : Text) (result : LintResult),
    config.lintSource source filename = .ok result ∧ diagnostic ∈ result.diagnostics

/-- A reported diagnostic has a known rule, and the values that its message names. -/
theorem Reported.exists_rule_values (h : diagnostic.Reported) :
    (∃ rule : LintRule, diagnostic.rule = rule.name) ∧
      ∃ selector depth, diagnostic.data = diagnostic.kind.values selector depth := by
  obtain ⟨config, source, filename, result, hresult, hmem⟩ := h
  obtain ⟨sheet, selector, rule, finding, severity, -, -, hfinding, rfl⟩ :=
    Config.exists_finding_of_mem hresult hmem
  exact ⟨⟨rule, rfl⟩, LintRule.filled_of_mem_findings hfinding⟩

/-! ## The parts of a line -/

/-- The rule and the kind of a diagnostic, in brackets. -/
def tag (diagnostic : Diagnostic) : Text :=
  '[' :: (diagnostic.rule ++ '/' :: (diagnostic.kind.name ++ [']']))

/-- A line is the parts of the diagnostic with separators between them. -/
theorem text_eq (diagnostic : Diagnostic) :
    diagnostic.text = Text.ofInt diagnostic.location.line ++
      ':' :: (Text.ofInt diagnostic.location.column ++
        ' ' :: (diagnostic.severity.name ++
          ' ' :: (diagnostic.message ++ ' ' :: diagnostic.tag))) := by
  simp [text, Location.text, tag]

/-- What stands in the brackets of a line has no spaces, if the rule is a known one. -/
theorem space_not_mem_tag {rule : LintRule} (h : diagnostic.rule = rule.name) :
    ' ' ∉ diagnostic.tag := by
  have hrule := rule.space_not_mem_name
  have hkind := diagnostic.kind.space_not_mem_name
  simp [tag, h, hrule, hkind]

/-- The line of a diagnostic with a known rule tells all parts of it, but for the values of its
message. -/
theorem parts_of_text {rule otherRule : LintRule} (hrule : diagnostic.rule = rule.name)
    (hother : other.rule = otherRule.name) (h : diagnostic.text = other.text) :
    diagnostic.location = other.location ∧ diagnostic.severity = other.severity ∧
      diagnostic.message = other.message ∧ diagnostic.rule = other.rule ∧
      diagnostic.kind = other.kind := by
  have hnone (c : Char) (hc : c.isDigit = false) (hsign : c ≠ '-') (value : Int) :
      c ∉ Text.ofInt value := by
    intro hmem
    obtain hdigit | hminus := Text.isDigit_or_of_mem_ofInt hmem
    · rw [hc] at hdigit
      cases hdigit
    · exact hsign hminus
  rw [text_eq, text_eq] at h
  obtain ⟨hline, h⟩ := Text.append_cons_inj_of_not_mem (hnone ':' rfl (by decide) _)
    (hnone ':' rfl (by decide) _) h
  obtain ⟨hcolumn, h⟩ := Text.append_cons_inj_of_not_mem (hnone ' ' rfl (by decide) _)
    (hnone ' ' rfl (by decide) _) h
  obtain ⟨hseverity, h⟩ := Text.append_cons_inj_of_not_mem
    diagnostic.severity.space_not_mem_name other.severity.space_not_mem_name h
  -- The message may hold spaces, but the brackets behind it do not.
  obtain ⟨hmessage, htag⟩ := Text.append_cons_inj_of_not_mem_rest (space_not_mem_tag hrule)
    (space_not_mem_tag hother) h
  obtain ⟨hname, hkind⟩ := Text.append_cons_inj_of_not_mem
    (hrule ▸ rule.slash_not_mem_name) (hother ▸ otherRule.slash_not_mem_name) (List.cons.inj htag).2
  have hlocation : diagnostic.location = other.location := by
    rw [Location.mk.injEq]
    exact ⟨Text.ofInt_injective hline, Text.ofInt_injective hcolumn⟩
  exact ⟨hlocation, Severity.name_injective hseverity, hmessage, hname,
    Kind.name_injective (List.append_cancel_right hkind)⟩

/-- A reported diagnostic names a selector or a token first among its values. -/
theorem Reported.exists_selector (h : diagnostic.Reported) :
    ∃ selector rest, diagnostic.data = ("selector".toList, selector) :: rest := by
  obtain ⟨-, selector, depth, hdata⟩ := h.exists_rule_values
  obtain ⟨rest, hrest⟩ := diagnostic.kind.exists_values_eq selector depth
  exact ⟨selector, rest, hdata.trans hrest⟩

/-- The line of a reported diagnostic identifies it: two of them with the same line have the same
location, severity, rule, kind and values, whatever the selectors are and under whichever
configurations they are reported. What a message is about stands in it as it is, between two texts
that do not depend on it, so that nothing in it is taken for a place of the message. -/
theorem text_identifies_reported :
    (∀ diagnostic other : Diagnostic, diagnostic.Reported → other.Reported →
      diagnostic.text = other.text → diagnostic = other) ∧
    ∀ diagnostic : Diagnostic, diagnostic.Reported → ∃ selector rest before after,
      diagnostic.data = ("selector".toList, selector) :: rest ∧
      ∀ value, diagnostic.kind.message (("selector".toList, value) :: rest) =
        before ++ value ++ after := by
  constructor
  · intro diagnostic other hdiagnostic hother h
    obtain ⟨⟨rule, hrule⟩, selector, depth, hdata⟩ := hdiagnostic.exists_rule_values
    obtain ⟨⟨otherRule, hotherRule⟩, otherSelector, otherDepth, hotherData⟩ :=
      hother.exists_rule_values
    obtain ⟨hlocation, hseverity, hmessage, hname, hkind⟩ := parts_of_text hrule hotherRule h
    have hvalues : diagnostic.data = other.data := by
      rw [message, message, hdata, hotherData, ← hkind] at hmessage
      rw [hdata, hotherData, ← hkind, Kind.values_of_message hmessage]
    rw [Diagnostic.mk.injEq]
    exact ⟨hname, hkind, hlocation, hvalues, hseverity⟩
  · intro diagnostic hdiagnostic
    obtain ⟨selector, rest, hdata⟩ := hdiagnostic.exists_selector
    exact ⟨selector, rest, _, _, hdata, fun value => diagnostic.kind.message_cons value rest⟩

/-- The same line from two sources under two configurations, about a selector that holds what looks
like a place of a message. -/
theorem text_identifies_reported_placeholder :
    let selector : Text := ".a [b=\"\x7b\x7bmaxDepth\x7d\x7d\"]"
    let strict : Config := { options := { maxDepth := 1 }, rules := [("class-format", .error)] }
    ∃ first second diagnostic other,
      ({} : Config).lintSource (selector ++ "\x7b\x7d") "a.css" = .ok first ∧
      strict.lintSource (selector ++ "\x7b\x7d.b-c\x7b\x7d") "b.css" = .ok second ∧
      diagnostic ∈ first.diagnostics ∧ other ∈ second.diagnostics ∧
      diagnostic.text = other.text ∧ diagnostic = other ∧
      diagnostic.message = "Unexpected descendant combinator in \"".toList ++ selector ++
        "\". Use direct child combinator (>) instead." := by
  intro selector strict
  have hfirst : ∃ sheet, Stylesheet.parse (selector ++ "\x7b\x7d") = .ok sheet ∧
      sheet.selectors = [⟨selector, .start⟩] := by
    refine ⟨⟨[⟨selector, .start, [⟨selector, .start⟩], []⟩]⟩, ?_, rfl⟩
    with_unfolding_all rfl
  have hsecond : ∃ sheet, Stylesheet.parse (selector ++ "\x7b\x7d.b-c\x7b\x7d") = .ok sheet ∧
      sheet.selectors = [⟨selector, .start⟩, ⟨".b-c", ⟨1, 24⟩⟩] := by
    refine ⟨⟨[⟨selector, .start, [⟨selector, .start⟩], []⟩,
      ⟨".b-c", ⟨1, 24⟩, [⟨".b-c", ⟨1, 24⟩⟩], []⟩]⟩, ?_, ?_⟩
    · with_unfolding_all rfl
    · with_unfolding_all rfl
  let diagnostic : Diagnostic := ⟨LintRule.classFormat.name, .unexpectedDescendantCombinator, .start,
    [("selector", selector)], .error⟩
  have hdiagnose (options : Options) :
      LintRule.classFormat.diagnose ⟨selector, .start⟩ options = [diagnostic] := by
    with_unfolding_all rfl
  have hmem (options : Options) (rules : List (LintRule × Severity)) (rest : List SelectorSource) :
      diagnostic ∈ (⟨selector, .start⟩ :: rest).flatMap
        (ofSelector options ((.classFormat, .error) :: rules)) := by
    rw [List.flatMap_cons, ofSelector_cons, hdiagnose]
    exact List.mem_append_left _ (List.mem_append_left _ List.mem_cons_self)
  obtain ⟨firstSheet, hfirst, hfirstSelectors⟩ := hfirst
  obtain ⟨secondSheet, hsecond, hsecondSelectors⟩ := hsecond
  have hlintFirst : ({} : Config).lintSource (selector ++ "\x7b\x7d") "a.css" =
      .ok ⟨"a.css", firstSheet.selectors.flatMap (ofSelector {}
        [(.classFormat, .error), (.noDescendantCombinator, .error)]),
        firstSheet.selectors.length⟩ := Config.lintSource_eq_flatMap "a.css" hfirst rfl
  have hlintSecond : strict.lintSource (selector ++ "\x7b\x7d.b-c\x7b\x7d") "b.css" =
      .ok ⟨"b.css", secondSheet.selectors.flatMap (ofSelector { maxDepth := 1 }
        [(.classFormat, .error)]), secondSheet.selectors.length⟩ :=
    Config.lintSource_eq_flatMap "b.css" hsecond rfl
  have hfirstMem : diagnostic ∈ firstSheet.selectors.flatMap (ofSelector {}
      [(.classFormat, .error), (.noDescendantCombinator, .error)]) :=
    hfirstSelectors ▸ hmem {} _ _
  have hsecondMem : diagnostic ∈ secondSheet.selectors.flatMap (ofSelector { maxDepth := 1 }
      [(.classFormat, .error)]) :=
    hsecondSelectors ▸ hmem { maxDepth := 1 } _ _
  have hmessage : diagnostic.message = "Unexpected descendant combinator in \"".toList ++ selector ++
      "\". Use direct child combinator (>) instead." := by
    with_unfolding_all rfl
  have hsame : diagnostic = diagnostic := text_identifies_reported.1 diagnostic diagnostic
    ⟨{}, _, _, _, hlintFirst, hfirstMem⟩ ⟨strict, _, _, _, hlintSecond, hsecondMem⟩ rfl
  exact ⟨_, _, diagnostic, diagnostic, hlintFirst, hlintSecond, hfirstMem, hsecondMem, rfl, hsame,
    hmessage⟩

end Diagnostic

end ClassLint
