import ClassLint.Proofs.Lint.SourceOrder
import ClassLint.Proofs.Stylesheet.Placement

/-!
# Style sheets one after the other

A style sheet, a semicolon and a second source are linted as the two are by themselves: the
diagnostics of the second follow those of the first, shifted past the first and the semicolon. The
checks read the text of a selector only, so that a shift of its location is a shift of its
diagnostics, and the sort at the end changes nothing under any configuration.
-/

namespace ClassLint

/-- A diagnostic behind other text: the same finding at the shifted location. -/
def Diagnostic.shift (before : Text) (diagnostic : Diagnostic) : Diagnostic :=
  { diagnostic with location := diagnostic.location.shift before }

/-- A rule finds the same in a shifted selector. -/
theorem LintRule.diagnose_shift (rule : LintRule) (before : Text) (selector : SelectorSource)
    (options : Options) :
    rule.diagnose (selector.shift before) options =
      (rule.diagnose selector options).map (Diagnostic.shift before) := by
  rw [diagnose_eq_map, diagnose_eq_map, List.map_map]
  rfl

/-- A rule that is found by a name has it. -/
theorem LintRule.name_of_ofName? {name : Text} {rule : LintRule} (h : ofName? name = some rule) :
    rule.name = name := by
  simpa using List.find?_some h

namespace Config

variable {config : Config} {options : Options} {selectors : List SelectorSource}
  {diagnostics : List Diagnostic}

/-- Rules that give diagnostics for a selector have known names. -/
theorem exists_rules_of_diagnoseWith {selector : SelectorSource} {levels : RuleLevels}
    (h : diagnoseWith options selector levels = .ok diagnostics) :
    ∃ rules : List (LintRule × Severity),
      levels = rules.map fun entry => (entry.1.name, entry.2) := by
  induction levels generalizing diagnostics with
  | nil => exact ⟨[], rfl⟩
  | cons entry levels ih =>
    obtain ⟨name, severity⟩ := entry
    cases hrule : LintRule.ofName? name with
    | none =>
      rw [diagnoseWith, hrule] at h
      cases h
    | some rule =>
      cases hrest : diagnoseWith options selector levels with
      | error error =>
        rw [diagnoseWith, hrule, hrest] at h
        cases h
      | ok others =>
        obtain ⟨rules, rfl⟩ := ih hrest
        exact ⟨(rule, severity) :: rules, by rw [List.map_cons, LintRule.name_of_ofName? hrule]⟩

/-- The diagnostics of selectors with increasing locations are in order under any configuration. -/
theorem sortByLocation_diagnoseAll
    (hbefore : selectors.Pairwise fun a b => a.location.Before b.location)
    (h : config.diagnoseAll selectors = .ok diagnostics) :
    Diagnostic.sortByLocation diagnostics = diagnostics := by
  cases selectors with
  | nil =>
    cases h
    exact List.mergeSort_nil
  | cons selector rest =>
    cases hfirst : diagnoseWith config.options selector config.rules with
    | error error =>
      rw [diagnoseAll, hfirst] at h
      cases h
    | ok found =>
      obtain ⟨rules, hrules⟩ := exists_rules_of_diagnoseWith hfirst
      rw [diagnoseAll_eq_flatMap hrules] at h
      cases h
      exact Diagnostic.sortByLocation_flatMap config.options rules hbefore

/-- Linting a source that can be read, under any configuration: the diagnostics of its selectors in
order, if all rules are known. -/
theorem lintSource_eq_map {source : Text} {sheet : Stylesheet} (filename : Text)
    (hparse : Stylesheet.parse source = .ok sheet) :
    config.lintSource source filename =
      (config.diagnoseAll sheet.selectors).map
        (⟨filename, ·, sheet.selectors.length⟩) := by
  rw [lintSource, hparse]
  change config.lintStylesheet sheet filename = _
  rw [lintStylesheet]
  cases hfound : config.diagnoseAll sheet.selectors with
  | error error => rfl
  | ok diagnostics =>
    have hsort := sortByLocation_diagnoseAll (Stylesheet.pairwise_before_selectors hparse) hfound
    change Except.ok _ = Except.ok _
    rw [hsort]

/-- Rules find the same in a shifted selector. -/
theorem diagnoseWith_shift (options : Options) (before : Text) (selector : SelectorSource)
    (levels : RuleLevels) :
    diagnoseWith options (selector.shift before) levels =
      (diagnoseWith options selector levels).map (List.map (Diagnostic.shift before)) := by
  induction levels with
  | nil => rfl
  | cons entry levels ih =>
    obtain ⟨name, severity⟩ := entry
    rw [diagnoseWith, diagnoseWith]
    cases LintRule.ofName? name with
    | none => rfl
    | some rule =>
      dsimp only
      rw [ih, rule.diagnose_shift]
      cases diagnoseWith options selector levels with
      | error error => rfl
      | ok others =>
        change Except.ok _ = Except.ok _
        simp [Diagnostic.shift]

/-- The enabled rules find the same in shifted selectors. -/
theorem diagnoseAll_shift (config : Config) (before : Text) (selectors : List SelectorSource) :
    config.diagnoseAll (selectors.map (SelectorSource.shift before)) =
      (config.diagnoseAll selectors).map (List.map (Diagnostic.shift before)) := by
  induction selectors with
  | nil => rfl
  | cons selector rest ih =>
    rw [List.map_cons, diagnoseAll, diagnoseAll, ih, diagnoseWith_shift]
    cases diagnoseWith config.options selector config.rules with
    | error error => rfl
    | ok found =>
      cases config.diagnoseAll rest with
      | error error => rfl
      | ok others =>
        change Except.ok _ = Except.ok _
        rw [List.map_append]

/-- The diagnostics of two rows of selectors follow one another. -/
theorem diagnoseAll_append (config : Config) (first second : List SelectorSource) :
    config.diagnoseAll (first ++ second) = (do
      let found ← config.diagnoseAll first
      let others ← config.diagnoseAll second
      .ok (found ++ others)) := by
  induction first with
  | nil =>
    rw [List.nil_append, diagnoseAll]
    cases config.diagnoseAll second with
    | error error => rfl
    | ok others => rfl
  | cons selector rest ih =>
    rw [List.cons_append, diagnoseAll, diagnoseAll, ih]
    cases diagnoseWith config.options selector config.rules with
    | error error => rfl
    | ok found =>
      cases config.diagnoseAll rest with
      | error error => rfl
      | ok others =>
        cases config.diagnoseAll second with
        | error error => rfl
        | ok last =>
          change Except.ok _ = Except.ok _
          rw [List.append_assoc]

/-- A style sheet, a semicolon and a second style sheet are linted one after the other. -/
theorem lintSource_append_semicolon (config : Config) (filename : Text) {first second : Text}
    {sheet other : Stylesheet} (hfirst : Stylesheet.parse first = .ok sheet)
    (hsecond : Stylesheet.parse second = .ok other) :
    config.lintSource (first ++ ';' :: second) filename = (do
      let before ← config.lintSource first filename
      let behind ← config.lintSource second filename
      .ok ⟨filename,
        before.diagnostics ++ behind.diagnostics.map (Diagnostic.shift (first ++ [';'])),
        before.selectorCount + behind.selectorCount⟩) := by
  have hselectors : (⟨sheet.rules ++ other.rules.map (StyleRule.shift (first ++ [';']))⟩ :
      Stylesheet).selectors =
        sheet.selectors ++ other.selectors.map (SelectorSource.shift (first ++ [';'])) := by
    rw [Stylesheet.selectors, StyleRule.walkAll_append, ← StyleRule.shiftAll_eq_map,
      StyleRule.walkAll_shiftAll]
    rfl
  rw [lintSource_eq_map filename (Stylesheet.parse_append_semicolon hfirst hsecond), hselectors,
    lintSource_eq_map filename hfirst, lintSource_eq_map filename hsecond, diagnoseAll_append,
    diagnoseAll_shift, List.length_append, List.length_map]
  cases config.diagnoseAll sheet.selectors with
  | error error => rfl
  | ok found =>
    cases config.diagnoseAll other.selectors with
    | error error => rfl
    | ok others => rfl

end Config

/-- Style sheets compose at a semicolon. Behind a style sheet and a semicolon, a second source is
read exactly if it is read by itself. Its rules then follow those of the first, and so do its
diagnostics under any configuration, all shifted past the first source and the semicolon; the
numbers of selectors add up. What is wrong with the second source is reported at the shifted
location. -/
theorem Config.semicolon_composes {first : Text} {sheet : Stylesheet}
    (hfirst : Stylesheet.parse first = .ok sheet) (second : Text) :
    ((∃ whole, Stylesheet.parse (first ++ ';' :: second) = .ok whole) ↔
      ∃ other, Stylesheet.parse second = .ok other) ∧
    (∀ other, Stylesheet.parse second = .ok other →
      Stylesheet.parse (first ++ ';' :: second) =
        .ok ⟨sheet.rules ++ other.rules.map (StyleRule.shift (first ++ [';']))⟩ ∧
      ∀ (config : Config) (filename : Text),
        config.lintSource (first ++ ';' :: second) filename = (do
          let before ← config.lintSource first filename
          let behind ← config.lintSource second filename
          .ok ⟨filename,
            before.diagnostics ++ behind.diagnostics.map (Diagnostic.shift (first ++ [';'])),
            before.selectorCount + behind.selectorCount⟩) ∧
        ((∀ entry ∈ config.rules, entry.1 ∈ LintRule.names) →
          ∃ result, config.lintSource (first ++ ';' :: second) filename = .ok result)) ∧
    ∀ error, Stylesheet.parse second = .error error →
      Stylesheet.parse (first ++ ';' :: second) = .error (error.shift (first ++ [';'])) := by
  refine ⟨⟨?_, ?_⟩, ?_, fun error => Stylesheet.parse_append_semicolon_error hfirst⟩
  · intro hwhole
    obtain ⟨whole, hwhole⟩ := hwhole
    cases hsecond : Stylesheet.parse second with
    | ok other => exact ⟨other, rfl⟩
    | error error =>
      rw [Stylesheet.parse_append_semicolon_error hfirst hsecond] at hwhole
      cases hwhole
  · intro hother
    obtain ⟨other, hsecond⟩ := hother
    exact ⟨_, Stylesheet.parse_append_semicolon hfirst hsecond⟩
  · intro other hsecond
    have hwhole := Stylesheet.parse_append_semicolon hfirst hsecond
    refine ⟨hwhole, fun config filename => ⟨?_, fun hnames => ?_⟩⟩
    · exact config.lintSource_append_semicolon filename hfirst hsecond
    · obtain ⟨rules, hrules⟩ := LintRule.exists_levels hnames
      exact ⟨_, lintSource_eq_flatMap filename hwhole hrules⟩

/-- A first source that ends on its second line with a chunk and a comment. Behind it and a
semicolon, the first line of a second source moves down and to the right and the others only
down; a closing brace too many is reported where it stands. -/
theorem Config.semicolon_composes_two_lines :
    ∃ sheet other result,
      Stylesheet.parse "a\x7b\x7d\nb/*;*/".toList = .ok sheet ∧
      Stylesheet.parse ".d .e\x7b\x7d\n@media m\x7bf\x7b\x7d\x7d".toList = .ok other ∧
      Stylesheet.parse ("a\x7b\x7d\nb/*;*/".toList ++
          ';' :: ".d .e\x7b\x7d\n@media m\x7bf\x7b\x7d\x7d".toList) =
        .ok ⟨sheet.rules ++ [
          ⟨".d .e".toList, ⟨2, 8⟩, [⟨".d .e".toList, ⟨2, 8⟩⟩], []⟩,
          ⟨"@media m".toList, ⟨3, 1⟩, [], [
            ⟨"f".toList, ⟨3, 10⟩, [⟨"f".toList, ⟨3, 10⟩⟩], []⟩]⟩]⟩ ∧
      ({} : Config).lintSource ("a\x7b\x7d\nb/*;*/".toList ++
          ';' :: ".d .e\x7b\x7d\n@media m\x7bf\x7b\x7d\x7d".toList) "a.css" = .ok result ∧
      Stylesheet.parse ("a\x7b\x7d\nb/*;*/".toList ++ ';' :: "c\n \x7d".toList) =
        .error ⟨.closing, ⟨3, 2⟩⟩ := by
  have hfirst : Stylesheet.parse "a\x7b\x7d\nb/*;*/".toList =
      .ok ⟨[⟨"a".toList, ⟨1, 1⟩, [⟨"a".toList, ⟨1, 1⟩⟩], []⟩]⟩ := by
    with_unfolding_all rfl
  have hsecond : Stylesheet.parse ".d .e\x7b\x7d\n@media m\x7bf\x7b\x7d\x7d".toList =
      .ok ⟨[
        ⟨".d .e".toList, ⟨1, 1⟩, [⟨".d .e".toList, ⟨1, 1⟩⟩], []⟩,
        ⟨"@media m".toList, ⟨2, 1⟩, [], [
          ⟨"f".toList, ⟨2, 10⟩, [⟨"f".toList, ⟨2, 10⟩⟩], []⟩]⟩]⟩ := by
    with_unfolding_all rfl
  have hbrace : Stylesheet.parse "c\n \x7d".toList = .error ⟨.closing, ⟨2, 2⟩⟩ := by
    with_unfolding_all rfl
  have hboth := (semicolon_composes hfirst _).2.1 _ hsecond
  obtain ⟨result, hresult⟩ := (hboth.2 {} "a.css").2 (by decide)
  exact ⟨_, _, result, hfirst, hsecond, hboth.1, hresult,
    (semicolon_composes hfirst _).2.2 _ hbrace⟩

end ClassLint
