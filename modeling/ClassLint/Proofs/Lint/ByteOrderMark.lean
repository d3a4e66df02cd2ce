import ClassLint.Proofs.Check.Alike
import ClassLint.Proofs.Lint.Composition
import ClassLint.Proofs.Stylesheet.MarkedPrelude
import ClassLint.Proofs.Text.Utf8

/-!
# Linting a file with a byte order mark

A file of a style sheet with a byte order mark in front should be linted as without the mark, and
only columns on the first line should differ. It is, unless the style sheet starts with a rule: then
the mark joins the first selector of this rule, or makes one. The lint results agree exactly if
there is a first selector already and the enabled rules tell the same about it with the mark in
front.
-/

namespace ClassLint

open Text (byteOrderMark)

/-- Outcomes that tell the same: related results, or the same error. -/
inductive SameOutcome {ε α : Type} (same : α → α → Prop) : Except ε α → Except ε α → Prop where
  | ok {first second : α} (h : same first second) : SameOutcome same (.ok first) (.ok second)
  | error (error : ε) : SameOutcome same (.error error) (.error error)

/-- Diagnostics that tell the same, but for the column on the first line. -/
structure Diagnostic.Agrees (first second : Diagnostic) : Prop where
  rule : first.rule = second.rule
  kind : first.kind = second.kind
  severity : first.severity = second.severity
  data : first.data = second.data
  line : first.location.line = second.location.line
  column : first.location.line ≠ 1 → first.location.column = second.location.column

/-- Lint results that tell the same, but for columns on the first line. -/
structure LintResult.Agrees (first second : LintResult) : Prop where
  selectorCount : first.selectorCount = second.selectorCount
  diagnostics : List.Forall₂ Diagnostic.Agrees first.diagnostics second.diagnostics

/-- Every diagnostic tells the same as itself. -/
theorem Diagnostic.Agrees.refl (diagnostic : Diagnostic) : diagnostic.Agrees diagnostic :=
  ⟨rfl, rfl, rfl, rfl, rfl, fun _ => rfl⟩

namespace SameOutcome

variable {ε δ α β : Type} {same : α → α → Prop} {first second : Except ε α}

/-- Every outcome is the same as itself. -/
theorem refl (hsame : ∀ a, same a a) (outcome : Except ε α) : SameOutcome same outcome outcome := by
  cases outcome with
  | ok a => exact .ok (hsame a)
  | error error => exact .error error

/-- The same outcomes stay so when related functions are applied to their results. -/
theorem map {related : β → β → Prop} {f g : α → β} (h : SameOutcome same first second)
    (hfg : ∀ a b, same a b → related (f a) (g b)) :
    SameOutcome related (first.map f) (second.map g) := by
  cases h with
  | ok h => exact .ok (hfg _ _ h)
  | error error => exact .error error

/-- The same outcomes stay so when their errors are wrapped. -/
theorem mapError (f : ε → δ) (h : SameOutcome same first second) :
    SameOutcome same (first.mapError f) (second.mapError f) := by
  cases h with
  | ok h => exact .ok h
  | error error => exact .error (f error)

/-- The same outcomes one after the other. -/
theorem append {others behind : Except ε (List β)} {row rest : Except ε (List β)}
    {related : β → β → Prop} (hrow : SameOutcome (List.Forall₂ related) row rest)
    (hothers : SameOutcome (List.Forall₂ related) others behind) :
    SameOutcome (List.Forall₂ related) (do let a ← row; let b ← others; .ok (a ++ b))
      (do let a ← rest; let b ← behind; .ok (a ++ b)) := by
  cases hrow with
  | error error => exact .error error
  | ok hrow =>
    cases hothers with
    | error error => exact .error error
    | ok hothers => exact .ok (List.rel_append hrow hothers)

end SameOutcome

/-- Rows that are related with others behind them are related, if the others are as many. -/
theorem forall₂_of_append {α β : Type} {related : α → β → Prop} {first behind : List α}
    {second others : List β} (h : List.Forall₂ related (first ++ behind) (second ++ others))
    (hlength : behind.length = others.length) : List.Forall₂ related first second := by
  have hsame : first.length = second.length := by
    have htotal := h.length_eq
    rw [List.length_append, List.length_append] at htotal
    omega
  have htake := List.forall₂_take_append _ _ _ h
  rwa [List.take_left' hsame] at htake

/-- Behind a byte order mark only columns on the first line change. -/
theorem Diagnostic.agrees_shift (diagnostic : Diagnostic) :
    (diagnostic.shift [byteOrderMark]).Agrees diagnostic where
  rule := rfl
  kind := rfl
  severity := rfl
  data := rfl
  line := by simp [shift, Location.shift, byteOrderMark]
  column h := by
    have hline : diagnostic.location.line ≠ 1 := by
      simpa [shift, Location.shift, byteOrderMark] using h
    simp [shift, Location.shift, hline]

namespace Selector

/-- A byte order mark in front of a compound makes a compound. -/
theorem isCompound_byteOrderMark {text : Text} (h : IsCompound text) :
    IsCompound (byteOrderMark :: text) := by
  obtain ⟨-, hmarks⟩ := isCompound_iff.1 h
  refine isCompound_iff.2 ⟨by simp, ?_⟩
  rw [Place.start, scan_false_char (by decide)]
  exact List.forall_mem_cons.2 ⟨by decide, hmarks⟩

/-- A byte order mark in front of a compound changes none of its class tokens. -/
theorem ofCompound_byteOrderMark (text : Text) :
    ClassToken.ofCompound (byteOrderMark :: text) = ClassToken.ofCompound text := by
  have hscan : scan false .start (byteOrderMark :: text) =
      (⟨byteOrderMark, .plain, .top⟩ :: (scan false .start text).1, (scan false .start text).2) :=
    scan_false_char (by decide)
  rw [ClassToken.ofCompound, hscan]
  rfl

/-- A byte order mark in front of a selector that does not start with a separator changes neither
its combinators nor its class tokens. -/
theorem alike_byteOrderMark {text : Text}
    (hhead : ∃ c ∈ text.head?, Text.isBlank c = false ∧ c ∉ separators) :
    Alike (ofText text) (ofText (byteOrderMark :: text)) := by
  obtain ⟨c, hc, hblank, hseparator⟩ := hhead
  obtain ⟨rest, rfl⟩ := List.head?_eq_some_iff.1 hc
  have hstrip := Text.strip_cons hblank rest
  obtain ⟨⟨first, links⟩, hchain⟩ := Chain.exists_writtenBy
    ⟨c, hstrip ▸ List.mem_cons_self, hseparator⟩
  have ⟨gap, behind, htext, hgap, hcompound, hclosed, hlinks⟩ := hchain
  cases gap with
  | cons d gap =>
    rw [hstrip] at htext
    obtain ⟨rfl, -⟩ := List.cons.inj htext
    exact absurd (hgap c List.mem_cons_self) hseparator
  | nil =>
    have hmarked : Chain.WrittenBy (Text.strip (byteOrderMark :: c :: rest))
        ⟨byteOrderMark :: first, links⟩ := by
      refine ⟨[], behind, ?_, by simp, isCompound_byteOrderMark hcompound, fun hne => ?_, hlinks⟩
      · rw [Text.strip_cons rfl, Text.stripRight_cons hblank, ← hstrip, htext]
        rfl
      · exact (Nesting.LeadsTo.cons_iff (by decide)).2 (hclosed hne)
    rw [Alike, ofText_of_writtenBy hchain, ofText_of_writtenBy hmarked]
    simp [Chain.map, Compound.ofText, ofCompound_byteOrderMark]

end Selector

/-- A rule finds the same in a selector that is fine as a whole with a byte order mark in front. -/
theorem LintRule.findings_byteOrderMark (rule : LintRule) {text : Text} {options : Options}
    (hhead : ∃ c ∈ text.head?, Text.isBlank c = false ∧ c ∉ separators)
    (hshaped : (Selector.ofText text).WellShaped options) :
    rule.findings (byteOrderMark :: text) options = rule.findings text options := by
  have halike := Selector.alike_byteOrderMark hhead
  cases rule with
  | classFormat => exact (halike.check_eq hshaped).symm
  | noDescendantCombinator =>
    have hnone (selector : Selector) (h : selector.WellShaped options) :
        selector.checkDescendant = [] := Selector.checkDescendant_eq_nil_iff.2 h.noDescendant
    rw [findings, findings, hnone _ hshaped, hnone _ (halike.wellShaped hshaped)]

namespace Config

variable {config : Config} {source : Text} {sheet : Stylesheet}

/-- The first selector of a prelude with `lead` before it is not touched by a byte order mark in
front: there is one already, and the enabled rules tell the same about it with the mark. -/
def SameFirst (config : Config) (lead : Text) (chunk : Chunk) : Prop :=
  StyleRule.startsAtRule chunk.text = false ∧
    ∃ first marked others,
      SelectorList.split chunk.text chunk.location = first :: others ∧
      SelectorList.split (byteOrderMark :: (lead ++ chunk.text)) .start =
        marked :: others.map (SelectorSource.shift [byteOrderMark]) ∧
      SameOutcome (List.Forall₂ Diagnostic.Agrees)
        (diagnoseWith config.options marked config.rules)
        (diagnoseWith config.options first config.rules)

/-- A style sheet that a byte order mark in front does not touch: if it starts with a rule, the
first selector of that rule is not touched. -/
def Unaffected (config : Config) (source : Text) : Prop :=
  ∀ lead chunk, Leads source lead chunk → config.SameFirst lead chunk

/-- The enabled rules tell the same about selectors behind a byte order mark. -/
theorem sameOutcome_diagnoseAll_shift (config : Config) (selectors : List SelectorSource) :
    SameOutcome (List.Forall₂ Diagnostic.Agrees)
      (config.diagnoseAll (selectors.map (SelectorSource.shift [byteOrderMark])))
      (config.diagnoseAll selectors) := by
  rw [diagnoseAll_shift]
  cases config.diagnoseAll selectors with
  | error error => exact .error error
  | ok diagnostics =>
    refine .ok (List.forall₂_map_left_iff.2 (List.forall₂_same.2 fun diagnostic _ => ?_))
    exact diagnostic.agrees_shift

/-- Where a byte order mark does not touch a style sheet, linting tells the same. -/
theorem lintSource_of_unaffected (hparse : Stylesheet.parse source = .ok sheet)
    (h : config.Unaffected source) (filename : Text) :
    SameOutcome LintResult.Agrees (config.lintSource (byteOrderMark :: source) filename)
      (config.lintSource source filename) := by
  obtain ⟨marked, hmarked, hcases⟩ := Stylesheet.selectors_byteOrderMark hparse
  rw [lintSource_eq_map filename hmarked, lintSource_eq_map filename hparse]
  have hresult {first second : List SelectorSource} (hlength : first.length = second.length)
      (hsame : SameOutcome (List.Forall₂ Diagnostic.Agrees) (config.diagnoseAll first)
        (config.diagnoseAll second)) :
      SameOutcome LintResult.Agrees
        ((config.diagnoseAll first).map (⟨filename, ·, first.length⟩))
        ((config.diagnoseAll second).map (⟨filename, ·, second.length⟩)) :=
    hsame.map fun a b hab => ⟨hlength, hab⟩
  rcases hcases with ⟨-, hselectors⟩ | ⟨lead, chunk, behind, hleads, hselectors, -, hplain⟩
  · rw [hselectors]
    exact hresult (List.length_map _) (config.sameOutcome_diagnoseAll_shift _)
  · obtain ⟨hat, first, other, others, hfirst, hother, hsame⟩ := h lead chunk hleads
    rw [hselectors, hplain hat, hfirst, hother, List.cons_append, List.cons_append,
      ← List.map_append]
    refine hresult (by simp) ?_
    rw [diagnoseAll, diagnoseAll]
    exact hsame.append (config.sameOutcome_diagnoseAll_shift _)

/-- Known rules report the same of selectors that stand behind a text, one by one. -/
theorem flatMap_ofSelector_shift {rules : List (LintRule × Severity)}
    (hrules : config.rules = rules.map fun entry => (entry.1.name, entry.2)) (before : Text)
    (selectors : List SelectorSource) :
    (selectors.map (SelectorSource.shift before)).flatMap
        (Diagnostic.ofSelector config.options rules) =
      (selectors.flatMap (Diagnostic.ofSelector config.options rules)).map
        (Diagnostic.shift before) := by
  have hshift := config.diagnoseAll_shift before selectors
  rw [diagnoseAll_eq_flatMap hrules, diagnoseAll_eq_flatMap hrules] at hshift
  exact Except.ok.inj hshift

/-- Where linting tells the same by known rules, a byte order mark does not touch the style
sheet. -/
theorem unaffected_of_sameOutcome (hparse : Stylesheet.parse source = .ok sheet)
    (hnames : ∀ entry ∈ config.rules, entry.1 ∈ LintRule.names) {filename : Text}
    (h : SameOutcome LintResult.Agrees (config.lintSource (byteOrderMark :: source) filename)
      (config.lintSource source filename)) : config.Unaffected source := by
  obtain ⟨marked, hmarked, hcases⟩ := Stylesheet.selectors_byteOrderMark hparse
  obtain ⟨rules, hrules⟩ := LintRule.exists_levels hnames
  rw [lintSource_eq_flatMap filename hmarked hrules,
    lintSource_eq_flatMap filename hparse hrules] at h
  cases h with
  | ok h =>
  obtain ⟨hcount, hdiagnostics⟩ := h
  dsimp only at hcount hdiagnostics
  intro lead chunk hleads
  rcases hcases with ⟨hnone, -⟩ | ⟨lead', chunk', behind, hleads', hselectors, hrule, hplain⟩
  · exact absurd hleads (hnone lead chunk)
  obtain ⟨rfl, rfl⟩ := hleads'.unique hleads
  obtain ⟨first, other, others, hfirst, hother⟩ :=
    SelectorList.split_byteOrderMark hleads.skipped chunk'.text
  rw [← hleads.location_eq] at hfirst
  rw [hselectors, hother] at hcount hdiagnostics
  cases hat : StyleRule.startsAtRule chunk'.text with
  | true =>
    -- The at-rule becomes a rule with a selector at least.
    have hfewer := (hrule hat).length_le
    simp at hcount
    omega
  | false =>
    rw [hplain hat, hfirst] at hcount hdiagnostics
    cases first with
    | none =>
      -- The empty first entry becomes a selector.
      simp at hcount
    | some first =>
      refine ⟨hat, first, other, others, hfirst, hother, ?_⟩
      rw [List.cons_append, ← List.map_append, List.flatMap_cons, Option.toList_some,
        List.singleton_append, List.cons_append, List.flatMap_cons,
        flatMap_ofSelector_shift hrules] at hdiagnostics
      rw [hrules, diagnoseWith_map, diagnoseWith_map]
      exact .ok (forall₂_of_append hdiagnostics (List.length_map _))

/-- Rules tell the same about selectors at one location in which each of them finds the same. -/
theorem diagnoseWith_congr (options : Options) (levels : RuleLevels) {first second : SelectorSource}
    (hlocation : first.location = second.location)
    (hfindings : ∀ rule : LintRule,
      rule.findings first.text options = rule.findings second.text options) :
    diagnoseWith options first levels = diagnoseWith options second levels := by
  have hdiagnose (rule : LintRule) :
      rule.diagnose first options = rule.diagnose second options := by
    rw [rule.diagnose_eq_map, rule.diagnose_eq_map, hfindings, hlocation]
  induction levels with
  | nil => rfl
  | cons entry levels ih =>
    obtain ⟨name, severity⟩ := entry
    rw [diagnoseWith, diagnoseWith, ih]
    simp only [hdiagnose]

/-- A byte order mark right in front of a style sheet does not touch it if it starts with a selector
that is fine as a whole. -/
theorem unaffected_of_wellShaped {chunk : Chunk} (hleads : Leads source [] chunk)
    (hhead : ∃ c ∈ chunk.text.head?, c ∉ '@' :: ',' :: '/' :: separators)
    (hshaped : ∀ first ∈ (SelectorList.split chunk.text chunk.location).head?,
      (Selector.ofText first.text).WellShaped config.options) : config.Unaffected source := by
  obtain ⟨c, hc, hrole⟩ := hhead
  simp only [List.mem_cons, not_or] at hrole
  obtain ⟨hat, hcomma, hslash, hseparator⟩ := hrole
  have hblank := hleads.isBlank_of_head c hc
  obtain ⟨rest, htext⟩ := List.head?_eq_some_iff.1 hc
  obtain ⟨text, others, hplain, hmarked⟩ :=
    SelectorList.split_byteOrderMark_cons hblank hcomma hslash rest
  have hselectors : SelectorList.split chunk.text chunk.location =
      ⟨c :: text, .start⟩ :: others := by
    rw [hleads.location_eq, htext]
    exact hplain
  have hshape := hshaped _ (List.head?_eq_some_iff.2 ⟨_, hselectors⟩)
  have hsame : diagnoseWith config.options ⟨byteOrderMark :: c :: text, .start⟩ config.rules =
      diagnoseWith config.options ⟨c :: text, .start⟩ config.rules :=
    diagnoseWith_congr _ _ rfl fun rule =>
      rule.findings_byteOrderMark ⟨c, rfl, hblank, hseparator⟩ hshape
  intro lead other hother
  obtain ⟨rfl, rfl⟩ := hleads.unique hother
  refine ⟨?_, _, _, others, hselectors, by rw [htext]; exact hmarked, ?_⟩
  · rw [← Bool.not_eq_true, StyleRule.startsAtRule_iff, hc]
    exact fun heq => hat (Option.some.inj heq)
  · rw [hsame]
    exact .refl (fun diagnostics => List.forall₂_same.2 fun diagnostic _ => .refl diagnostic) _

/-- Linting a file that holds a text is linting the text with its line ends written as line
feeds. -/
theorem lintFile_of_encode {files : Files} {path text : Text}
    (h : files path = .file (Utf8.encode text)) :
    config.lintFile files path =
      (config.lintSource (Utf8.normalizeNewlines text) path).mapError .lint := by
  rw [lintFile, Files.readText_of_file h, Utf8.decode_eq_ok_iff.2 rfl]
  dsimp only
  cases config.lintSource (Utf8.normalizeNewlines text) path with
  | ok result => rfl
  | error error => rfl

/-- Linting a file with a byte order mark is linting its text with the mark in front. -/
theorem lintFile_byteOrderMark {files : Files} {path text : Text}
    (h : files path = .file (0xEF :: 0xBB :: 0xBF :: Utf8.encode text)) :
    config.lintFile files path =
      (config.lintSource (byteOrderMark :: Utf8.normalizeNewlines text) path).mapError .lint := by
  have hencode : Utf8.encode (byteOrderMark :: text) =
      0xEF :: 0xBB :: 0xBF :: Utf8.encode text := rfl
  have hlines : Utf8.normalizeNewlines (byteOrderMark :: text) =
      byteOrderMark :: Utf8.normalizeNewlines text := by
    have hreturn : byteOrderMark ≠ '\r' := by decide
    rw [Utf8.normalizeNewlines]
    · exact fun _ heq _ => hreturn heq
    · exact hreturn
  rw [← hencode] at h
  rw [lintFile_of_encode h, hlines]

/-- A byte order mark in front of a file does not change what linting tells, but for columns on the
first line, exactly if it does not touch the style sheet. It does not touch a style sheet that does
not start with a rule, nor one that starts right away with a selector which is fine as a whole. -/
theorem byteOrderMark_harmless_iff {files marked : Files} {path text : Text} {sheet : Stylesheet}
    (hplain : files path = .file (Utf8.encode text))
    (hmarked : marked path = .file (0xEF :: 0xBB :: 0xBF :: Utf8.encode text))
    (hparse : Stylesheet.parse (Utf8.normalizeNewlines text) = .ok sheet) (config : Config) :
    (config.Unaffected (Utf8.normalizeNewlines text) →
      SameOutcome LintResult.Agrees (config.lintFile marked path) (config.lintFile files path)) ∧
    ((∀ entry ∈ config.rules, entry.1 ∈ LintRule.names) →
      ∃ result other, config.lintFile files path = .ok result ∧
        config.lintFile marked path = .ok other ∧
        (other.Agrees result ↔ config.Unaffected (Utf8.normalizeNewlines text))) ∧
    ∀ chunk, Leads (Utf8.normalizeNewlines text) [] chunk →
      (∃ c ∈ chunk.text.head?, c ∉ '@' :: ',' :: '/' :: separators) →
      (∀ first ∈ (SelectorList.split chunk.text chunk.location).head?,
        (Selector.ofText first.text).WellShaped config.options) →
      config.Unaffected (Utf8.normalizeNewlines text) := by
  rw [lintFile_of_encode hplain, lintFile_byteOrderMark hmarked]
  refine ⟨fun h => (lintSource_of_unaffected hparse h path).mapError _, fun hnames => ?_,
    fun chunk => unaffected_of_wellShaped⟩
  obtain ⟨rules, hrules⟩ := LintRule.exists_levels hnames
  obtain ⟨other, hother, -⟩ := Stylesheet.selectors_byteOrderMark hparse
  have hresult := lintSource_eq_flatMap path hparse hrules
  have hmark := lintSource_eq_flatMap path hother hrules
  refine ⟨_, _, by rw [hresult]; rfl, by rw [hmark]; rfl, fun h => ?_, fun h => ?_⟩
  · apply unaffected_of_sameOutcome hparse hnames
    rw [hresult, hmark]
    exact .ok h
  · have hsame := lintSource_of_unaffected hparse h path
    rw [hresult, hmark] at hsame
    cases hsame with
    | ok hagrees => exact hagrees

/-- By default all rules run and report errors. -/
theorem rules_default : ({} : Config).rules =
    (LintRule.all.map (·, Severity.error)).map fun entry => (entry.1.name, entry.2) :=
  rfl

/-- A rule at the start with a selector that is fine, and on the second line one that is not. -/
theorem byteOrderMark_harmless_iff_two_lines :
    ∃ text sheet result other, text = ".a-b > .c\x7b\x7d\x0d\n.d .e\x7b\x7d".toList ∧
      Stylesheet.parse (Utf8.normalizeNewlines text) = .ok sheet ∧
      ({} : Config).lintFile (fun _ => .file (Utf8.encode text)) "a.css" = .ok result ∧
      ({} : Config).lintFile (fun _ => .file (0xEF :: 0xBB :: 0xBF :: Utf8.encode text)) "a.css" =
        .ok other ∧
      other.Agrees result ∧ result.diagnostics.map Diagnostic.location = [⟨2, 1⟩, ⟨2, 1⟩] := by
  obtain ⟨text, htext⟩ : ∃ text : Text, text = ".a-b > .c\x7b\x7d\x0d\n.d .e\x7b\x7d".toList :=
    ⟨_, rfl⟩
  have hparse : Stylesheet.parse (Utf8.normalizeNewlines text) =
      .ok ⟨[⟨".a-b > .c".toList, ⟨1, 1⟩, [⟨".a-b > .c".toList, ⟨1, 1⟩⟩], []⟩,
        ⟨".d .e".toList, ⟨2, 1⟩, [⟨".d .e".toList, ⟨2, 1⟩⟩], []⟩]⟩ := by
    subst htext
    with_unfolding_all rfl
  have htokens : Token.ofSource (Utf8.normalizeNewlines text) =
      [⟨.text, 0, 9⟩, ⟨.opening, 9, 10⟩, ⟨.closing, 10, 11⟩, ⟨.text, 12, 17⟩, ⟨.opening, 17, 18⟩,
        ⟨.closing, 18, 19⟩] := by
    subst htext
    with_unfolding_all rfl
  have hleads : Leads (Utf8.normalizeNewlines text) [] ⟨".a-b > .c".toList, .start⟩ := by
    refine ⟨[⟨.text, 0, 9⟩], ⟨.opening, 9, 10⟩, _, htokens, ⟨by simp, _, rfl, _, rfl, ?_⟩, rfl, _,
      rfl, rfl⟩
    subst htext
    decide
  have hshaped : ∀ first ∈ (SelectorList.split ".a-b > .c".toList .start).head?,
      (Selector.ofText first.text).WellShaped ({} : Config).options := by
    have hfirst : (SelectorList.split ".a-b > .c".toList .start).head? =
        some ⟨".a-b > .c".toList, .start⟩ := by decide
    rw [hfirst]
    rintro first ⟨⟩
    exact ⟨Selector.checkDescendant_eq_nil_iff.1 (by decide),
      Selector.checkDepth_eq_nil_iff.1 (by decide),
      Selector.checkMultiComponent_eq_nil_iff.1 (by decide)⟩
  obtain ⟨-, hagrees, hfine⟩ :=
    @byteOrderMark_harmless_iff (fun _ => _) (fun _ => _) "a.css" text _ rfl rfl hparse {}
  obtain ⟨result, other, hresult, hother, hiff⟩ := hagrees (by decide)
  refine ⟨text, _, result, other, htext, hparse, hresult, hother,
    hiff.2 (hfine _ hleads ⟨'.', rfl, by decide⟩ hshaped), ?_⟩
  rw [lintFile_of_encode rfl, lintSource_eq_flatMap "a.css" hparse rules_default] at hresult
  cases hresult
  decide

/-- A grouping at-rule at the start: with the mark in front its prelude is a selector, and one that
is reported. -/
theorem byteOrderMark_at_rule :
    ∃ text sheet result other, text = "@media print\x7b.a-b\x7b\x7d\x7d".toList ∧
      Stylesheet.parse (Utf8.normalizeNewlines text) = .ok sheet ∧
      ({} : Config).lintFile (fun _ => .file (Utf8.encode text)) "a.css" = .ok result ∧
      ({} : Config).lintFile (fun _ => .file (0xEF :: 0xBB :: 0xBF :: Utf8.encode text)) "a.css" =
        .ok other ∧
      result.selectorCount = 1 ∧ result.hasErrors = false ∧ other.selectorCount = 2 ∧
      other.hasErrors = true ∧ ¬ other.Agrees result := by
  obtain ⟨text, htext⟩ : ∃ text : Text, text = "@media print\x7b.a-b\x7b\x7d\x7d".toList := ⟨_, rfl⟩
  have hparse : Stylesheet.parse (Utf8.normalizeNewlines text) =
      .ok ⟨[⟨"@media print".toList, ⟨1, 1⟩, [],
        [⟨".a-b".toList, ⟨1, 14⟩, [⟨".a-b".toList, ⟨1, 14⟩⟩], []⟩]⟩]⟩ := by
    subst htext
    with_unfolding_all rfl
  have hmark : Stylesheet.parse (byteOrderMark :: Utf8.normalizeNewlines text) =
      .ok ⟨[⟨byteOrderMark :: "@media print".toList, ⟨1, 1⟩,
        [⟨byteOrderMark :: "@media print".toList, ⟨1, 1⟩⟩],
        [⟨".a-b".toList, ⟨1, 15⟩, [⟨".a-b".toList, ⟨1, 15⟩⟩], []⟩]⟩]⟩ := by
    subst htext
    with_unfolding_all rfl
  have hplain := lintSource_eq_flatMap "a.css" hparse rules_default
  have hmarked := lintSource_eq_flatMap "a.css" hmark rules_default
  refine ⟨text, _, _, _, htext, hparse, by rw [lintFile_of_encode rfl, hplain]; rfl,
    by rw [lintFile_byteOrderMark rfl, hmarked]; rfl, rfl, by decide, rfl, by decide, fun h => ?_⟩
  exact absurd h.selectorCount (by decide)

end Config

end ClassLint
