import ClassLint.Proofs.Check.Stages
import ClassLint.Proofs.Command.Settings
import ClassLint.Proofs.Lint.SourceOrder

/-!
# Accepted configurations never fail

Under a configuration that was accepted, linting a source gives a result, or the parse error of the
source and nothing else, whichever rules the command line chooses. All that the checks look up is
there: every rule has a known name, every role has a format, and a kind of finding with a message
for names that do not fit; and as the depth is at least one, it takes child combinators to exceed
it.
-/

namespace ClassLint

/-- The kinds of findings for names that do not fit differ from role to role. -/
theorem Role.invalidName_injective : Function.Injective invalidName := by
  intro role other h
  cases role <;> cases other <;> first | rfl | cases h

/-- The message for a name that does not fit its role names it between two fixed texts. -/
theorem Role.exists_message_invalidName (role : Role) :
    ∃ before after : Text, ∀ name : Text,
      Finding.message ⟨role.invalidName, [("selector", name)]⟩ = before ++ name ++ after := by
  refine ⟨role.invalidName.wording.1, role.invalidName.wording.2.flatMap (MessagePiece.fill []),
    fun name => ?_⟩
  have hname : MessagePiece.fill [("selector", name)] (.place "selector") = name := by
    rw [MessagePiece.fill, List.lookup_cons_self, Option.getD_some]
  have hrest : role.invalidName.wording.2.flatMap (MessagePiece.fill [("selector", name)]) =
      role.invalidName.wording.2.flatMap (MessagePiece.fill []) := by
    cases role <;> rfl
  rw [Finding.message, Kind.message, Kind.pieces, List.flatMap_cons, List.flatMap_cons, hname,
    hrest, MessagePiece.fill, List.append_assoc]

/-- A selector without child combinators exceeds no depth from one on. -/
theorem Selector.checkDepth_of_no_child {selector : Selector} {options : Options}
    (hdepth : 1 ≤ options.maxDepth) (h : .child ∉ selector.chain.combinators) :
    selector.checkDepth options = [] := by
  rw [checkDepth, if_neg]
  rw [Chain.depth, List.count_eq_zero_of_not_mem h]
  omega

namespace Config

/-- The value that an option has in the value of a configuration. -/
def optionOf? (value : Json) (key : Text) : Option Json :=
  match value with
  | .object members => (Options.membersOf ((Members.get? members "options").getD .null)).get? key
  | _ => none

/-- A format is the one that the value of a configuration gives to a role, or the default if it
gives none. -/
def GivesFormat (value : Json) (role : Role) (format : Format) : Prop :=
  match optionOf? value role.name with
  | none => format = ({} : Formats).get role
  | some given => Format.ofJson given role.name = .ok format

variable {value : Json} {config : Config}

/-- An accepted configuration has known rules. -/
theorem known_of_ofJson (h : ofJson value = .ok config) : RuleLevels.Known config.rules := by
  obtain ⟨members, -, -, hrules, -⟩ := reading_of_ofJson h
  exact known_of_rulesOfMembers hrules

/-- An accepted configuration allows a depth of one at least. -/
theorem one_le_maxDepth_of_ofJson (h : ofJson value = .ok config) :
    1 ≤ config.options.maxDepth := by
  obtain ⟨members, -, -, -, hoptions⟩ := reading_of_ofJson h
  exact Options.one_le_of_readMaxDepth (Options.reading_of_ofJson hoptions).2.2

/-- An accepted configuration has a format for every role. -/
theorem givesFormat_of_ofJson (h : ofJson value = .ok config) (role : Role) :
    GivesFormat value role (config.options.formats.get role) := by
  obtain ⟨members, rfl, -, -, hoptions⟩ := reading_of_ofJson h
  have hformats := (Options.reading_of_ofJson hoptions).2.1
  rw [GivesFormat, optionOf?]
  obtain ⟨hleft | hnone, hsame⟩ | ⟨given, hgiven, hformat⟩ :=
    Options.get_of_readFormats hformats role
  · exact absurd (by cases role <;> decide) hleft
  · rw [hnone]
    exact hsame
  · rw [hgiven]
    exact hformat

/-- Rules with known names give a result for every source that can be read. -/
theorem lintSource_of_known (hknown : RuleLevels.Known config.rules) (source filename : Text) :
    (∃ sheet result, Stylesheet.parse source = .ok sheet ∧
        config.lintSource source filename = .ok result) ∨
      ∃ error, Stylesheet.parse source = .error error ∧
        config.lintSource source filename = .error (.parse error) := by
  cases hparse : Stylesheet.parse source with
  | error error => exact .inr ⟨error, rfl, by rw [lintSource, hparse]⟩
  | ok sheet =>
    obtain ⟨rules, hrules⟩ := LintRule.exists_levels hknown
    exact .inl ⟨sheet, _, rfl, lintSource_eq_flatMap filename hparse hrules⟩

/-- A configuration that is accepted never makes linting fail, whichever rules a command line
chooses from it: every source gives a result, or the error of its parse. Whatever the rules look up
is there: a rule for every name, the given or the default format for every role, and for every role
a kind of its own for names that do not fit, with a message that names them. The depth is at least
one, so that no selector exceeds it without a child combinator. -/
theorem accepted_never_fails (haccepted : ofJson value = .ok config) {files : Files} {given : Given}
    {settings : Settings} (hsettings : Settings.ofGiven files given = .ok settings) :
    let chosen := settings.selectRules config
    (∀ source filename : Text,
      (∃ sheet result, Stylesheet.parse source = .ok sheet ∧
          chosen.lintSource source filename = .ok result) ∨
        ∃ error, Stylesheet.parse source = .error error ∧
          chosen.lintSource source filename = .error (.parse error)) ∧
      (∀ entry ∈ chosen.rules, ∃ rule, LintRule.ofName? entry.1 = some rule) ∧
      (∀ role, GivesFormat value role (chosen.options.formats.get role)) ∧
      Function.Injective Role.invalidName ∧
      (∀ role : Role, ∃ before after : Text, ∀ name : Text,
        Finding.message ⟨role.invalidName, [("selector", name)]⟩ = before ++ name ++ after) ∧
      1 ≤ chosen.options.maxDepth ∧
      ∀ selector : Selector, .child ∉ selector.chain.combinators →
        selector.checkDepth chosen.options = [] := by
  intro chosen
  have hknown : RuleLevels.Known chosen.rules :=
    Settings.known_selectRules (known_of_ofJson haccepted) (Settings.rules_of_ofGiven hsettings)
  have hoptions : chosen.options = config.options := Settings.options_selectRules config
  have hdepth : 1 ≤ chosen.options.maxDepth := by
    rw [hoptions]
    exact one_le_maxDepth_of_ofJson haccepted
  refine ⟨lintSource_of_known hknown, ?_, ?_, Role.invalidName_injective,
    Role.exists_message_invalidName, hdepth,
    fun selector hselector => Selector.checkDepth_of_no_child hdepth hselector⟩
  · intro entry hentry
    obtain ⟨rule, -, hrule⟩ := List.mem_map.1 (hknown entry hentry)
    exact ⟨rule, hrule ▸ LintRule.ofName?_name rule⟩
  · intro role
    rw [hoptions]
    exact givesFormat_of_ofJson haccepted role

/-- A configuration that turns off one rule, lowers the other to a warning and sets a format and the
depth, with the rule that is off chosen twice: one source with a result, and one without. -/
theorem accepted_never_fails_rule_off :
    ∃ config settings,
      ofJson (.object [("rules", .object [("class-format", .text "off"),
          ("no-descendant-combinator", .text "warn")]),
        ("options", .object [("variant", .text "pascal"), ("maxDepth", .integer 1)])]) =
        .ok config ∧
      Settings.ofGiven (fun _ => .missing)
        ⟨[⟨"--rule", "class-format"⟩, ⟨"--rule", "class-format"⟩], []⟩ = .ok settings ∧
      (settings.selectRules config).rules = [(LintRule.classFormat.name, .error)] ∧
      (settings.selectRules config).options.formats.get .variant = .builtin .pascal ∧
      (∃ result, (settings.selectRules config).lintSource ".a>.b\x7b\x7d".toList "a.css" =
        .ok result) ∧
      ∃ error, (settings.selectRules config).lintSource "\x7b".toList "a.css" =
        .error (.parse error) := by
  have haccepted : ofJson (.object [("rules", .object [("class-format", .text "off"),
        ("no-descendant-combinator", .text "warn")]),
      ("options", .object [("variant", .text "pascal"), ("maxDepth", .integer 1)])]) =
      .ok ⟨⟨⟨.builtin .twoWords, .builtin .oneWord, .builtin .pascal, .builtin .underScored⟩, 1, [],
        true⟩, [(LintRule.noDescendantCombinator.name, .warning)]⟩ := by
    with_unfolding_all rfl
  have hsettings : Settings.ofGiven (fun _ => .missing)
      ⟨[⟨"--rule", "class-format"⟩, ⟨"--rule", "class-format"⟩], []⟩ =
      .ok { rules := [LintRule.classFormat.name, LintRule.classFormat.name] } := by
    with_unfolding_all rfl
  have hparse : Stylesheet.parse ".a>.b\x7b\x7d".toList =
      .ok ⟨[⟨".a>.b".toList, ⟨1, 1⟩, [⟨".a>.b".toList, ⟨1, 1⟩⟩], []⟩]⟩ := by
    with_unfolding_all rfl
  have hunparsed : ∃ error, Stylesheet.parse "\x7b".toList = .error error := by
    exact ⟨_, by with_unfolding_all rfl⟩
  obtain ⟨hlint, -⟩ := accepted_never_fails haccepted hsettings
  refine ⟨_, _, haccepted, hsettings, by with_unfolding_all rfl, rfl, ?_, ?_⟩
  · obtain ⟨sheet, result, -, hresult⟩ | ⟨error, herror, -⟩ := hlint ".a>.b\x7b\x7d".toList "a.css"
    · exact ⟨result, hresult⟩
    · rw [hparse] at herror
      cases herror
  · obtain ⟨sheet, result, hresult, -⟩ | ⟨error, -, herror⟩ := hlint "\x7b".toList "a.css"
    · obtain ⟨error, herror⟩ := hunparsed
      rw [herror] at hresult
      cases hresult
    · exact ⟨error, herror⟩

end Config

end ClassLint
