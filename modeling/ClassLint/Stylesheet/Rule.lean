import ClassLint.Stylesheet.SelectorList
import ClassLint.Selector.Tokens

/-!
# Rules and style sheets

A rule has a prelude, and a block that may hold further rules. An at-rule starts with `@` and
has no selectors. Rules nested in the block of a grouping at-rule, or of a rule with selectors,
count; the blocks of all other at-rules are passed over.
-/

namespace ClassLint

/-- A rule: its trimmed prelude, where it starts, its selectors, and the rules in its block. -/
structure StyleRule where
  prelude : Text
  location : Location
  selectors : List SelectorSource := []
  children : List StyleRule := []

namespace StyleRule

/-- The keywords of the at-rules whose blocks hold ordinary rules. -/
def groupingKeywords : List Text :=
  ["media", "supports", "layer", "container", "document", "scope"]

/-- Whether a prelude announces an at-rule. -/
def startsAtRule : Text → Bool
  | '@' :: _ => true
  | _ => false

/-- The keyword of an at-rule's prelude, in small letters. -/
def keywordOf? : Text → Option Text
  | '@' :: rest =>
    match rest.takeWhile isNameChar with
    | [] => none
    | keyword => some (Text.lower keyword)
  | _ => none

/-- Whether the rules in the block of an at-rule with this prelude count. -/
def isGrouping (prelude : Text) : Bool :=
  match keywordOf? prelude with
  | some keyword => groupingKeywords.contains keyword
  | none => false

/-- Whether a rule is an at-rule. -/
def isAtRule (rule : StyleRule) : Bool := startsAtRule rule.prelude

/-- The keyword of an at-rule, in small letters. -/
def atKeyword? (rule : StyleRule) : Option Text := keywordOf? rule.prelude

mutual

/-- The selectors of a rule and of the rules nested in it that count, in order. -/
def walk : StyleRule → List SelectorSource
  | ⟨prelude, _, selectors, children⟩ =>
    if startsAtRule prelude then
      if isGrouping prelude then walkAll children else []
    else selectors ++ walkAll children

/-- The selectors of rules and of the rules nested in them that count, in order. -/
def walkAll : List StyleRule → List SelectorSource
  | [] => []
  | rule :: rest => walk rule ++ walkAll rest

end

end StyleRule

/-- A style sheet: its top-level rules in order. -/
structure Stylesheet where
  rules : List StyleRule

/-- The selectors of a style sheet that are to be checked, in order. -/
def Stylesheet.selectors (stylesheet : Stylesheet) : List SelectorSource :=
  StyleRule.walkAll stylesheet.rules

end ClassLint
