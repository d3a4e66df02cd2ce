import ClassLint.Check.Diagnostic
import ClassLint.Naming.Classification
import ClassLint.Selector.Segment

/-!
# Checking a selector

Four checks in a fixed order. Each of the first three looks at the selector as a whole and gives
at most one finding, which ends the check of the selector: no descendant combinators, not too
many levels, not two components in one compound. The last one gives a finding for every token
whose name does not fit its role.
-/

namespace ClassLint

/-- The checks of a selector. -/
inductive Stage where
  | descendant
  | depth
  | multiComponent
  | tokens
  deriving DecidableEq, Repr

namespace Stage

/-- The checks in the order in which they are made. -/
def all : List Stage := [.descendant, .depth, .multiComponent, .tokens]

/-- The name of a check. -/
def name : Stage → Text
  | .descendant => "descendant_check"
  | .depth => "depth_check"
  | .multiComponent => "multi_component_check"
  | .tokens => "token_validation"

end Stage

/-- The kind of violation when a name does not fit a role. -/
def Role.invalidName : Role → Kind
  | .component => .invalidComponentName
  | .element => .invalidElementName
  | .variant => .invalidVariantName
  | .helper => .invalidHelperName

namespace Selector

/-- A violation of the selector as a whole. -/
def findingOf (selector : Selector) (kind : Kind) : Finding := ⟨kind, [("selector", selector.text)]⟩

/-- No descendant combinators. -/
def checkDescendant (selector : Selector) : List Finding :=
  if selector.chain.hasDescendant then [selector.findingOf .unexpectedDescendantCombinator] else []

/-- No more levels than allowed. -/
def checkDepth (selector : Selector) (options : Options) : List Finding :=
  if selector.chain.depth > options.maxDepth then
    [⟨.maxDepthExceeded,
      [("selector", selector.text), ("maxDepth", Text.ofNat options.maxDepth)]⟩]
  else []

/-- Whether a token counts towards the one component of a compound. Names that are components by
the whitelist alone count only if the options say so. -/
def countsAsComponent (options : Options) (level : Nat) (token : ClassToken) : Bool :=
  token.classify level options == ⟨.component, true⟩ &&
    (options.whitelistCounts || options.formats.component.fits token.name)

/-- Whether a compound at a level names more than one component. -/
def namesTwoComponents (options : Options) (level : Nat) (compound : Compound) : Bool :=
  compound.tokens.countP (countsAsComponent options level) > 1

/-- At most one component in each compound. -/
def checkMultiComponent (selector : Selector) (options : Options) : List Finding :=
  if selector.chain.leveled.any fun (level, compound) => namesTwoComponents options level compound
  then [selector.findingOf .onlyOneComponentName]
  else []

/-- The finding for a token at a level, if its name does not fit its role. -/
def tokenFinding? (options : Options) (level : Nat) (token : ClassToken) : Option Finding :=
  let classification := token.classify level options
  if classification.valid then none
  else some ⟨classification.role.invalidName, [("selector", token.text)]⟩

/-- Every name fits its role. -/
def checkTokens (selector : Selector) (options : Options) : List Finding :=
  selector.chain.leveled.flatMap fun (level, compound) =>
    compound.tokens.filterMap (tokenFinding? options level)

/-- The findings of one check. -/
def checkStage (selector : Selector) (options : Options) : Stage → List Finding
  | .descendant => selector.checkDescendant
  | .depth => selector.checkDepth options
  | .multiComponent => selector.checkMultiComponent options
  | .tokens => selector.checkTokens options

/-- The findings of the first check that finds something. -/
def check (selector : Selector) (options : Options) : List Finding :=
  (Stage.all.find? fun stage => !(selector.checkStage options stage).isEmpty).elim []
    (selector.checkStage options)

end Selector

/-- The findings for a selector's text. -/
def checkSelector (text : Text) (options : Options) : List Finding :=
  (Selector.ofText text).check options

/-- Report the findings for a selector's text at a place, and give their number. -/
def Collector.validate (collector : Collector) (text : Text) (options : Options)
    (location : Location) : Collector × Nat :=
  let findings := checkSelector text options
  (collector.reportAll location findings, findings.length)

end ClassLint
