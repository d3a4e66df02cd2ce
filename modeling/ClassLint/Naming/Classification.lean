import ClassLint.Naming.Format
import ClassLint.Selector.Basic

/-!
# Classification of class tokens

The marker of a token's name tells helpers and variants. A plain word that names a helper is a
helper without its marker, which is never valid. Any other token is a component at the outermost
level and an element below it.
-/

namespace ClassLint

/-- The options of the checks. Options are read with a positive `maxDepth` only, and no selector has
less than one level; so a negative depth, with which every selector is too deep as with zero, is left
out. -/
structure Options where
  formats : Formats := {}
  maxDepth : Nat := 4
  whitelist : List Text := []
  whitelistCounts : Bool := true
  deriving DecidableEq, Repr

/-- The role of a token and whether its name is acceptable for it. -/
structure Classification where
  role : Role
  valid : Bool
  deriving DecidableEq, Repr

/-- Plain words that name helpers. -/
def helperWords : List Text :=
  ["helper", "utility", "util", "clearfix", "hidden", "visible", "left", "right", "center"]

/-- Whether a name is a plain word that names a helper, in any letter case. Lowering the ASCII
capitals is enough: no letter of these words is by itself the small form of any other character. -/
def isHelperWord (name : Text) : Bool := helperWords.contains (Text.lower name)

namespace Options

/-- Whether a name is acceptable for a role. -/
def accepts (options : Options) (name : Text) (role : Role) : Bool :=
  nameMatches name role (options.formats.get role) options.whitelist

end Options

/-- The role that a token's marker and level give it. -/
def ClassToken.role (token : ClassToken) (level : Nat) : Role :=
  match token.sigil with
  | .underscore => .helper
  | .hyphen => .variant
  | .none => if isHelperWord token.name then .helper else if level = 0 then .component else .element

/-- Classify a token at a nesting level. -/
def ClassToken.classify (token : ClassToken) (level : Nat) (options : Options) : Classification :=
  let role := token.role level
  let bareHelper := token.sigil = .none && isHelperWord token.name
  ⟨role, !bareHelper && options.accepts token.name role⟩

end ClassLint
