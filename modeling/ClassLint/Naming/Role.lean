import ClassLint.Text.Basic

/-!
# Roles

The part that a class plays in a component: the component itself, an element inside it, a
variant of either, or a helper. Variants and helpers are written with a marker character.
-/

namespace ClassLint

/-- The part that a class plays. -/
inductive Role where
  | component
  | element
  | variant
  | helper
  deriving DecidableEq, Repr

namespace Role

/-- All roles, in the order in which their options are read. -/
def all : List Role := [.component, .element, .variant, .helper]

/-- The name of a role. -/
def name : Role → Text
  | .component => "component"
  | .element => "element"
  | .variant => "variant"
  | .helper => "helper"

/-- The role with a name. -/
def ofName? (name : Text) : Option Role := all.find? fun role => role.name == name

/-- The character that names of a role are written with. -/
def sigil? : Role → Option Char
  | .component => none
  | .element => none
  | .variant => some '-'
  | .helper => some '_'

end Role

end ClassLint
