import ClassLint.Naming.Role
import ClassLint.Naming.Shape

/-!
# Formats

A format says which names a role may have: those of a built-in shape, or those that a pattern of
the user's own matches as a whole. A variant or helper name is written with its marker; unless
the format is a shape with that very marker, the marker is taken off before the name is matched.
Component names on the whitelist are always accepted.
-/

namespace ClassLint

/-- What names are asked to look like. -/
inductive Format where
  | builtin (shape : Shape)
  | custom (source : Text) (pattern : Pattern)
  deriving DecidableEq, Repr

namespace Format

/-- The name of a format's sort. -/
def sortName : Format → Text
  | .builtin shape => shape.name
  | .custom _ _ => "custom"

/-- The written pattern of a format. -/
def source : Format → Text
  | .builtin shape => shape.source
  | .custom source _ => source

/-- The pattern that names have to match. -/
def pattern : Format → Pattern
  | .builtin shape => shape.pattern
  | .custom _ pattern => pattern

/-- The character that all names of a format start with, where the format fixes one. -/
def lead? : Format → Option Char
  | .builtin shape => shape.lead?
  | .custom _ _ => none

/-- A format as it is shown. -/
def text : Format → Text
  | .builtin shape => shape.name
  | .custom source _ => "custom(" ++ source ++ ")"

/-- Whether a name as a whole has the format. -/
def fits (format : Format) (name : Text) : Bool := format.pattern.fullMatch name

end Format

/-- The part of a name that is matched: without the role's marker, unless the format has it. -/
def matchedName (name : Text) (role : Role) (format : Format) : Text :=
  match role.sigil?, name with
  | some sigil, first :: rest => if format.lead? ≠ some sigil ∧ first = sigil then rest else name
  | _, _ => name

/-- Whether a name is acceptable for a role with the given format. -/
def nameMatches (name : Text) (role : Role) (format : Format) (whitelist : List Text) : Bool :=
  (role == .component && whitelist.contains name) || format.fits (matchedName name role format)

/-- A format for each role. -/
structure Formats where
  component : Format := .builtin .twoWords
  element : Format := .builtin .oneWord
  variant : Format := .builtin .dashFirst
  helper : Format := .builtin .underScored
  deriving DecidableEq, Repr

namespace Formats

/-- The format of a role. -/
def get (formats : Formats) : Role → Format
  | .component => formats.component
  | .element => formats.element
  | .variant => formats.variant
  | .helper => formats.helper

/-- Give a role a format. -/
def set (formats : Formats) (role : Role) (format : Format) : Formats :=
  match role with
  | .component => { formats with component := format }
  | .element => { formats with element := format }
  | .variant => { formats with variant := format }
  | .helper => { formats with helper := format }

/-- The format that a role is given is its format. -/
@[simp] theorem get_set_self (formats : Formats) (role : Role) (format : Format) :
    (formats.set role format).get role = format := by
  cases role <;> rfl

/-- The format that a role is given changes that of no other role. -/
theorem get_set_of_ne (formats : Formats) {role other : Role} (format : Format) (h : role ≠ other) :
    (formats.set role format).get other = formats.get other := by
  cases role <;> cases other <;> first | rfl | exact absurd rfl h

end Formats

end ClassLint
