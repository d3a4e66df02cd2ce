import ClassLint.Scan.Mark
import ClassLint.Selector.Basic

/-!
# The class tokens of a compound

A class token is a dot at top level followed by a name. A name consists of ASCII letters,
digits, underscores and hyphens at top level and of escapes, and it does not start with a digit.
A compound that leaves a string or a bracket open has no tokens at all.
-/

namespace ClassLint

/-- A character that may stand in a class name without an escape. -/
def isNameChar (c : Char) : Bool := c.isAlphanum || c == '_' || c == '-'

namespace Mark

/-- A mark that may continue a class name. -/
def continuesName (mark : Mark) : Bool :=
  mark.isTopEscape || (mark.isTopPlain && isNameChar mark.char)

/-- A mark that may start a class name. -/
def startsName (mark : Mark) : Bool :=
  mark.isTopEscape || (mark.isTopPlain && isNameChar mark.char && !mark.char.isDigit)

/-- A dot that may announce a class name. -/
def isDot (mark : Mark) : Bool := mark.isTopPlain && mark.char == '.'

end Mark

namespace ClassToken

/-- The token whose name starts the given marks, if they start with one. -/
def atStart? (marks : List Mark) : Option ClassToken :=
  match marks with
  | [] => none
  | mark :: _ =>
    if mark.startsName then some ⟨(marks.takeWhile Mark.continuesName).map Mark.char⟩ else none

/-- The tokens announced by the dots among the marks, in order. -/
def ofMarks : List Mark → List ClassToken
  | [] => []
  | mark :: rest =>
    match if mark.isDot then atStart? rest else none with
    | some token => token :: ofMarks rest
    | none => ofMarks rest

/-- The class tokens of a compound's text, in order. -/
def ofCompound (text : Text) : List ClassToken :=
  let (marks, place) := scan false .start text
  if place.isTop then ofMarks marks else []

end ClassToken

end ClassLint
