import ClassLint.Text.Blank
import ClassLint.Text.Location
import ClassLint.Scan.Mark

/-!
# Selector lists

The prelude of a rule is a list of selectors between top-level commas. Comments are not part of
a selector's text; the text is trimmed, and it keeps the location of its first character. An
entry without text is dropped.
-/

namespace ClassLint

/-- A selector's text and where it starts. -/
structure SelectorSource where
  text : Text
  location : Location := .start
  deriving DecidableEq, Repr

namespace SelectorList

/-- The groups of items between the items that satisfy `cut`, which are left out. -/
def splitWhere {α : Type} (cut : α → Bool) : List α → List (List α)
  | [] => [[]]
  | item :: rest =>
    if cut item then [] :: splitWhere cut rest
    else match splitWhere cut rest with
      | [] => [[item]]
      | group :: groups => (item :: group) :: groups

/-- A comma that ends a selector. -/
def isComma (mark : Mark) : Bool := mark.isTopPlain && mark.char == ','

/-- The marks of a prelude, each with its location. -/
def locatedMarks (prelude : Text) (origin : Location) : List (Location × Mark) :=
  ((origin.along prelude).map Prod.fst).zip (scan true .start prelude).1

/-- The selector that a group of marks writes, if it holds more than comments and blanks. -/
def selector? (group : List (Location × Mark)) : Option SelectorSource :=
  let code := group.filter fun (_, mark) => mark.isCode
  match code.find? fun (_, mark) => !Text.isBlank mark.char with
  | some (location, _) => some ⟨Text.strip (code.map fun (_, mark) => mark.char), location⟩
  | none => none

/-- The selectors of a prelude that starts at `origin`. -/
def split (prelude : Text) (origin : Location) : List SelectorSource :=
  (splitWhere (fun (_, mark) => isComma mark) (locatedMarks prelude origin)).filterMap selector?

end SelectorList

end ClassLint
