import ClassLint.Text.Basic

/-!
# Locations

A location is a line and a column, both counted from one. Lines end at line feeds only. A
caller may start from any pair of integers, so the two numbers are not bounded below.
-/

namespace ClassLint

/-- A line and a column of a source. -/
structure Location where
  line : Int := 1
  column : Int := 1
  deriving DecidableEq, Repr

namespace Location

/-- The location of a source's first character. -/
def start : Location := ⟨1, 1⟩

/-- The location just past one character. -/
def next (location : Location) (c : Char) : Location :=
  if c = '\n' then ⟨location.line + 1, 1⟩ else ⟨location.line, location.column + 1⟩

/-- The location just past a text that starts at `location`. -/
def advance (location : Location) : Text → Location
  | [] => location
  | c :: rest => advance (location.next c) rest

/-- The characters of a text that starts at `location`, each with its own location. -/
def along (location : Location) : Text → List (Location × Char)
  | [] => []
  | c :: rest => (location, c) :: along (location.next c) rest

/-- Locations are ordered by line, then by column. -/
def le (a b : Location) : Bool :=
  decide (a.line < b.line) || (decide (a.line = b.line) && decide (a.column ≤ b.column))

/-- A location as it is written: line, colon, column. -/
def text (location : Location) : Text :=
  Text.ofInt location.line ++ [':'] ++ Text.ofInt location.column

/-- No text moves no location. -/
@[simp] theorem advance_nil (location : Location) : location.advance [] = location := rfl

/-- A text moves a location by its first character and then by the rest. -/
@[simp] theorem advance_cons (location : Location) (c : Char) (rest : Text) :
    location.advance (c :: rest) = (location.next c).advance rest := rfl

/-- Moving past two texts is moving past the first, then past the second. -/
theorem advance_append (location : Location) (a b : Text) :
    location.advance (a ++ b) = (location.advance a).advance b := by
  induction a generalizing location with
  | nil => rfl
  | cons c rest ih => simp [ih]

/-- Every character gets one location. -/
@[simp] theorem length_along (location : Location) (text : Text) :
    (location.along text).length = text.length := by
  induction text generalizing location with
  | nil => rfl
  | cons c rest ih => simp [along, ih]

end Location

end ClassLint
