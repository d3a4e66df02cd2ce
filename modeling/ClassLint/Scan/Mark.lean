import ClassLint.Scan.Nesting

/-!
# Marked characters

The one scan that the selector readers share. It marks every character of a text with what was
open before it and with its part: an ordinary character, a character of an escape, or a
character of a comment. A backslash takes the character after it along, also inside strings and
brackets. Comments are looked for only on request and never inside a string; inside a comment
neither escapes nor quotes count.
-/

namespace ClassLint

/-- What a scanned character is part of. -/
inductive Part where
  | plain
  | escape
  | comment
  deriving DecidableEq, Repr

/-- A scanned character, its part, and what was open before it. -/
structure Mark where
  char : Char
  part : Part
  nesting : Nesting
  deriving DecidableEq, Repr

/-- Where a scan stands between two steps: in the text proper or inside a comment. -/
inductive Place where
  | code (nesting : Nesting)
  | comment (nesting : Nesting)
  deriving DecidableEq, Repr

namespace Place

/-- The start of a text. -/
def start : Place := .code .top

/-- Whether no string and no bracket is open. -/
def isTop : Place → Bool
  | .code nesting => nesting.isTop
  | .comment nesting => nesting.isTop

end Place

namespace Mark

/-- A character that stands alone at top level. -/
def isTopPlain (mark : Mark) : Bool := mark.part == .plain && mark.nesting.isTop

/-- A character of an escape at top level. -/
def isTopEscape (mark : Mark) : Bool := mark.part == .escape && mark.nesting.isTop

/-- A character that is not part of a comment. -/
def isCode (mark : Mark) : Bool := mark.part != .comment

end Mark

/-- The marks of a text's characters and the place where its scan ends. -/
def scan (comments : Bool) : Place → Text → List Mark × Place
  | place, [] => ([], place)
  | .comment nesting, '*' :: '/' :: rest =>
    let (marks, place) := scan comments (.code nesting) rest
    (⟨'*', .comment, nesting⟩ :: ⟨'/', .comment, nesting⟩ :: marks, place)
  | .comment nesting, c :: rest =>
    let (marks, place) := scan comments (.comment nesting) rest
    (⟨c, .comment, nesting⟩ :: marks, place)
  | .code nesting, ['\\'] => ([⟨'\\', .escape, nesting⟩], .code nesting)
  | .code nesting, '\\' :: c :: rest =>
    let (marks, place) := scan comments (.code nesting) rest
    (⟨'\\', .escape, nesting⟩ :: ⟨c, .escape, nesting⟩ :: marks, place)
  | .code nesting, '/' :: '*' :: rest =>
    if comments && nesting.quote.isNone then
      let (marks, place) := scan comments (.comment nesting) rest
      (⟨'/', .comment, nesting⟩ :: ⟨'*', .comment, nesting⟩ :: marks, place)
    else
      let (marks, place) := scan comments (.code ((nesting.step '/').step '*')) rest
      (⟨'/', .plain, nesting⟩ :: ⟨'*', .plain, nesting.step '/'⟩ :: marks, place)
  | .code nesting, c :: rest =>
    let (marks, place) := scan comments (.code (nesting.step c)) rest
    (⟨c, .plain, nesting⟩ :: marks, place)

/-- A scan keeps every character, in order. -/
theorem map_char_scan (comments : Bool) (place : Place) (text : Text) :
    (scan comments place text).1.map Mark.char = text := by
  fun_induction scan comments place text <;> simp_all

end ClassLint
