import ClassLint.Text.Basic

/-!
# Nesting of strings and brackets

What a scan of a selector has open: at most one string, and square brackets and parentheses
inside one another. Inside a string only its own quote counts; a closing bracket counts only
when it closes the innermost open one. Escapes are not seen here: a scan steps over them.
-/

namespace ClassLint

/-- What is open: the quote of a string, and the closers still awaited, innermost first. -/
structure Nesting where
  quote : Option Char := none
  closers : List Char := []
  deriving DecidableEq, Repr

namespace Nesting

/-- Nothing is open. -/
def top : Nesting := {}

/-- Whether nothing is open. -/
def isTop (nesting : Nesting) : Bool := nesting.quote.isNone && nesting.closers.isEmpty

/-- Whether a character opens and closes strings. -/
def isQuote (c : Char) : Bool := c == '"' || c == '\''

/-- The closer that an opening bracket or parenthesis awaits. -/
def closerOf? (c : Char) : Option Char :=
  if c = '[' then some ']' else if c = '(' then some ')' else none

/-- What is open after one character that is not part of an escape. -/
def step (nesting : Nesting) (c : Char) : Nesting :=
  match nesting.quote with
  | some quote => if c = quote then { nesting with quote := none } else nesting
  | none =>
    if isQuote c then { nesting with quote := some c }
    else match closerOf? c with
      | some closer => { nesting with closers := closer :: nesting.closers }
      | none =>
        match nesting.closers with
        | [] => nesting
        | closer :: outer => if c = closer then { nesting with closers := outer } else nesting

/-- Where nothing is open is top level. -/
@[simp] theorem isTop_top : top.isTop = true := rfl

/-- Only the empty nesting is at top level. -/
theorem isTop_iff (nesting : Nesting) : nesting.isTop = true ↔ nesting = top := by
  cases nesting with
  | mk quote closers => cases quote <;> cases closers <;> simp [isTop, top]

end Nesting

end ClassLint
