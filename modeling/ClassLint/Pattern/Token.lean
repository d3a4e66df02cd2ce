import ClassLint.Text.Basic

/-!
# Pieces of written patterns

A written pattern is cut into characters and escapes of two characters. What is still to be read
of it is a list of pieces together with the position of the first one.
-/

namespace ClassLint

/-- A piece of a written pattern: a character, alone or after a backslash. -/
structure PatternToken where
  escaped : Bool
  char : Char
  deriving DecidableEq, Repr

namespace PatternToken

/-- Whether a piece is the given character, standing alone. -/
def is (token : PatternToken) (c : Char) : Bool := !token.escaped && token.char == c

/-- Whether a piece is a character of a kind, standing alone. -/
def isOf (token : PatternToken) (kind : Char → Bool) : Bool := !token.escaped && kind token.char

/-- The piece as it is written. -/
def text (token : PatternToken) : Text :=
  if token.escaped then ['\\', token.char] else [token.char]

/-- The number of characters of a piece. -/
def width (token : PatternToken) : Nat := if token.escaped then 2 else 1

/-- The pieces of a text, and whether a lone backslash ends it. -/
def cut : Text → List PatternToken × Bool
  | [] => ([], false)
  | ['\\'] => ([], true)
  | '\\' :: c :: rest =>
    let (tokens, lone) := cut rest
    (⟨true, c⟩ :: tokens, lone)
  | c :: rest =>
    let (tokens, lone) := cut rest
    (⟨false, c⟩ :: tokens, lone)

end PatternToken

/-- What is still to be read of a pattern: the position where it starts, and its pieces. -/
structure Pieces where
  position : Nat := 0
  tokens : List PatternToken
  deriving DecidableEq, Repr

namespace Pieces

/-- The first piece, and what follows it. -/
def next? (pieces : Pieces) : Option (PatternToken × Pieces) :=
  match pieces.tokens with
  | [] => none
  | token :: rest => some (token, ⟨pieces.position + token.width, rest⟩)

/-- What follows a given character. -/
def skip? (pieces : Pieces) (c : Char) : Option Pieces :=
  match pieces.next? with
  | some (token, rest) => if token.is c then some rest else none
  | none => none

/-- Whether a given character comes next. -/
def startsWith (pieces : Pieces) (c : Char) : Bool := (pieces.skip? c).isSome

/-- What follows a number of characters that stand alone. -/
def drop (pieces : Pieces) (count : Nat) : Pieces :=
  ⟨pieces.position + count, pieces.tokens.drop count⟩

/-- The characters of a kind that come next, at most `most` of them, and what follows. -/
def span (pieces : Pieces) (most : Nat) (kind : Char → Bool) : Text × Pieces :=
  let text := ((pieces.tokens.take most).takeWhile fun token => token.isOf kind).map (·.char)
  (text, pieces.drop text.length)

/-- All characters of a kind that come next, and what follows. -/
def spanAll (pieces : Pieces) (kind : Char → Bool) : Text × Pieces :=
  pieces.span pieces.tokens.length kind

/-- What is written before a given character, and what follows the character, if it comes at all. -/
def spanTo (pieces : Pieces) (closer : Char) : Text × Option Pieces :=
  let tokens := pieces.tokens.takeWhile fun token => !token.is closer
  let text := tokens.flatMap PatternToken.text
  (text, Pieces.skip? ⟨pieces.position + text.length, pieces.tokens.drop tokens.length⟩ closer)

end Pieces

end ClassLint
