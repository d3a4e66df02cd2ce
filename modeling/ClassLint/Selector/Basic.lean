import ClassLint.Text.Basic

/-!
# Selectors

A selector is a chain of compounds joined by combinators. Its depth counts the child
combinators; sibling and descendant combinators keep the level of the compound before them. The
class tokens of a compound are stored beside its text, so that the checks depend on the tokens
alone.
-/

namespace ClassLint

/-- The relation of a compound to the one before it. -/
inductive Combinator where
  | child
  | descendant
  | adjacentSibling
  | generalSibling
  deriving DecidableEq, Repr

namespace Combinator

/-- The character that stands for a combinator. -/
def symbol : Combinator → Char
  | .child => '>'
  | .descendant => ' '
  | .adjacentSibling => '+'
  | .generalSibling => '~'

/-- The name of a combinator in capitals. -/
def name : Combinator → Text
  | .child => "CHILD"
  | .descendant => "DESCENDANT"
  | .adjacentSibling => "ADJACENT_SIBLING"
  | .generalSibling => "GENERAL_SIBLING"

/-- The combinator that a character writes; white space writes none. -/
def ofChar? (c : Char) : Option Combinator :=
  if c = '>' then some .child
  else if c = '+' then some .adjacentSibling
  else if c = '~' then some .generalSibling
  else none

end Combinator

/-- The marker character that a class name starts with. -/
inductive Sigil where
  | none
  | underscore
  | hyphen
  deriving DecidableEq, Repr

/-- The name of a sigil in capitals. -/
def Sigil.name : Sigil → Text
  | .none => "NONE"
  | .underscore => "UNDERSCORE"
  | .hyphen => "HYPHEN"

/-- A class selector of a compound; the name is without its dot. -/
structure ClassToken where
  name : Text
  deriving DecidableEq, Repr

namespace ClassToken

/-- The marker character of the token's name. -/
def sigil (token : ClassToken) : Sigil :=
  match token.name with
  | '_' :: _ => .underscore
  | '-' :: _ => .hyphen
  | _ => .none

/-- The token as it is written in a selector. -/
def text (token : ClassToken) : Text := '.' :: token.name

end ClassToken

/-- The text between two combinators and the class tokens in it. -/
structure Compound where
  text : Text
  tokens : List ClassToken := []
  deriving DecidableEq, Repr

/-- Items joined by combinators: a first one, and each further one with the combinator before it. -/
structure Chain (α : Type) where
  first : α
  rest : List (Combinator × α) := []
  deriving DecidableEq, Repr

namespace Chain

variable {α β : Type}

/-- The items in order. -/
def items (chain : Chain α) : List α := chain.first :: chain.rest.map Prod.snd

/-- The combinators in order. -/
def combinators (chain : Chain α) : List Combinator := chain.rest.map Prod.fst

/-- Each item with the combinator before it; the first item has none. -/
def parts (chain : Chain α) : List (Option Combinator × α) :=
  (none, chain.first) :: chain.rest.map fun (combinator, item) => (some combinator, item)

/-- Apply a function to every item and keep the combinators. -/
def map (f : α → β) (chain : Chain α) : Chain β :=
  ⟨f chain.first, chain.rest.map fun (combinator, item) => (combinator, f item)⟩

/-- The nesting depth: one more than the number of child combinators. -/
def depth (chain : Chain α) : Nat := chain.combinators.count .child + 1

/-- The levels reached by following combinators from a level: a child combinator opens a new one. -/
def levelsFrom (level : Nat) : List Combinator → List Nat
  | [] => []
  | combinator :: rest =>
    let next := if combinator = .child then level + 1 else level
    next :: levelsFrom next rest

/-- The nesting level of each item, in order. -/
def levels (chain : Chain α) : List Nat := 0 :: levelsFrom 0 chain.combinators

/-- Each item with its nesting level. -/
def leveled (chain : Chain α) : List (Nat × α) := chain.levels.zip chain.items

/-- Whether some combinator is a descendant combinator. -/
def hasDescendant (chain : Chain α) : Bool := chain.combinators.contains .descendant

end Chain

/-- A trimmed selector text and the chain of its compounds. -/
structure Selector where
  text : Text
  chain : Chain Compound
  deriving DecidableEq, Repr

end ClassLint
