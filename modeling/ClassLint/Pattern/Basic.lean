import ClassLint.Pattern.CharSet

/-!
# Patterns

The regular expressions that describe class names: sets of characters, sequence and choice,
repeats, groups with references to them and conditions on them, looking ahead and behind, parts
that are settled once they are read, and anchors.
-/

namespace ClassLint

/-- How a repeat goes on: it tries as many rounds as it can first, or as few, or it makes each round
by its first way alone and takes none of them back. -/
inductive Greed where
  | greedy
  | lazy
  | possessive
  deriving DecidableEq, Repr

/-- A condition on a place in a text. -/
inductive Anchor where
  | start
  | lineStart
  | finish
  | lastLineEnd
  | lineEnd
  | wordBoundary (alphabet : Alphabet) (negated : Bool)
  deriving DecidableEq, Repr

/-- A pattern. -/
inductive Pattern where
  | empty
  | set (chars : CharSet)
  | sequence (first second : Pattern)
  | choice (first second : Pattern)
  | loop (least : Nat) (most : Option Nat) (greed : Greed) (body : Pattern)
  | group (index : Nat) (body : Pattern)
  | reference (index : Nat) (casing : Option Alphabet)
  | condition (index : Nat) (yes no : Pattern)
  | look (back : Nat) (negated : Bool) (body : Pattern)
  | atomic (body : Pattern)
  | anchor (condition : Anchor)
  deriving DecidableEq, Repr

namespace Pattern

/-- The pattern of one given character. -/
def char (c : Char) : Pattern := .set (.single none c.toNat false)

/-- The patterns joined from the last one on. -/
def joinWith (join : Pattern → Pattern → Pattern) : List Pattern → Pattern
  | [] => .empty
  | [pattern] => pattern
  | pattern :: rest => join pattern (joinWith join rest)

/-- The patterns one after the other. -/
def sequenceOf : List Pattern → Pattern := joinWith .sequence

/-- The patterns to choose from, in order of preference. -/
def choiceOf : List Pattern → Pattern := joinWith .choice

end Pattern

/-- The least and the greatest number of characters that a pattern reads. -/
structure Width where
  least : Nat
  most : Nat
  deriving DecidableEq, Repr

namespace Width

/-- The width that stands for texts of any length. -/
def unbounded : Nat := 0x10000000000000000

/-- The width of two patterns one after the other. -/
def add (a b : Width) : Width := ⟨a.least + b.least, a.most + b.most⟩

/-- The width of two patterns to choose from. -/
def join (a b : Width) : Width := ⟨min a.least b.least, max a.most b.most⟩

/-- The width of a repeat. -/
def times (least : Nat) (most : Option Nat) (width : Width) : Width :=
  ⟨width.least * least,
    match most with
    | some most => width.most * most
    | none => if width.most = 0 then 0 else unbounded⟩

end Width

/-- The width of a pattern, given those of the groups that it refers to. -/
def Pattern.width (groups : Nat → Width) : Pattern → Width
  | .empty => ⟨0, 0⟩
  | .set _ => ⟨1, 1⟩
  | .sequence first second => (first.width groups).add (second.width groups)
  | .choice first second => (first.width groups).join (second.width groups)
  | .loop least most _ body => (body.width groups).times least most
  | .group _ body => body.width groups
  | .reference index _ => groups index
  | .condition _ yes no => (yes.width groups).join (no.width groups)
  | .look _ _ _ => ⟨0, 0⟩
  | .atomic body => body.width groups
  | .anchor _ => ⟨0, 0⟩

end ClassLint
