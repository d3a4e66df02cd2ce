import ClassLint.Pattern.Basic

/-!
# Matching

A text matches a pattern if the pattern can be followed from the start of the text to its end.
The search goes through the ways to follow a pattern in order of preference, and hands each end
that it reaches to a continuation; the first end that the continuation accepts wins. A repeat
goes round at least as often as it must; beyond that, a round that reads nothing is the last one.
The bounds of what a group read are kept for references to it and conditions on it. A look ahead
or behind and a settled part are decided by their first way alone.
-/

namespace ClassLint

/-- Where a group was last entered, and where it was last left. -/
structure Capture where
  start : Nat
  finish : Option Nat
  deriving DecidableEq, Repr

/-- A place in a text: the text before it, nearest character first, the text after it, and what the
groups have read. -/
structure Cursor where
  before : Text := []
  rest : Text
  captures : List (Nat × Capture) := []
  deriving DecidableEq, Repr

/-- What is done with an end: it is accepted, perhaps after going on from it, or refused. -/
abbrev Continuation := Cursor → Option Cursor

/-- A way to follow part of a pattern from a place and to hand over the ends. -/
abbrev Follower := Continuation → Continuation

namespace Cursor

/-- The number of characters before the place. -/
def position (cursor : Cursor) : Nat := cursor.before.length

/-- Read one character. -/
def read (cursor : Cursor) (c : Char) (rest : Text) : Cursor :=
  { cursor with before := c :: cursor.before, rest := rest }

/-- Go back over a number of characters. -/
def back? : Nat → Cursor → Option Cursor
  | 0, cursor => some cursor
  | count + 1, cursor =>
    match cursor.before with
    | [] => none
    | c :: before => back? count { cursor with before := before, rest := c :: cursor.rest }

/-- Note what is known of a group. -/
def putCapture (cursor : Cursor) (index : Nat) (capture : Capture) : Cursor :=
  { cursor with
    captures := (index, capture) :: cursor.captures.filter fun (other, _) => other != index }

/-- Enter a group. Where it was left before stays known. -/
def enter (cursor : Cursor) (index : Nat) : Cursor :=
  let finish := (cursor.captures.lookup index).bind Capture.finish
  cursor.putCapture index ⟨cursor.position, finish⟩

/-- Leave a group. -/
def leave (cursor : Cursor) (index : Nat) : Cursor :=
  let start := (cursor.captures.lookup index).elim cursor.position Capture.start
  cursor.putCapture index ⟨start, some cursor.position⟩

/-- What a group has read, if it was left after it was entered. -/
def captured? (cursor : Cursor) (index : Nat) : Option Text := do
  let capture ← cursor.captures.lookup index
  let finish ← capture.finish
  if capture.start ≤ finish then
    some (((cursor.before.reverse ++ cursor.rest).drop capture.start).take (finish - capture.start))
  else none

/-- Whether two characters are the same, or with `casing` have the same small letter. -/
def sameLetter (casing : Option Alphabet) (c d : Char) : Bool :=
  match casing with
  | none => c == d
  | some alphabet => alphabet.small c.toNat == alphabet.small d.toNat

/-- Read a given text, up to letter case if asked to. -/
def readText? (casing : Option Alphabet) (cursor : Cursor) : Text → Option Cursor
  | [] => some cursor
  | c :: text =>
    match cursor.rest with
    | [] => none
    | d :: rest =>
      if sameLetter casing c d then readText? casing (cursor.read d rest) text else none

/-- Whether a word starts or ends at the place. -/
def isWordBoundary (alphabet : Alphabet) (cursor : Cursor) : Bool :=
  cursor.before.head?.any (CharClass.word.holds alphabet) !=
    cursor.rest.head?.any (CharClass.word.holds alphabet)

end Cursor

/-- Whether an anchor holds at a place. In an empty text there is neither a word boundary nor a
place that is none. -/
def Anchor.holds (anchor : Anchor) (cursor : Cursor) : Bool :=
  match anchor with
  | .start => cursor.before.isEmpty
  | .lineStart => cursor.before.head?.all (· == '\n')
  | .finish => cursor.rest.isEmpty
  | .lastLineEnd => cursor.rest.isEmpty || cursor.rest == ['\n']
  | .lineEnd => cursor.rest.head?.all (· == '\n')
  | .wordBoundary alphabet false => cursor.isWordBoundary alphabet
  | .wordBoundary alphabet true =>
    !cursor.isWordBoundary alphabet && !(cursor.before.isEmpty && cursor.rest.isEmpty)

namespace Pattern

/-- Follow a part a fixed number of times. -/
def times (step : Follower) : Nat → Continuation → Continuation
  | 0, accept, cursor => accept cursor
  | count + 1, accept, cursor => step (fun next => times step count accept next) cursor

/-- Follow a part up to `count` more times. A round that starts where the one before it started,
at `last` characters from the end, is not made. -/
def upTo (step : Follower) (isLazy : Bool) : Nat → Option Nat → Continuation → Continuation
  | 0, _, accept, cursor => accept cursor
  | count + 1, last, accept, cursor =>
    let here := some cursor.rest.length
    let again (_ : Unit) : Option Cursor :=
      if last = here then none
      else step (fun next => upTo step isLazy count here accept next) cursor
    if isLazy then (accept cursor).orElse again else (again ()).orElse fun _ => accept cursor

/-- Follow a part a fixed number of times, each time by its first way alone. -/
def settledTimes (step : Follower) : Nat → Cursor → Option Cursor
  | 0, cursor => some cursor
  | count + 1, cursor => (step some cursor).bind (settledTimes step count)

/-- Follow a part up to `count` more times, each time by its first way alone and as long as it reads
something. -/
def settledUpTo (step : Follower) : Nat → Cursor → Cursor
  | 0, cursor => cursor
  | count + 1, cursor =>
    match step some cursor with
    | none => cursor
    | some next =>
      if next.rest.length = cursor.rest.length then next else settledUpTo step count next

/-- How many more rounds there can be after the least number of them. Without a greatest number,
each round but the last reads a character, so the text after the place bounds them. -/
def moreRounds (least : Nat) (most : Option Nat) (cursor : Cursor) : Nat :=
  match most with
  | some most => most - least
  | none => cursor.rest.length + 2

/-- Follow a part at least `least` and at most `most` times. -/
def rounds (step : Follower) (least : Nat) (most : Option Nat) (greed : Greed)
    (accept : Continuation) : Continuation :=
  match greed with
  | .greedy =>
    times step least fun cursor => upTo step false (moreRounds least most cursor) none accept cursor
  | .lazy =>
    times step least fun cursor => upTo step true (moreRounds least most cursor) none accept cursor
  | .possessive => fun start =>
    (settledTimes step least start).bind fun cursor =>
      accept (settledUpTo step (moreRounds least most cursor) cursor)

/-- Follow a pattern from a place, and hand the ends to a continuation. -/
def follow : Pattern → Continuation → Continuation
  | .empty, accept, cursor => accept cursor
  | .set chars, accept, cursor =>
    match cursor.rest with
    | [] => none
    | c :: rest => if chars.holds c then accept (cursor.read c rest) else none
  | .sequence first second, accept, cursor =>
    follow first (fun middle => follow second accept middle) cursor
  | .choice first second, accept, cursor =>
    (follow first accept cursor).orElse fun _ => follow second accept cursor
  | .loop least most greed body, accept, cursor =>
    rounds (follow body) least most greed accept cursor
  | .group index body, accept, cursor =>
    follow body (fun ending => accept (ending.leave index)) (cursor.enter index)
  | .reference index casing, accept, cursor => do
    let text ← cursor.captured? index
    let ending ← cursor.readText? casing text
    accept ending
  | .condition index yes no, accept, cursor =>
    if (cursor.captured? index).isSome then follow yes accept cursor else follow no accept cursor
  | .look back negated body, accept, cursor =>
    match (cursor.back? back).bind (follow body some), negated with
    | some ending, false => accept { cursor with captures := ending.captures }
    | none, true => accept cursor
    | _, _ => none
  | .atomic body, accept, cursor => (follow body some cursor).bind accept
  | .anchor place, accept, cursor => if place.holds cursor then accept cursor else none

/-- Accept the end of the text only. -/
def acceptEnd (cursor : Cursor) : Option Cursor :=
  if cursor.rest.isEmpty then some cursor else none

/-- Whether a text as a whole matches a pattern. -/
def fullMatch (pattern : Pattern) (text : Text) : Bool :=
  (pattern.follow acceptEnd { rest := text }).isSome

end Pattern

end ClassLint
