import ClassLint.Pattern.Basic
import ClassLint.Pattern.Flags

/-!
# Parts of written patterns

What has been read between two parentheses, before it becomes a pattern. A parenthesis that only
keeps its parts together gives them up to the branch around it. When a choice is complete, the
parts that all its branches start with are taken out of it, and branches of one character each
are put together into a set. This is why a capital beyond the basic plane can match as a
character alone and match nothing as one of several.
-/

namespace ClassLint

/-- A part of a branch. -/
inductive PatternPart where
  | char (code : Nat) (negated : Bool)
  | set (entries : List SetEntry) (negated : Bool)
  | any
  | anchor (condition : Anchor)
  | reference (index : Nat)
  | together (parts : List PatternPart)
  | repeated (pattern : Pattern)
  | whole (pattern : Pattern)

namespace PatternPart

/-- The part that a set makes: a set of one character is the character. -/
def ofSet (entries : List SetEntry) (negated : Bool) : PatternPart :=
  match entries with
  | [.char code] => .char code negated
  | entries => .set entries negated

/-- The part itself, or the parts that a parenthesis keeps together. -/
def spread : PatternPart → List PatternPart
  | .together parts => parts
  | part => [part]

/-- The pattern of a part that is no parenthesis. -/
def plainPattern (flags : PatternFlags) : PatternPart → Pattern
  | .char code negated => .set (.single flags.casing code negated)
  | .set entries negated => .set { entries, negated, casing := flags.casing }
  | .any => .set (if flags.dotAll then .any else .anyButNewline)
  | .anchor condition => .anchor condition
  | .reference index => .reference index flags.casing
  | .together _ => .empty
  | .repeated pattern => pattern
  | .whole pattern => pattern

/-- The pattern of parts one after the other. -/
def sequencePattern (flags : PatternFlags) (parts : List PatternPart) : Pattern :=
  .sequenceOf ((parts.flatMap spread).map (plainPattern flags))

/-- The pattern of a part. -/
def pattern (flags : PatternFlags) (part : PatternPart) : Pattern := sequencePattern flags [part]

/-- Whether two parts are the same characters, set, anchor or reference. Two repeats or parentheses
are never the same. -/
def isSame : PatternPart → PatternPart → Bool
  | .char code negated, .char other otherNegated => code == other && negated == otherNegated
  | .set entries negated, .set others otherNegated => entries == others && negated == otherNegated
  | .any, .any => true
  | .anchor condition, .anchor other => condition == other
  | .reference index, .reference other => index == other
  | _, _ => false

/-- The entries of a part that is one of some characters. -/
def entries? : PatternPart → Option (List SetEntry)
  | .char code false => some [.char code]
  | .set entries false => some entries
  | _ => none

/-- The parts that a first branch and all others start with, and what they leave of each. -/
def splitCommon : List PatternPart → List (List PatternPart) →
    List PatternPart × List (List PatternPart)
  | [], others => ([], [] :: others)
  | part :: rest, others =>
    if others.all fun other => other.head?.any (isSame part) then
      let (common, left) := splitCommon rest (others.map List.tail)
      (part :: common, left)
    else ([], (part :: rest) :: others)

/-- The entries of branches of one character each. -/
def setOfBranches? : List (List PatternPart) → Option (List SetEntry)
  | [] => some []
  | [part] :: rest => do
    let entries ← part.entries?
    let others ← setOfBranches? rest
    some (entries ++ others)
  | _ :: _ => none

/-- The part that a choice of two or more branches makes. -/
def ofChoice (flags : PatternFlags) (branches : List (List PatternPart)) : PatternPart :=
  match setOfBranches? branches with
  | some entries => .set entries.eraseDups false
  | none => .whole (.choiceOf (branches.map (sequencePattern flags)))

end PatternPart

/-- What has been read between two parentheses: the finished branches in order, and the parts of
the current branch, the latest first, each with the position where it starts. -/
structure Branches where
  finished : List (List PatternPart) := []
  parts : List (Nat × PatternPart) := []

namespace Branches

/-- Add a part that starts at a position to the current branch. -/
def push (branches : Branches) (start : Nat) (part : PatternPart) : Branches :=
  { branches with parts := (start, part) :: branches.parts }

/-- The parts of the current branch. -/
def current (branches : Branches) : List PatternPart :=
  (branches.parts.reverse.map Prod.snd).flatMap PatternPart.spread

/-- End the current branch and start the next one. -/
def next (branches : Branches) : Branches :=
  { finished := branches.finished ++ [branches.current], parts := [] }

/-- Whether nothing has been read. -/
def isEmpty (branches : Branches) : Bool :=
  branches.finished.isEmpty && branches.parts.isEmpty

/-- The parts that all branches make. -/
def close (branches : Branches) (flags : PatternFlags) : List PatternPart :=
  match branches.finished with
  | [] => branches.current
  | first :: others =>
    let (common, left) := PatternPart.splitCommon first (others ++ [branches.current])
    common ++ [PatternPart.ofChoice flags left]

end Branches

end ClassLint
