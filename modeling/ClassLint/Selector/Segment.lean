import ClassLint.Text.Blank
import ClassLint.Selector.Tokens

/-!
# Cutting a selector at its combinators

A selector is trimmed and cut at its separators: white space and the characters `>`, `+` and
`~`, where they stand at top level and are not escaped. A gap between two compounds writes the
first combinator character in it, and the descendant combinator when it is white space alone. A
combinator before the first compound relates to nothing and is dropped, and so is one after the
last. The white space here is that of style sheets.
-/

namespace ClassLint

/-- A character that ends a compound at top level. -/
def isSeparatorChar (c : Char) : Bool := Text.isSheetSpace c || (Combinator.ofChar? c).isSome

/-- A mark that ends a compound. -/
def Mark.isSeparator (mark : Mark) : Bool := mark.isTopPlain && isSeparatorChar mark.char

/-- A maximal run of separators, or of characters between separators. -/
inductive Run where
  | gap (text : Text)
  | compound (text : Text)
  deriving DecidableEq, Repr

namespace Run

/-- Put a character before the runs: into the first one if that is of the same sort. -/
def push (separator : Bool) (c : Char) (runs : List Run) : List Run :=
  match separator, runs with
  | true, .gap text :: rest => .gap (c :: text) :: rest
  | true, runs => .gap [c] :: runs
  | false, .compound text :: rest => .compound (c :: text) :: rest
  | false, runs => .compound [c] :: runs

/-- The maximal runs of the marks, in order. -/
def ofMarks : List Mark → List Run
  | [] => []
  | mark :: rest => push mark.isSeparator mark.char (ofMarks rest)

end Run

/-- The combinator that the gap between two compounds writes. -/
def Combinator.ofGap (gap : Text) : Combinator :=
  (gap.findSome? Combinator.ofChar?).getD .descendant

namespace Chain

/-- The compounds that follow a compound, each with the combinator of the gap before it. -/
def linksOfRuns : List Run → List (Combinator × Text)
  | .gap gap :: .compound text :: rest => (Combinator.ofGap gap, text) :: linksOfRuns rest
  | _ => []

/-- The chain of the compounds among the runs, if there is one. -/
def ofRuns? : List Run → Option (Chain Text)
  | .compound text :: rest => some ⟨text, linksOfRuns rest⟩
  | .gap _ :: .compound text :: rest => some ⟨text, linksOfRuns rest⟩
  | _ => none

/-- The chain of the compounds of a selector text; none if it holds separators alone. -/
def ofText? (text : Text) : Option (Chain Text) :=
  ofRuns? (Run.ofMarks (scan false .start text).1)

end Chain

/-- A compound's text with the class tokens found in it. -/
def Compound.ofText (text : Text) : Compound := ⟨text, ClassToken.ofCompound text⟩

/-- The selector that a text writes. A text without compounds gives one empty compound. -/
def Selector.ofText (text : Text) : Selector :=
  let trimmed := Text.strip text
  match Chain.ofText? trimmed with
  | none => ⟨trimmed, ⟨{ text := [] }, []⟩⟩
  | some chain => ⟨trimmed, chain.map Compound.ofText⟩

end ClassLint
