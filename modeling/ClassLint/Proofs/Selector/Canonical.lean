import ClassLint.Proofs.Selector.Compounds

/-!
# The canonical text of a selector

A chain is written in one way: its compounds as they are, and between two of them the symbol of
their combinator between single spaces, or one space for the descendant combinator. Cutting that
text gives the chain back. Every compound of a chain is read from nothing open, and every one but
the last leaves nothing open, so that the gaps in the new text are again at top level. The last one
may end in any way, since nothing is written behind it.
-/

namespace ClassLint

namespace Combinator

/-- A combinator as it is written between two compounds. -/
def glue : Combinator → Text
  | .descendant => [' ']
  | combinator => [' ', combinator.symbol, ' ']

/-- Every combinator is written with at least one character. -/
theorem glue_ne_nil (combinator : Combinator) : combinator.glue ≠ [] := by
  cases combinator <;> simp [glue]

/-- What is written between two compounds is a gap. -/
theorem mem_separators_of_mem_glue (combinator : Combinator) :
    ∀ c ∈ combinator.glue, c ∈ separators := by
  cases combinator <;> simp [glue, symbol, separators]

/-- What is written for a combinator writes it. -/
theorem writtenBy_glue (combinator : Combinator) : WrittenBy combinator.glue combinator := by
  have hspace : ∀ d ∈ [' '], Text.isSheetSpace d = true := List.forall_mem_singleton.2 rfl
  cases combinator with
  | descendant => exact .space hspace
  | child => exact .symbol hspace (by decide) rfl
  | adjacentSibling => exact .symbol hspace (by decide) rfl
  | generalSibling => exact .symbol hspace (by decide) rfl

end Combinator

/-- Compounds that follow a compound, each behind its combinator. -/
def renderLinks : List (Combinator × Text) → Text
  | [] => []
  | (combinator, compound) :: links => combinator.glue ++ (compound ++ renderLinks links)

namespace Links

variable {text : Text} {links : List (Combinator × Text)}

/-- Only a text that is not empty has compounds. -/
theorem ne_nil (h : Links text links) (hlinks : links ≠ []) : text ≠ [] := by
  cases h with
  | trail => exact absurd rfl hlinks
  | link hne => exact List.append_ne_nil_of_left_ne_nil hne _

/-- Links that some text writes are written by their own rendering. -/
theorem renders (h : Links text links) : Links (renderLinks links) links := by
  induction h with
  | trail => exact .trail (List.forall_mem_nil _)
  | @link gap compound rest combinator links _ _ _ hcompound hclosed hrest ih =>
    refine .link combinator.glue_ne_nil combinator.mem_separators_of_mem_glue
      combinator.writtenBy_glue hcompound (fun hne => hclosed (hrest.ne_nil ?_)) ih
    rintro rfl
    exact hne rfl

end Links

namespace Chain

/-- The text that a chain is written as. -/
def render (chain : Chain Text) : Text := chain.first ++ renderLinks chain.rest

/-- The canonical text of a selector text: that of its chain, and nothing if it has none. -/
def canonical (text : Text) : Text := (ofText? text).elim [] render

/-- A chain that some text writes is written by its own rendering. -/
theorem WrittenBy.render {text : Text} {chain : Chain Text} (h : WrittenBy text chain) :
    WrittenBy chain.render chain := by
  obtain ⟨gap, rest, -, -, hcompound, hclosed, hlinks⟩ := h
  refine ⟨[], renderLinks chain.rest, rfl, by simp, hcompound, fun hne => ?_, hlinks.renders⟩
  refine hclosed (hlinks.ne_nil fun hnil => hne ?_)
  rw [hnil]
  rfl

/-- The canonical text of a selector text is cut as the text itself: into the same compounds, joined
by the same combinators, whatever escapes, strings and brackets the text has and however its last
compound ends. A text without compounds has the empty canonical text, which has none either. -/
theorem canonical_text_stable (text : Text) : ofText? (canonical text) = ofText? text := by
  by_cases h : ∀ c ∈ text, c ∈ separators
  · rw [canonical, ofText?_of_separators h]
    exact ofText?_of_separators (by simp)
  · obtain ⟨chain, hchain⟩ := exists_writtenBy (by simpa using h)
    rw [canonical, ofText?_of_writtenBy hchain]
    exact ofText?_of_writtenBy hchain.render

end Chain

end ClassLint
