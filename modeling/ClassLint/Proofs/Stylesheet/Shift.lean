import ClassLint.Stylesheet.Parse
import ClassLint.Proofs.Text.Offset
import ClassLint.Proofs.Selector.Balance

/-!
# Rules of a source behind other text

Text in front of a source moves the locations in it: down by the line feeds of the text, and on
the first line to the right by the characters after the last of them. A location is computed by
moving along the source, and moving commutes with such a shift, so that selectors and rules are
read alike in both places and only their locations differ.
-/

namespace ClassLint

namespace Location

/-- Where a location of a source lies once `before` stands in front of the source. -/
def shift (before : Text) (location : Location) : Location where
  line := location.line + before.count '\n'
  column :=
    if location.line = 1 then location.column + (before.rtakeWhile (· ≠ '\n')).length
    else location.column

/-- Nothing in front of a source moves nothing. -/
@[simp] theorem shift_nil (location : Location) : location.shift [] = location := by
  simp [shift]

/-- The start of a source lies just past the text in front of it. -/
theorem shift_start (before : Text) : start.shift before = start.advance before := by
  rw [advance_start]
  simp [shift, start]
  omega

/-- One character stays on its line or goes to the next. -/
theorem line_le_line_next (location : Location) (c : Char) :
    location.line ≤ (location.next c).line := by
  unfold next
  split
  · dsimp only
    omega
  · exact Int.le_refl _

/-- Moving along a text never goes up. -/
theorem line_le_line_advance (location : Location) (text : Text) :
    location.line ≤ (location.advance text).line := by
  induction text generalizing location with
  | nil => exact Int.le_refl _
  | cons c rest ih => exact Int.le_trans (location.line_le_line_next c) (ih (location.next c))

/-- No location of a source lies above its first line. -/
theorem one_le_line_atOffset (source : Text) (offset : Nat) :
    1 ≤ (atOffset source offset).line := by
  rw [← advance_take]
  exact start.line_le_line_advance _

/-- Moving past a character commutes with a shift. -/
theorem shift_next (before : Text) {location : Location} (h : 1 ≤ location.line) (c : Char) :
    (location.next c).shift before = (location.shift before).next c := by
  by_cases hc : c = '\n'
  · have hline : location.line + 1 ≠ 1 := by omega
    simp [next, shift, hc, hline]
    omega
  · by_cases hline : location.line = 1
    · simp [next, shift, hc, hline]
      omega
    · simp [next, shift, hc, hline]

/-- Moving along a text commutes with a shift. -/
theorem shift_advance (before : Text) {location : Location} (h : 1 ≤ location.line) (text : Text) :
    (location.advance text).shift before = (location.shift before).advance text := by
  induction text generalizing location with
  | nil => rfl
  | cons c rest ih =>
    have hnext : 1 ≤ (location.next c).line := Int.le_trans h (location.line_le_line_next c)
    rw [advance_cons, advance_cons, ih hnext, shift_next before h]

/-- The locations along a text commute with a shift. -/
theorem along_shift (before : Text) {location : Location} (h : 1 ≤ location.line) (text : Text) :
    (location.shift before).along text =
      (location.along text).map fun place => (place.1.shift before, place.2) := by
  induction text generalizing location with
  | nil => rfl
  | cons c rest ih =>
    have hnext : 1 ≤ (location.next c).line := Int.le_trans h (location.line_le_line_next c)
    rw [along, along, List.map_cons, ← shift_next before h, ih hnext]

/-- An offset behind other text has the shifted location. -/
theorem atOffset_append (before source : Text) (offset : Nat) :
    atOffset (before ++ source) (before.length + offset) =
      (atOffset source offset).shift before := by
  rw [← advance_take, ← advance_take, List.take_length_add_append, advance_append, ← shift_start]
  exact (shift_advance before (Int.le_refl _) _).symm

/-- Text behind an offset has no part in its location. -/
theorem atOffset_append_of_le {source : Text} {offset : Nat} (h : offset ≤ source.length)
    (after : Text) : atOffset (source ++ after) offset = atOffset source offset := by
  rw [← advance_take, ← advance_take, List.take_append_of_le_length h]

end Location

/-- An offence behind other text: the same offence at the shifted location. -/
def ParseError.shift (before : Text) (error : ParseError) : ParseError :=
  { error with location := error.location.shift before }

/-- A selector behind other text: the same text at the shifted location. -/
def SelectorSource.shift (before : Text) (selector : SelectorSource) : SelectorSource :=
  { selector with location := selector.location.shift before }

/-- Nothing in front of a selector moves nothing. -/
theorem SelectorSource.shift_nil : SelectorSource.shift [] = id := by
  funext selector
  rw [shift, Location.shift_nil]
  rfl

namespace SelectorList

/-- The marks of a prelude at a shifted origin have shifted locations. -/
theorem locatedMarks_shift (before prelude : Text) {origin : Location} (h : 1 ≤ origin.line) :
    locatedMarks prelude (origin.shift before) =
      (locatedMarks prelude origin).map (Prod.map (Location.shift before) id) := by
  rw [locatedMarks, locatedMarks, Location.along_shift before h, List.map_map, ← List.zip_map_left,
    List.map_map]
  rfl

/-- A group of marks at shifted locations writes the shifted selector. -/
theorem selector?_shift (before : Text) (group : List (Location × Mark)) :
    selector? (group.map (Prod.map (Location.shift before) id)) =
      (selector? group).map (SelectorSource.shift before) := by
  rw [selector?_eq_map, selector?_eq_map, List.filter_map, List.find?_map, List.map_map,
    Option.map_map, Option.map_map]
  rfl

/-- The selectors of a prelude at a shifted origin are shifted. -/
theorem split_shift (before prelude : Text) {origin : Location} (h : 1 ≤ origin.line) :
    split prelude (origin.shift before) =
      (split prelude origin).map (SelectorSource.shift before) := by
  rw [split, split, locatedMarks_shift before prelude h, ← map_splitWhere, List.filterMap_map,
    List.map_filterMap]
  congr 1
  funext group
  exact selector?_shift before group

end SelectorList

namespace StyleRule

mutual

/-- A rule behind other text: all its locations are shifted, also those of nested rules. -/
def shift (before : Text) : StyleRule → StyleRule
  | ⟨prelude, location, selectors, children⟩ =>
    ⟨prelude, location.shift before, selectors.map (SelectorSource.shift before),
      shiftAll before children⟩

/-- Rules behind other text. -/
def shiftAll (before : Text) : List StyleRule → List StyleRule
  | [] => []
  | rule :: rest => shift before rule :: shiftAll before rest

end

/-- Rules are shifted one by one. -/
theorem shiftAll_eq_map (before : Text) (rules : List StyleRule) :
    shiftAll before rules = rules.map (shift before) := by
  induction rules with
  | nil => rfl
  | cons rule rest ih => rw [shiftAll, ih, List.map_cons]

mutual

/-- Nothing in front of a rule moves nothing. -/
theorem shift_nil : ∀ rule : StyleRule, rule.shift [] = rule
  | ⟨prelude, location, selectors, children⟩ => by
    rw [shift, Location.shift_nil, SelectorSource.shift_nil, List.map_id, shiftAll_nil children]

/-- Nothing in front of rules moves nothing. -/
theorem shiftAll_nil : ∀ rules : List StyleRule, shiftAll [] rules = rules
  | [] => rfl
  | rule :: rest => by rw [shiftAll, shift_nil rule, shiftAll_nil rest]

end

mutual

/-- A shift leaves alone which selectors of a rule count. -/
theorem walk_shift (before : Text) : ∀ rule : StyleRule,
    walk (rule.shift before) = (walk rule).map (SelectorSource.shift before)
  | ⟨prelude, location, selectors, children⟩ => by
    rw [shift, walk, walk, walkAll_shiftAll before children]
    split
    · split
      · rfl
      · rfl
    · rw [List.map_append]

/-- A shift leaves alone which selectors of rules count. -/
theorem walkAll_shiftAll (before : Text) : ∀ rules : List StyleRule,
    walkAll (shiftAll before rules) = (walkAll rules).map (SelectorSource.shift before)
  | [] => rfl
  | rule :: rest => by
    rw [shiftAll, walkAll, walkAll, walk_shift before rule, walkAll_shiftAll before rest,
      List.map_append]

end

/-- The selectors of two rows of rules follow one another. -/
theorem walkAll_append (first second : List StyleRule) :
    walkAll (first ++ second) = walkAll first ++ walkAll second := by
  induction first with
  | nil => rfl
  | cons rule rest ih => rw [List.cons_append, walkAll, walkAll, ih, List.append_assoc]

/-- The rule of a chunk at a shifted location is the shifted rule. -/
theorem ofChunk_shift (before : Text) {chunk : Chunk} (h : 1 ≤ chunk.location.line)
    (children : List StyleRule) :
    ofChunk ⟨chunk.text, chunk.location.shift before⟩ (children.map (shift before)) =
      (ofChunk chunk children).shift before := by
  rw [← shiftAll_eq_map, ofChunk, ofChunk, shift]
  split
  · rfl
  · rw [SelectorList.split_shift before chunk.text h]

end StyleRule

end ClassLint
