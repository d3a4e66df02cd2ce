import ClassLint.Proofs.Selector.Trim

/-!
# Commas divide a prelude

A prelude in front of a comma that it leaves at top level is split as if it stood alone, and so is
what follows the comma, from the location behind it. The scan keeps nothing of the text before a
top-level comma but where it stands. Without such a comma the whole prelude is one entry.
-/

namespace ClassLint

namespace SelectorList

variable {first second before rest code : Text} {ending : Ending} {after : Nesting}

/-- A comma outside comments, escapes, strings and brackets. -/
def HasComma (text : Text) : Prop :=
  ∃ before rest code, text = before ++ ',' :: rest ∧ Nesting.top.Reads before code .whole .top

/-- Behind a comma at top level a scan starts anew. -/
theorem scan_append_comma (h : Nesting.top.Reads first code .whole .top) (second : Text) :
    scan true .start (first ++ ',' :: second) =
      ((scan true .start first).1 ++ ⟨',', .plain, .top⟩ :: (scan true .start second).1,
        (scan true .start second).2) := by
  rw [Place.start, h.scan_append (by simp), scan_char (by decide) (by simp)]
  rfl

/-- A comma at top level divides the selectors before it from those behind it. -/
theorem split_append_comma (h : Nesting.top.Reads first code .whole .top) (second : Text)
    (origin : Location) :
    split (first ++ ',' :: second) origin =
      split first origin ++ split second (origin.advance (first ++ [','])) := by
  have hmarks : locatedMarks (first ++ ',' :: second) origin =
      locatedMarks first origin ++ (origin.advance first, ⟨',', .plain, .top⟩) ::
        locatedMarks second (origin.advance (first ++ [','])) := by
    rw [locatedMarks, scan_append_comma h, Location.along_append, List.map_append,
      List.zip_append (length_scan first origin), Location.advance_append]
    rfl
  rw [split, hmarks, splitWhere_append_cons rfl, List.filterMap_append]
  rfl

/-- A prelude has a comma at top level exactly if its scan marks one. -/
theorem hasComma_iff {text : Text} :
    HasComma text ↔ ∃ mark ∈ (scan true .start text).1, isComma mark = true := by
  constructor
  · rintro ⟨before, rest, code, rfl, hreads⟩
    refine ⟨⟨',', .plain, .top⟩, ?_, rfl⟩
    rw [scan_append_comma hreads]
    simp
  · rintro ⟨mark, hmark, hcomma⟩
    obtain ⟨hplain, htop, hchar⟩ := isComma_iff.1 hcomma
    obtain ⟨first, last, hmarks⟩ := List.append_of_mem hmark
    obtain ⟨code, hreads⟩ := Nesting.reads_of_scan_plain hmarks hplain
    refine ⟨first.map Mark.char, last.map Mark.char, code, ?_, htop ▸ hreads⟩
    have htext := congrArg (List.map Mark.char) hmarks
    rwa [map_char_scan, List.map_append, List.map_cons, hchar] at htext

instance (text : Text) : Decidable (HasComma text) := decidable_of_iff' _ hasComma_iff

/-- A prelude without a comma at top level is a single entry. -/
theorem split_of_not_hasComma {text : Text} (h : ¬ HasComma text) (origin : Location) :
    split text origin = (selector? (locatedMarks text origin)).toList := by
  have hnone : ∀ located ∈ locatedMarks text origin, isComma located.2 = false := by
    intro located hlocated
    by_contra hcomma
    exact h (hasComma_iff.2 ⟨located.2, (List.of_mem_zip hlocated).2, Bool.not_eq_false _ ▸ hcomma⟩)
  change (groups text origin).filterMap selector? = _
  rw [groups, splitWhere_of_forall hnone, List.filterMap_eq_flatMap_toList, List.flatMap_singleton]

/-- A group of marks is dropped exactly if nothing is left of it without comments and blanks. -/
theorem selector?_eq_none_iff (group : List (Location × Mark)) :
    selector? group = none ↔ Text.strip ((codeOf group).map Mark.char) = [] := by
  rw [selector?_eq_map, Option.map_eq_none_iff, ← List.head?_eq_none_iff, Text.head?_strip, codeOf,
    List.find?_map, Option.map_eq_none_iff, List.filter_map, List.find?_map, Option.map_eq_none_iff]
  rfl

/-- What a prelude holds besides comments is what a reading leaves of it. -/
theorem codeOf_locatedMarks {text : Text} (h : Nesting.top.Reads text code ending after)
    (origin : Location) : (codeOf (locatedMarks text origin)).map Mark.char = code := by
  rw [codeOf, locatedMarks, List.map_snd_zip (length_scan text origin).ge]
  exact h.code_scan

/-- A comma that a text leaves at top level divides its selectors: those of the text before it, and
those of the text behind it from the location there. A text without such a comma has a single entry:
the text without its comments, trimmed, and dropped exactly if nothing is left. -/
theorem split_distributes_over_commas (first second : Text) (origin : Location) :
    (∃ code ending after, Nesting.top.Reads first code ending after) ∧
    (∀ code, Nesting.top.Reads first code .whole .top →
      split (first ++ ',' :: second) origin =
        split first origin ++ split second (origin.advance (first ++ [',']))) ∧
    ∀ code ending after, Nesting.top.Reads first code ending after → ¬ HasComma first →
      (Text.strip code = [] ∧ split first origin = []) ∨
        (Text.strip code ≠ [] ∧
          ∃ location, split first origin = [⟨Text.strip code, location⟩]) := by
  refine ⟨Nesting.top.exists_reads first, fun code h => split_append_comma h second origin, ?_⟩
  intro code ending after hreads hcomma
  have hdropped := selector?_eq_none_iff (locatedMarks first origin)
  rw [codeOf_locatedMarks hreads] at hdropped
  rw [split_of_not_hasComma hcomma]
  cases hselector : selector? (locatedMarks first origin) with
  | none => exact Or.inl ⟨hdropped.1 hselector, rfl⟩
  | some selector =>
    have htext := text_of_selector? hselector
    rw [codeOf_locatedMarks hreads] at htext
    refine Or.inr ⟨fun hempty => ?_, selector.location, ?_⟩
    · rw [hdropped.2 hempty] at hselector
      cases hselector
    · rw [← htext]
      rfl

/-- Neither a comma in a comment, nor an escaped one, nor one in parentheses divides. -/
theorem split_distributes_over_commas_enclosed :
    Nesting.top.Reads "/*,*/\\,(,)".toList "\\,(,)".toList .whole .top ∧
      ¬ HasComma "/*,*/\\,(,)".toList ∧
      (∃ location, split "/*,*/\\,(,)".toList .start = [⟨"\\,(,)".toList, location⟩]) ∧
      split "/*,*/\\,(,),\nb".toList .start =
        [⟨"\\,(,)".toList, ⟨1, 6⟩⟩, ⟨"b".toList, ⟨2, 1⟩⟩] := by
  have hinside : Nesting.top.Reads "(,)".toList "(,)".toList .whole .top :=
    .char (by decide) (by decide) .openParenthesis
      (.char (by decide) (by decide) (.other (by decide) (by decide))
        (.char (by decide) (by decide) (.close (by decide)) .nil))
  have hreads : Nesting.top.Reads "/*,*/\\,(,)".toList "\\,(,)".toList .whole .top :=
    .comment rfl (show ¬ ['*', '/'] <:+: [','] by decide) (.escape hinside)
  have hcomma : ¬ HasComma "/*,*/\\,(,)".toList := by decide
  have ⟨_, hdivides, hsingle⟩ :=
    split_distributes_over_commas "/*,*/\\,(,)".toList "\nb".toList .start
  refine ⟨hreads, hcomma, ?_, (hdivides _ hreads).trans (by decide)⟩
  rcases hsingle _ _ _ hreads hcomma with ⟨hempty, -⟩ | ⟨-, hlocation⟩
  · exact absurd hempty (by decide)
  · exact hlocation

end SelectorList

end ClassLint
