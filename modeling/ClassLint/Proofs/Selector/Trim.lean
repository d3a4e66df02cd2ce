import ClassLint.Proofs.Scan.Comments
import ClassLint.Proofs.Selector.Balance
import ClassLint.Proofs.Stylesheet.SelectorOrder

/-!
# Trimming a prelude

Blanks at the end of a prelude change none of its selectors. They may stand behind a backslash, in
an open bracket or string, or in a comment, so that the scan marks them in different ways; but none
of them is a comma, none starts a selector, and each selector is trimmed anyway.
-/

namespace ClassLint

namespace Text

/-- Blanks at the end of a text are dropped from it. -/
theorem stripRight_append {blanks : Text} (h : ∀ c ∈ blanks, isBlank c = true) (text : Text) :
    stripRight (text ++ blanks) = stripRight text := by
  have hreverse : ∀ c ∈ blanks.reverse, isBlank c = true := by
    intro c hc
    exact h c (List.mem_reverse.1 hc)
  rw [stripRight, stripRight, List.reverse_append, List.dropWhile_append_of_pos hreverse]

/-- Blanks at the end of a text are trimmed. -/
theorem strip_append {blanks : Text} (h : ∀ c ∈ blanks, isBlank c = true) (text : Text) :
    strip (text ++ blanks) = strip text := by
  rw [strip, strip, List.dropWhile_append]
  split
  · rename_i hempty
    have hnone : blanks.dropWhile isBlank = [] := List.dropWhile_eq_nil_iff.2 h
    rw [List.isEmpty_iff.1 hempty, hnone]
  · exact stripRight_append h _

/-- A text that starts with no blank is trimmed at its end only. -/
theorem strip_of_head {text : Text} (h : ∀ c ∈ text.head?, isBlank c = false) :
    strip text = stripRight text := by
  cases text with
  | nil => rfl
  | cons c rest => simp [strip, h c rfl]

/-- A character that is no blank stays at the front of a trimmed text. -/
theorem strip_cons {c : Char} (h : isBlank c = false) (rest : Text) :
    strip (c :: rest) = c :: stripRight rest := by
  rw [strip_of_head (by simpa using h), stripRight_cons h]

end Text

/-- A text in front of other text has the same marks, unless the other text completes a marker
that the text has begun. -/
theorem scan_isPrefix {after : Text} (hstar : after.head? ≠ some '*')
    (hslash : after.head? ≠ some '/') (place : Place) (text : Text) :
    (scan true place text).1 <+: (scan true place (text ++ after)).1 := by
  have hhead {d : Char} {rest : Text} (hafter : after.head? ≠ some d)
      (hrest : ∀ tail, rest = d :: tail → False) : (rest ++ after).head? ≠ some d := by
    cases rest with
    | nil => exact hafter
    | cons e tail =>
      intro heq
      cases heq
      exact hrest tail rfl
  fun_induction scan true place text with
  | case1 place => exact List.nil_prefix
  | case2 nesting rest marks place hscan ih =>
    rw [hscan] at ih
    simpa [scan] using ih
  | case3 nesting c rest hclose marks place hscan ih =>
    rw [hscan] at ih
    rw [List.cons_append, scan_comment_char fun hc => hhead hslash fun tail => hclose tail hc]
    exact List.cons_prefix_cons.2 ⟨rfl, ih⟩
  | case4 nesting =>
    cases after with
    | nil => exact List.prefix_rfl
    | cons c after =>
      rw [List.singleton_append, scan_escape]
      exact List.cons_prefix_cons.2 ⟨rfl, List.nil_prefix⟩
  | case5 nesting c rest marks place hscan ih =>
    rw [hscan] at ih
    simpa [scan] using ih
  | case6 nesting rest hcomment marks place hscan ih =>
    rw [hscan] at ih
    simpa [scan, hcomment] using ih
  | case7 nesting rest hcomment marks place hscan ih =>
    rw [hscan] at ih
    simpa [scan, hcomment] using ih
  | case8 nesting c rest hlone hescape hcomment marks place hscan ih =>
    have hc : c ≠ '\\' := by
      intro hc
      cases rest with
      | nil => exact hlone hc rfl
      | cons d rest => exact hescape d rest hc rfl
    rw [hscan] at ih
    rw [List.cons_append, scan_char hc fun _ _ hc => hhead hstar fun tail => hcomment tail hc]
    exact List.cons_prefix_cons.2 ⟨rfl, ih⟩

namespace Location

/-- The locations along two texts follow one another. -/
theorem along_append (location : Location) (first second : Text) :
    location.along (first ++ second) =
      location.along first ++ (location.advance first).along second := by
  induction first generalizing location with
  | nil => rfl
  | cons c rest ih => simp [along, ih]

end Location

namespace SelectorList

/-- Blanks behind a prelude put marks of blanks behind its marks. -/
theorem locatedMarks_append {blanks : Text} (h : ∀ c ∈ blanks, Text.isBlank c = true)
    (prelude : Text) (origin : Location) :
    ∃ extra, locatedMarks (prelude ++ blanks) origin = locatedMarks prelude origin ++ extra ∧
      ∀ located ∈ extra, Text.isBlank located.2.char = true := by
  have hhead {d : Char} (hd : Text.isBlank d = false) : blanks.head? ≠ some d := by
    intro hhead
    rw [h d (List.mem_of_mem_head? hhead)] at hd
    cases hd
  obtain ⟨extra, hextra⟩ :=
    scan_isPrefix (hhead (d := '*') rfl) (hhead (d := '/') rfl) .start prelude
  have hchars : extra.map Mark.char = blanks := by
    have happend := congrArg (List.map Mark.char) hextra
    rw [List.map_append, map_char_scan, map_char_scan] at happend
    exact List.append_cancel_left happend
  refine ⟨(((origin.advance prelude).along blanks).map Prod.fst).zip extra, ?_, ?_⟩
  · rw [locatedMarks, locatedMarks, Location.along_append, List.map_append, ← hextra,
      List.zip_append (length_scan prelude origin)]
  · intro located hlocated
    have hmark := List.mem_map_of_mem (f := Mark.char) (List.of_mem_zip hlocated).2
    rw [hchars] at hmark
    exact h _ hmark

/-- Items without a cut behind others belong to the last group. -/
theorem splitWhere_append {α : Type} (cut : α → Bool) {extra : List α}
    (h : ∀ item ∈ extra, cut item = false) (items : List α) :
    ∃ groups last, splitWhere cut items = groups ++ [last] ∧
      splitWhere cut (items ++ extra) = groups ++ [last ++ extra] := by
  induction items with
  | nil => exact ⟨[], [], rfl, splitWhere_of_forall h⟩
  | cons item rest ih =>
    obtain ⟨groups, last, hrest, hlonger⟩ := ih
    rw [List.cons_append, splitWhere, splitWhere, hrest, hlonger]
    by_cases hcut : cut item = true
    · exact ⟨[] :: groups, last, by simp [hcut], by simp [hcut]⟩
    · cases groups with
      | nil => exact ⟨[], item :: last, by simp [hcut], by simp [hcut]⟩
      | cons group groups =>
        exact ⟨(item :: group) :: groups, last, by simp [hcut], by simp [hcut]⟩

/-- Blanks at the end of a group of marks do not change its selector. -/
theorem selector?_append {extra : List (Location × Mark)}
    (h : ∀ located ∈ extra, Text.isBlank located.2.char = true) (group : List (Location × Mark)) :
    selector? (group ++ extra) = selector? group := by
  have hcode : ∀ located ∈ extra.filter (fun entry => entry.2.isCode),
      Text.isBlank located.2.char = true := by
    intro located hlocated
    exact h located (List.mem_filter.1 hlocated).1
  have hnone : (extra.filter fun entry => entry.2.isCode).find?
      (fun entry => !Text.isBlank entry.2.char) = none := by
    apply List.find?_eq_none.2
    intro located hlocated
    simp [hcode located hlocated]
  have hchars : ∀ c ∈ (extra.filter fun entry => entry.2.isCode).map (fun entry => entry.2.char),
      Text.isBlank c = true := by
    intro c hc
    obtain ⟨located, hlocated, rfl⟩ := List.mem_map.1 hc
    exact hcode located hlocated
  rw [selector?_eq_map, selector?_eq_map, List.filter_append, List.find?_append, hnone,
    Option.or_none, List.map_append, Text.strip_append hchars]

/-- Blanks at the end of a prelude do not change its selectors. -/
theorem split_append {blanks : Text} (h : ∀ c ∈ blanks, Text.isBlank c = true) (prelude : Text)
    (origin : Location) : split (prelude ++ blanks) origin = split prelude origin := by
  obtain ⟨extra, hmarks, hextra⟩ := locatedMarks_append h prelude origin
  have hcomma : ∀ located ∈ extra, isComma located.2 = false := by
    intro located hlocated
    by_contra hcomma
    have hchar := (isComma_iff.1 (Bool.not_eq_false _ ▸ hcomma)).2.2
    have hblank := hextra located hlocated
    rw [hchar] at hblank
    exact absurd hblank (by decide)
  obtain ⟨groups, last, hgroups, hlonger⟩ :=
    splitWhere_append (fun located => isComma located.2) hcomma (locatedMarks prelude origin)
  change (splitWhere (fun located => isComma located.2) _).filterMap selector? =
    (splitWhere (fun located => isComma located.2) _).filterMap selector?
  rw [hmarks, hlonger, hgroups, List.filterMap_append, List.filterMap_append]
  congr 1
  rw [List.filterMap_cons, List.filterMap_cons, selector?_append hextra last]

/-- A prelude that starts with no blank has the same selectors when it is trimmed. -/
theorem split_strip {prelude : Text} (h : ∀ c ∈ prelude.head?, Text.isBlank c = false)
    (origin : Location) : split (Text.strip prelude) origin = split prelude origin := by
  obtain ⟨blanks, hprelude, hblanks⟩ := prelude.exists_blanks
  rw [Text.strip_of_head h]
  conv_rhs => rw [hprelude]
  exact (split_append hblanks _ _).symm

end SelectorList

end ClassLint
