import ClassLint.Proofs.Stylesheet.Acceptance
import Mathlib.Data.List.Forall2

/-!
# Selectors in source order

The selectors of a style sheet start at strictly increasing offsets of its source, each with the
character and the location that stand there. The offsets rise along the marks of one prelude, a
selector starts at one of the marks of its group, and the preludes rise along the tokens of a
derivation, since the rules of a block stand between its braces.
-/

namespace ClassLint

namespace Text

/-- A character that is no blank stays at the front when blanks are dropped from the end. -/
theorem stripRight_cons {c : Char} (h : isBlank c = false) (rest : Text) :
    stripRight (c :: rest) = c :: stripRight rest := by
  rw [stripRight, stripRight, List.reverse_cons, List.dropWhile_append]
  split
  · rename_i hempty
    rw [List.isEmpty_iff.1 hempty]
    simp [h]
  · rw [List.reverse_append]
    rfl

/-- A stripped text starts with the first character of the text that is no blank. -/
theorem head?_strip (text : Text) : (strip text).head? = text.find? fun c => !isBlank c := by
  rw [strip, List.find?_not_eq_head?_dropWhile]
  cases hrest : text.dropWhile isBlank with
  | nil => rfl
  | cons c rest =>
    have hc : isBlank c = false := by
      have hhead := List.head?_dropWhile_not isBlank text
      rw [hrest] at hhead
      simpa using hhead
    rw [stripRight_cons hc]
    rfl

end Text

/-- A mark with its location stands at an offset of a source. -/
structure MarkAt (source : Text) (offset : Nat) (located : Location × Mark) : Prop where
  char : source[offset]? = some located.2.char
  location : located.1 = Location.atOffset source offset

/-- A selector starts at an offset of a source: its first character stands there, and its location
is that of the offset. -/
structure StartsAt (source : Text) (offset : Nat) (selector : SelectorSource) : Prop where
  char : ∃ c, source[offset]? = some c ∧ selector.text.head? = some c
  location : selector.location = Location.atOffset source offset

/-- Things that start at rising offsets between two others. -/
abbrev Rising {α : Type} (At : (start : Nat) → α → Prop) (low : Nat) (items : List α) (high : Nat) :
    Prop :=
  InOrder (fun start _ => At start) low items high

namespace SelectorList

/-- Splitting only leaves items out. -/
theorem splitWhere_sublist {α : Type} (cut : α → Bool) (items : List α) :
    (splitWhere cut items).flatten.Sublist items := by
  induction items with
  | nil => exact .slnil
  | cons item rest ih =>
    rw [splitWhere]
    split
    · exact ih.cons item
    · cases hgroups : splitWhere cut rest with
      | nil => exact (List.nil_sublist rest).cons_cons item
      | cons group groups =>
        rw [hgroups] at ih
        exact ih.cons_cons item

/-- The marks of a part of a source stand at the offsets of the part. -/
theorem rising_along {source text : Text} {marks : List Mark} {offset : Nat}
    (hmarks : marks.map Mark.char = text) (htext : text <+: source.drop offset) :
    Rising (MarkAt source) offset
      ((((Location.atOffset source offset).along text).map Prod.fst).zip marks)
      (offset + text.length) := by
  induction marks generalizing offset text with
  | nil =>
    subst hmarks
    exact Nat.le_refl _
  | cons mark marks ih =>
    subst hmarks
    obtain ⟨after, hafter⟩ := htext
    have hchar : source[offset]? = some mark.char := by
      rw [← List.head?_drop, ← hafter]
      rfl
    have hrest : marks.map Mark.char <+: source.drop (offset + 1) := by
      rw [← List.tail_drop, ← hafter]
      exact List.prefix_append _ _
    have hrising := ih rfl hrest
    rw [Location.atOffset_succ hchar, Nat.add_right_comm] at hrising
    exact ⟨offset, offset + 1, le_rfl, Nat.lt_succ_self _, ⟨hchar, rfl⟩, hrising⟩

/-- A selector starts at one of the marks of its group. -/
theorem rising_selector? {source : Text} {group : List (Location × Mark)} {low high : Nat}
    (h : Rising (MarkAt source) low group high) :
    Rising (StartsAt source) low (selector? group).toList high := by
  rw [selector?]
  split
  · rename_i location mark hfind
    -- The mark found is both where the location is taken and where the stripped text starts.
    have hsublist : [(location, mark)].Sublist group :=
      (List.singleton_sublist.2 (List.mem_of_find?_eq_some hfind)).trans List.filter_sublist
    obtain ⟨start, stop, hlow, hstop, hat, hrest⟩ := h.sublist hsublist
    refine ⟨start, stop, hlow, hstop, ⟨⟨mark.char, hat.char, ?_⟩, hat.location⟩, hrest⟩
    rw [Text.head?_strip, List.find?_map]
    exact congrArg (Option.map _) hfind
  · exact h.low_le_high

/-- The selectors of groups of marks start at rising offsets. -/
theorem rising_filterMap_selector? {source : Text} {groups : List (List (Location × Mark))}
    {low high : Nat} (h : Rising (MarkAt source) low groups.flatten high) :
    Rising (StartsAt source) low (groups.filterMap selector?) high := by
  rw [List.filterMap_eq_flatMap_toList]
  induction groups generalizing low with
  | nil => exact h.low_le_high
  | cons group groups ih =>
    obtain ⟨middle, hgroup, hgroups⟩ := h.exists_middle
    exact (rising_selector? hgroup).append (ih hgroups)

/-- The selectors of a prelude start at rising offsets. -/
theorem rising_split (source : Text) {start stop : Nat} (h : start ≤ stop) :
    Rising (StartsAt source) start
      (split (source.slice start stop) (Location.atOffset source start)) stop := by
  have hmarks := rising_along (map_char_scan true .start (source.slice start stop))
    (List.take_prefix (stop - start) (source.drop start))
  have hstop : start + (source.slice start stop).length ≤ stop := by
    have hlength : (source.slice start stop).length ≤ stop - start := List.length_take_le _ _
    omega
  exact rising_filterMap_selector? ((hmarks.sublist (splitWhere_sublist _ _)).le_of hstop)

end SelectorList

/-- The selectors of a chunk start at rising offsets between those of its running texts. -/
theorem ChunkOf.rising_split {source : Text} {texts : List Token} {chunk : Chunk} {low high : Nat}
    (h : ChunkOf source texts chunk) (horder : InOrder Token.Spans low texts high) :
    Rising (StartsAt source) low (SelectorList.split chunk.text chunk.location) high := by
  obtain ⟨first, hfirst, last, hlast, rfl⟩ := h.reach
  obtain ⟨hlow, hstop, hhigh⟩ := Token.first_last_of_inOrder horder hfirst hlast
  exact ((SelectorList.rising_split source hstop).of_le hlow).le_of hhigh

/-- At most the selectors of a chunk and those of the rules in its block count. -/
theorem StyleRule.walk_ofChunk_sublist (chunk : Chunk) (children : List StyleRule) :
    (walk (ofChunk chunk children)).Sublist
      (SelectorList.split chunk.text chunk.location ++ walkAll children) := by
  rw [ofChunk, walk]
  split
  · split
    · exact List.sublist_append_right _ _
    · exact List.nil_sublist _
  · split
    · exact List.sublist_append_right _ _
    · exact List.Sublist.refl _

/-- The selectors that count among the rules of items start at rising offsets. -/
theorem Items.rising_walkAll {source : Text} {tokens : List Token} {rules : List StyleRule}
    {low high : Nat} (h : Items source tokens rules)
    (horder : InOrder Token.Spans low tokens high) :
    Rising (StartsAt source) low (StyleRule.walkAll rules) high := by
  induction h generalizing low high with
  | nil => exact horder.low_le_high
  | statement _ _ _ ih =>
    obtain ⟨middle, htexts, start, stop, hstart, hstop, _, hrest⟩ := horder.exists_middle
    have hlow := htexts.low_le_high
    exact (ih hrest).of_le (by omega)
  | rule hchunk _ _ _ _ _ ihbody ihrest =>
    obtain ⟨outer, htexts, start, stop, hstart, hstop, _, hblock⟩ := horder.exists_middle
    obtain ⟨inner, hbody, hbehind⟩ := hblock.exists_middle
    obtain ⟨last, htail, start', stop', hstart', hstop', _, hrest⟩ := hbehind.exists_middle
    -- Chunk, body and rest stand between the texts' start, the two braces and the upper offset.
    have hinner := htail.low_le_high
    have hchildren := (ihbody hbody).of_le (hstart.trans hstop.le)
    have hrule := ((hchunk.rising_split htexts).append hchildren).sublist
      (StyleRule.walk_ofChunk_sublist _ _)
    exact hrule.append ((ihrest hrest).of_le (by omega))

/-- A selector that starts at a smaller offset has an earlier location. -/
theorem StartsAt.before {source : Text} {i j : Nat} {a b : SelectorSource}
    (ha : StartsAt source i a) (hb : StartsAt source j b) (hij : i < j) :
    a.location.Before b.location := by
  obtain ⟨c, hc, _⟩ := hb.char
  have hj : j < source.length := (List.getElem?_eq_some_iff.1 hc).1
  rw [ha.location, hb.location]
  exact Location.atOffset_before source hij hj.le

namespace Stylesheet

/-- The selectors of a style sheet start at rising offsets of its source. -/
theorem rising_selectors {source : Text} {sheet : Stylesheet} (h : parse source = .ok sheet) :
    Rising (StartsAt source) 0 sheet.selectors source.length := by
  obtain ⟨_, items, tail, htokens, hitems, _⟩ := sentence_of_parse h
  have horder := Token.inOrder_ofSource source
  rw [htokens] at horder
  obtain ⟨middle, hitemsorder, htailorder⟩ := horder.exists_middle
  exact (hitems.rising_walkAll hitemsorder).le_of htailorder.low_le_high

/-- The locations of the selectors of a style sheet strictly increase. -/
theorem pairwise_before_selectors {source : Text} {sheet : Stylesheet}
    (h : parse source = .ok sheet) :
    sheet.selectors.Pairwise fun a b => a.location.Before b.location :=
  (rising_selectors h).pairwise StartsAt.before

/-- The selectors of a style sheet start at strictly increasing offsets of its source, where their
first characters stand, and their locations are those of the offsets; so no two of them share a
location, and each has an earlier location than those after it. -/
theorem selectors_in_source_order {source : Text} {sheet : Stylesheet}
    (h : parse source = .ok sheet) :
    (∃ offsets : List Nat, offsets.Pairwise (· < ·) ∧
      List.Forall₂ (StartsAt source) offsets sheet.selectors) ∧
    (sheet.selectors.map SelectorSource.location).Nodup ∧
    sheet.selectors.Pairwise fun a b => a.location.Before b.location := by
  have hbefore := pairwise_before_selectors h
  obtain ⟨offsets, _, hincreasing, hoffsets⟩ := (rising_selectors h).exists_starts
  refine ⟨⟨offsets, hincreasing, hoffsets.imp fun _ _ ⟨_, hat⟩ => hat⟩, ?_, hbefore⟩
  exact List.pairwise_map.2 (hbefore.imp Location.Before.ne)

/-- A selector list over lines with comments, an escaped comma and a comma in brackets, and rules
nested in a grouping at-rule. -/
theorem selectors_in_source_order_nested :
    ∃ sheet,
      parse "a,\n /*,*/ .b\\,c\x7b@media m\x7b:is(d,e),\nf\x7b\x7d\x7d\x7d".toList =
        .ok sheet ∧
      sheet.selectors = [⟨"a".toList, ⟨1, 1⟩⟩, ⟨".b\\,c".toList, ⟨2, 8⟩⟩,
        ⟨":is(d,e)".toList, ⟨2, 23⟩⟩, ⟨"f".toList, ⟨3, 1⟩⟩] ∧
      (∃ offsets : List Nat, offsets.Pairwise (· < ·) ∧
        List.Forall₂ (StartsAt
          "a,\n /*,*/ .b\\,c\x7b@media m\x7b:is(d,e),\nf\x7b\x7d\x7d\x7d".toList)
          offsets sheet.selectors) ∧
      (sheet.selectors.map SelectorSource.location).Nodup ∧
      sheet.selectors.Pairwise fun a b => a.location.Before b.location := by
  have hparse : parse "a,\n /*,*/ .b\\,c\x7b@media m\x7b:is(d,e),\nf\x7b\x7d\x7d\x7d".toList =
      .ok ⟨[
        ⟨"a,\n /*,*/ .b\\,c".toList, ⟨1, 1⟩, [⟨"a".toList, ⟨1, 1⟩⟩, ⟨".b\\,c".toList, ⟨2, 8⟩⟩], [
          ⟨"@media m".toList, ⟨2, 14⟩, [], [
            ⟨":is(d,e),\nf".toList, ⟨2, 23⟩,
              [⟨":is(d,e)".toList, ⟨2, 23⟩⟩, ⟨"f".toList, ⟨3, 1⟩⟩], []⟩]⟩]⟩]⟩ := by
    with_unfolding_all rfl
  exact ⟨_, hparse, rfl, selectors_in_source_order hparse⟩

end Stylesheet

end ClassLint
