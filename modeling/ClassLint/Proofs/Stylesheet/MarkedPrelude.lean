import ClassLint.Proofs.Scan.Comments
import ClassLint.Proofs.Stylesheet.ByteOrderMark

/-!
# The selectors of a marked prelude

A byte order mark in front of a style sheet that starts with a rule joins the first entry of its
prelude, with the white space between them. This entry becomes a selector even if it was empty, and
so does the prelude of an at-rule. The other entries and all other rules keep their selectors, one
column further on. Right in front of a selector the mark is just its first character.
-/

namespace ClassLint

open Text (byteOrderMark)

/-- The scan of a prelude reads what is passed over as comments and blanks at top level. -/
theorem Skipped.exists_scan {lead : Text} (h : Skipped lead) (rest : Text) :
    ∃ marks, scan true .start (lead ++ rest) =
        (marks ++ (scan true .start rest).1, (scan true .start rest).2) ∧
      ∀ mark ∈ marks, mark.isCode = true → Text.isBlank mark.char = true := by
  induction h with
  | nil => exact ⟨[], rfl, by simp⟩
  | @space c lead hc _ ih =>
    obtain ⟨marks, hscan, hmarks⟩ := ih
    have hblank := Text.isBlank_of_isSheetSpace hc
    obtain ⟨hbackslash, hturns⟩ := Nesting.Proper.top.turns_blank hblank
    have hslash : c ≠ '/' := by
      rintro rfl
      cases hc
    refine ⟨⟨c, .plain, .top⟩ :: marks, ?_, List.forall_mem_cons.2 ⟨fun _ => hblank, hmarks⟩⟩
    rw [List.cons_append, Place.start, scan_char hbackslash (fun _ _ hc => absurd hc hslash),
      Nesting.turns_iff.1 hturns, ← Place.start, hscan]
    rfl
  | @comment body lead hbody _ ih =>
    obtain ⟨marks, hscan, hmarks⟩ := ih
    refine ⟨commentMarks .top ('/' :: '*' :: (body ++ ['*', '/'])) ++ marks, ?_, ?_⟩
    · rw [List.cons_append, List.cons_append, List.append_assoc, List.cons_append, List.cons_append,
        Place.start, scan_comment rfl hbody, ← Place.start, hscan, List.append_assoc]
    · refine List.forall_mem_append.2 ⟨fun mark hmark hcode => ?_, hmarks⟩
      simp [Mark.isCode, part_of_mem_commentMarks hmark] at hcode

/-- The start of a prelude behind a byte order mark is one column further on. -/
theorem Location.shift_byteOrderMark (lead : Text) :
    start.advance (byteOrderMark :: lead) = (start.advance lead).shift [byteOrderMark] := by
  rw [shift_advance [byteOrderMark] (Int.le_refl _), shift_start]
  rfl

namespace SelectorList

/-- Items without a cut before others belong to the first group. -/
theorem splitWhere_append_of_forall {α : Type} {cut : α → Bool} {front : List α}
    (h : ∀ item ∈ front, cut item = false) {items group : List α} {groups : List (List α)}
    (hgroups : splitWhere cut items = group :: groups) :
    splitWhere cut (front ++ items) = (front ++ group) :: groups := by
  induction front with
  | nil => exact hgroups
  | cons item front ih =>
    obtain ⟨hitem, hfront⟩ := List.forall_mem_cons.1 h
    rw [List.cons_append, splitWhere, if_neg (by simp [hitem]), ih hfront]
    rfl

/-- A first item that is no cut starts the first group. -/
theorem head?_splitWhere {α : Type} {cut : α → Bool} {items group : List α}
    {groups : List (List α)} {item : α} (hgroups : splitWhere cut items = group :: groups)
    (hitem : item ∈ items.head?) (hcut : cut item = false) : item ∈ group.head? := by
  obtain ⟨rest, rfl⟩ := List.head?_eq_some_iff.1 hitem
  obtain ⟨inner, others, hrest⟩ := List.exists_cons_of_ne_nil (splitWhere_ne_nil cut rest)
  rw [splitWhere, if_neg (by simp [hcut]), hrest] at hgroups
  cases hgroups
  rfl

/-- A group that starts with a character which is neither blank nor in a comment is a selector that
starts there. -/
theorem selector?_cons (location : Location) (mark : Mark) (group : List (Location × Mark))
    (hcode : mark.isCode = true) (hblank : Text.isBlank mark.char = false) :
    selector? ((location, mark) :: group) =
      some ⟨mark.char :: Text.stripRight ((codeOf group).map Mark.char), location⟩ := by
  have htext : (group.filter fun entry => entry.2.isCode).map (fun entry => entry.2.char) =
      (codeOf group).map Mark.char := by
    rw [codeOf, List.filter_map, List.map_map]
    rfl
  have hfilter : ((location, mark) :: group).filter (fun entry => entry.2.isCode) =
      (location, mark) :: group.filter fun entry => entry.2.isCode :=
    List.filter_cons_of_pos hcode
  rw [selector?_eq_map, hfilter, List.find?_cons_of_pos (by simp [hblank]), Option.map_some,
    List.map_cons, htext, Text.strip_cons hblank]

/-- Locations have no part in what a group holds besides comments. -/
theorem codeOf_shift (before : Text) (group : List (Location × Mark)) :
    codeOf (group.map (Prod.map (Location.shift before) id)) = codeOf group := by
  rw [codeOf, List.map_map]
  rfl

/-- A prelude that does not start with a slash starts with a character outside comments. -/
theorem exists_scan_cons {c : Char} (hslash : c ≠ '/') (rest : Text) :
    ∃ part marks, (scan true .start (c :: rest)).1 = ⟨c, part, .top⟩ :: marks ∧
      part ≠ .comment := by
  by_cases hc : c = '\\'
  · subst hc
    cases rest with
    | nil => exact ⟨.escape, [], rfl, by decide⟩
    | cons d rest => exact ⟨.escape, _, congrArg Prod.fst scan_escape, by decide⟩
  · have hcomment : true = true → Nesting.top.quote = none → c = '/' → rest.head? ≠ some '*' :=
      fun _ _ hc => absurd hc hslash
    exact ⟨.plain, _, congrArg Prod.fst (scan_char hc hcomment), by decide⟩

/-- The marks of a prelude behind a byte order mark, white space and comments stand one column
further on. Between the mark and them stand comments and blanks. -/
theorem locatedMarks_byteOrderMark {lead : Text} (h : Skipped lead) (prelude : Text) :
    ∃ front, locatedMarks (byteOrderMark :: (lead ++ prelude)) .start =
        (.start, ⟨byteOrderMark, .plain, .top⟩) :: (front ++
          (locatedMarks prelude (Location.start.advance lead)).map
            (Prod.map (Location.shift [byteOrderMark]) id)) ∧
      front.length = lead.length ∧
      ∀ located ∈ front, located.2.isCode = true → Text.isBlank located.2.char = true := by
  obtain ⟨marks, hscan, hmarks⟩ := h.exists_scan prelude
  have hmark : scan true .start (byteOrderMark :: (lead ++ prelude)) =
      (⟨byteOrderMark, .plain, .top⟩ :: (marks ++ (scan true .start prelude).1),
        (scan true .start prelude).2) := by
    have hstep : Nesting.top.step byteOrderMark = .top := rfl
    rw [Place.start, scan_char (by decide) (fun _ _ hslash => absurd hslash (by decide)), hstep,
      ← Place.start, hscan]
  have hlength : marks.length = lead.length := by
    have hchars := congrArg List.length (congrArg Prod.fst hscan)
    simpa using hchars.symm
  refine ⟨(((Location.start.next byteOrderMark).along lead).map Prod.fst).zip marks, ?_, ?_, ?_⟩
  · rw [← locatedMarks_shift _ _ (Location.line_le_line_advance _ _),
      ← Location.shift_byteOrderMark, locatedMarks, hmark, Location.along, List.map_cons, List.zip_cons_cons, Location.along_append,
      List.map_append, List.zip_append (by simp [hlength])]
    rfl
  · simp [hlength]
  · intro located hlocated
    exact hmarks located.2 (List.of_mem_zip hlocated).2

/-- Between commas, a byte order mark, white space and comments in front of a prelude belong to its
first entry, and the entries are the same otherwise. -/
theorem exists_groups_byteOrderMark {lead : Text} (h : Skipped lead) (prelude : Text) :
    ∃ front group others, front.length = lead.length ∧
      groups prelude (Location.start.advance lead) = group :: others ∧
      groups (byteOrderMark :: (lead ++ prelude)) .start =
        ((.start, ⟨byteOrderMark, .plain, .top⟩) ::
            (front ++ group.map (Prod.map (Location.shift [byteOrderMark]) id))) ::
          others.map (List.map (Prod.map (Location.shift [byteOrderMark]) id)) := by
  obtain ⟨front, hfront, hlength, hblank⟩ := locatedMarks_byteOrderMark h prelude
  obtain ⟨group, others, hgroups⟩ := List.exists_cons_of_ne_nil
    (splitWhere_ne_nil (fun located => isComma located.2)
      (locatedMarks prelude (Location.start.advance lead)))
  have hshifted : splitWhere (fun located => isComma located.2)
      ((locatedMarks prelude (Location.start.advance lead)).map
        (Prod.map (Location.shift [byteOrderMark]) id)) =
      (group :: others).map (List.map (Prod.map (Location.shift [byteOrderMark]) id)) := by
    rw [← map_splitWhere, ← hgroups]
    rfl
  have hcomma : ∀ located ∈ front, isComma located.2 = false := by
    intro located hlocated
    by_contra hcomma
    obtain ⟨hplain, -, hchar⟩ := isComma_iff.1 (Bool.not_eq_false _ ▸ hcomma)
    have hspace := hblank located hlocated (by rw [Mark.isCode, hplain]; rfl)
    rw [hchar] at hspace
    cases hspace
  refine ⟨front, group, others, hlength, hgroups, ?_⟩
  rw [groups, hfront, ← List.cons_append, splitWhere_append_of_forall
    (List.forall_mem_cons.2 ⟨by decide, hcomma⟩) hshifted]
  rfl

/-- The selectors of groups at shifted locations are shifted. -/
theorem filterMap_selector?_shift (before : Text) (groups : List (List (Location × Mark))) :
    (groups.map (List.map (Prod.map (Location.shift before) id))).filterMap selector? =
      (groups.filterMap selector?).map (SelectorSource.shift before) := by
  rw [List.filterMap_map, List.map_filterMap]
  congr 1
  funext group
  exact selector?_shift before group

/-- A byte order mark in front of a prelude, with white space and comments between them: the first
entry is a selector then in any case, and the others are the same. -/
theorem split_byteOrderMark {lead : Text} (h : Skipped lead) (prelude : Text) :
    ∃ (first : Option SelectorSource) (marked : SelectorSource) (others : List SelectorSource),
      split prelude (Location.start.advance lead) = first.toList ++ others ∧
      split (byteOrderMark :: (lead ++ prelude)) .start =
        marked :: others.map (SelectorSource.shift [byteOrderMark]) := by
  obtain ⟨front, group, others, -, hplain, hmarked⟩ := exists_groups_byteOrderMark h prelude
  obtain ⟨marked, hfirst⟩ : ∃ marked, selector? ((.start, ⟨byteOrderMark, .plain, .top⟩) ::
      (front ++ group.map (Prod.map (Location.shift [byteOrderMark]) id))) = some marked :=
    ⟨_, selector?_cons _ _ _ rfl rfl⟩
  refine ⟨selector? group, marked, others.filterMap selector?, ?_, ?_⟩
  · change (groups _ _).filterMap selector? = _
    rw [hplain, List.filterMap_eq_flatMap_toList, List.flatMap_cons,
      ← List.filterMap_eq_flatMap_toList]
  · change (groups _ _).filterMap selector? = _
    rw [hmarked, List.filterMap_cons_some hfirst, filterMap_selector?_shift]

/-- A byte order mark right in front of a prelude that starts with a selector: the mark stands
before this selector, and the others are the same. -/
theorem split_byteOrderMark_cons {c : Char} (hblank : Text.isBlank c = false) (hcomma : c ≠ ',')
    (hslash : c ≠ '/') (rest : Text) :
    ∃ text others, split (c :: rest) .start = ⟨c :: text, .start⟩ :: others ∧
      split (byteOrderMark :: c :: rest) .start =
        ⟨byteOrderMark :: c :: text, .start⟩ ::
          others.map (SelectorSource.shift [byteOrderMark]) := by
  obtain ⟨front, group, others, hfront, hplain, hmarked⟩ :=
    exists_groups_byteOrderMark .nil (c :: rest)
  obtain ⟨part, marks, hscan, hpart⟩ := exists_scan_cons hslash rest
  have hcode : (Mark.mk c part .top).isCode = true := by simpa [Mark.isCode] using hpart
  have hhead : (Location.start, Mark.mk c part .top) ∈
      (locatedMarks (c :: rest) Location.start).head? := by
    rw [locatedMarks, hscan]
    rfl
  have hnone : isComma ⟨c, part, .top⟩ = false := by
    by_contra hnone
    exact hcomma (isComma_iff.1 (Bool.not_eq_false _ ▸ hnone)).2.2
  obtain ⟨tail, rfl⟩ := List.head?_eq_some_iff.1 (head?_splitWhere hplain hhead hnone)
  obtain rfl := List.length_eq_zero_iff.1 hfront
  refine ⟨Text.stripRight ((codeOf tail).map Mark.char), others.filterMap selector?, ?_, ?_⟩
  · change (groups _ _).filterMap selector? = _
    rw [Location.advance_nil] at hplain
    rw [hplain, List.filterMap_cons_some (selector?_cons _ _ _ hcode hblank)]
  · have hcodes : (codeOf (((Location.start, Mark.mk c part .top) :: tail).map
        (Prod.map (Location.shift [byteOrderMark]) id))).map Mark.char =
        c :: (codeOf tail).map Mark.char := by
      rw [codeOf_shift, codeOf, List.map_cons, List.filter_cons_of_pos hcode]
      rfl
    have hfirst := selector?_cons .start ⟨byteOrderMark, .plain, .top⟩
      (((Location.start, Mark.mk c part .top) :: tail).map
        (Prod.map (Location.shift [byteOrderMark]) id)) rfl rfl
    rw [hcodes, Text.stripRight_cons hblank] at hfirst
    change (groups _ _).filterMap selector? = _
    rw [List.nil_append, List.nil_append] at hmarked
    rw [hmarked, List.filterMap_cons_some hfirst, filterMap_selector?_shift]

end SelectorList

/-- The selectors that count of the rule that a chunk and the rules in its block make. -/
theorem StyleRule.walk_ofChunk {chunk : Chunk}
    (h : ∀ c ∈ chunk.text.head?, Text.isBlank c = false) (children : List StyleRule) :
    (ofChunk chunk children).walk =
      if startsAtRule chunk.text then
        if isGrouping (Text.strip chunk.text) then walkAll children else []
      else SelectorList.split chunk.text chunk.location ++ walkAll children := by
  rw [ofChunk, walk, startsAtRule_strip h]
  split <;> rfl

namespace Stylesheet

/-- The selectors of a style sheet with a byte order mark in front. If the style sheet starts with a
rule, they hold those of its prelude with the mark and all before it, also if it is an at-rule; the
others, `behind`, are the same in any case, one column further on. -/
theorem selectors_byteOrderMark {source : Text} {sheet : Stylesheet}
    (h : parse source = .ok sheet) :
    ∃ marked, parse (byteOrderMark :: source) = .ok marked ∧
      (((∀ lead chunk, ¬ Leads source lead chunk) ∧
        marked.selectors = sheet.selectors.map (SelectorSource.shift [byteOrderMark])) ∨
      ∃ lead chunk behind, Leads source lead chunk ∧
        marked.selectors = SelectorList.split (byteOrderMark :: (lead ++ chunk.text)) .start ++
          behind.map (SelectorSource.shift [byteOrderMark]) ∧
        (StyleRule.startsAtRule chunk.text = true → sheet.selectors.Sublist behind) ∧
        (StyleRule.startsAtRule chunk.text = false →
          sheet.selectors = SelectorList.split chunk.text chunk.location ++ behind)) := by
  rcases parse_byteOrderMark h with
    ⟨hleads, hparse⟩ | ⟨lead, chunk, children, rules, hleads, hrules, hparse⟩
  · refine ⟨_, hparse, Or.inl ⟨hleads, ?_⟩⟩
    rw [selectors, ← StyleRule.shiftAll_eq_map, StyleRule.walkAll_shiftAll]
    rfl
  · have hmark : ∀ c ∈ (byteOrderMark :: (lead ++ chunk.text)).head?, Text.isBlank c = false := by
      rintro c ⟨⟩
      rfl
    have hselectors : StyleRule.startsAtRule (byteOrderMark :: (lead ++ chunk.text)) ≠ true :=
      Bool.false_ne_true
    refine ⟨_, hparse, Or.inr ⟨lead, chunk, StyleRule.walkAll children ++ StyleRule.walkAll rules,
      hleads, ?_, fun hat => ?_, fun hat => ?_⟩⟩
    · rw [selectors, StyleRule.walkAll, StyleRule.walk_ofChunk hmark, if_neg hselectors,
        ← StyleRule.shiftAll_eq_map, ← StyleRule.shiftAll_eq_map, StyleRule.walkAll_shiftAll,
        StyleRule.walkAll_shiftAll, List.map_append, List.append_assoc]
    · rw [selectors, hrules, StyleRule.walkAll, StyleRule.walk_ofChunk hleads.isBlank_of_head,
        if_pos hat]
      split
      · exact List.Sublist.refl _
      · exact List.sublist_append_right _ _
    · rw [selectors, hrules, StyleRule.walkAll, StyleRule.walk_ofChunk hleads.isBlank_of_head,
        if_neg (by simp [hat]), List.append_assoc]

end Stylesheet

end ClassLint
