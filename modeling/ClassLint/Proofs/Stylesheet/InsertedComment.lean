import ClassLint.Proofs.Stylesheet.Commas
import Mathlib.Data.List.Forall2

/-!
# Comments between the characters of a prelude

A comment may be inserted in a prelude wherever its reading comes to outside strings and comments:
in brackets too, behind an escape, and between a slash and other text. All selectors keep their
texts; those that start before the comment keep their locations, and those that start behind it are
moved by it. The marks of the two preludes are the same outside the comment, and the comment has no
mark that counts.

In a comment that is never closed the opening marker of a second one does not count, and its body
may close the first.
-/

namespace ClassLint

namespace SelectorList

/-- Where a character of a text in two parts stands, and where it stands with another text inserted
between the parts. -/
inductive Displaced (origin : Location) (before inserted rest : Text) :
    Char → (old new : Location) → Prop where
  | before {offset : Nat} {c : Char} (hchar : before[offset]? = some c) :
      Displaced origin before inserted rest c (origin.advance (before.take offset))
        (origin.advance (before.take offset))
  | behind {offset : Nat} {c : Char} (hchar : rest[offset]? = some c) :
      Displaced origin before inserted rest c
        ((origin.advance before).advance (rest.take offset))
        ((origin.advance (before ++ inserted)).advance (rest.take offset))

/-- The same mark, displaced with its character. -/
structure DisplacedMark (origin : Location) (before inserted rest : Text)
    (old new : Location × Mark) : Prop where
  mark : new.2 = old.2
  location : Displaced origin before inserted rest old.2.char old.1 new.1

/-- The same text, displaced with its first character. -/
structure DisplacedSelector (origin : Location) (before inserted rest : Text)
    (old new : SelectorSource) : Prop where
  text : new.text = old.text
  location : ∃ c ∈ old.text.head?,
    Displaced origin before inserted rest c old.location new.location

/-- Rows that are related place by place, and cut at the same places, have related groups. -/
theorem forall₂_splitWhere {α β : Type} {R : α → β → Prop} {cut : α → Bool} {cut' : β → Bool}
    (hcut : ∀ a b, R a b → cut a = cut' b) {items : List α} {others : List β}
    (h : List.Forall₂ R items others) :
    List.Forall₂ (List.Forall₂ R) (splitWhere cut items) (splitWhere cut' others) := by
  induction h with
  | nil => exact .cons .nil .nil
  | @cons item other items others hitem _ ih =>
    rw [splitWhere, splitWhere, hcut item other hitem]
    split
    · exact .cons .nil ih
    · generalize splitWhere cut items = groups, splitWhere cut' others = groups' at ih ⊢
      cases ih with
      | nil => exact .cons (.cons hitem .nil) .nil
      | cons hgroup hgroups => exact .cons (.cons hitem hgroup) hgroups

/-- Comments may be left out before a prelude is split. -/
theorem split_eq_filterMap_code (prelude : Text) (origin : Location) :
    split prelude origin =
      (splitWhere (fun located => isComma located.2)
        ((locatedMarks prelude origin).filter fun located => located.2.isCode)).filterMap
          selector? := by
  have hcode : ∀ located : Location × Mark,
      isComma located.2 = true → located.2.isCode = true := by
    intro located hcomma
    rw [Mark.isCode, (isComma_iff.1 hcomma).1]
    rfl
  have hselector (group : List (Location × Mark)) :
      selector? (group.filter fun located => located.2.isCode) = selector? group := by
    rw [selector?_eq_map, selector?_eq_map, List.filter_filter]
    simp only [Bool.and_self]
  rw [← map_filter_splitWhere hcode, List.filterMap_map]
  exact List.filterMap_congr fun group _ => (hselector group).symm

/-- The marks of a text stand at its offsets, from wherever the text starts. -/
theorem forall₂_zip_along {R : Location × Mark → Location × Mark → Prop} {text : Text}
    {marks : List Mark} (hmarks : marks.map Mark.char = text) (origin other : Location)
    (h : ∀ offset mark, text[offset]? = some mark.char →
      R (origin.advance (text.take offset), mark) (other.advance (text.take offset), mark)) :
    List.Forall₂ R (((origin.along text).map Prod.fst).zip marks)
      (((other.along text).map Prod.fst).zip marks) := by
  induction marks generalizing text origin other with
  | nil =>
    subst hmarks
    exact .nil
  | cons mark marks ih =>
    subst hmarks
    refine .cons (h 0 mark rfl) (ih rfl _ _ fun offset inner hinner => ?_)
    exact h (offset + 1) inner hinner

/-- Rows that are related place by place have related first members of a kind, or both have none. -/
theorem rel_find? {α β : Type} {R : α → β → Prop} {p : α → Bool} {q : β → Bool}
    (hkind : ∀ a b, R a b → (p a = true ↔ q b = true)) {items : List α} {others : List β}
    (h : List.Forall₂ R items others) : Option.Rel R (items.find? p) (others.find? q) := by
  have hfilter := List.rel_filter (fun a b hab => hkind a b hab) h
  rw [← List.head?_filter, ← List.head?_filter]
  generalize items.filter p = found, others.filter q = found' at hfilter ⊢
  cases hfilter with
  | nil => exact .none
  | cons hfirst _ => exact .some hfirst

section Displaced

variable {before inserted rest body : Text} {after : Nesting}

/-- Groups of displaced marks are displaced selectors, or both are none. -/
theorem rel_selector? {origin : Location} {group other : List (Location × Mark)}
    (h : List.Forall₂ (DisplacedMark origin before inserted rest) group other) :
    Option.Rel (DisplacedSelector origin before inserted rest) (selector? group)
      (selector? other) := by
  have hcode : List.Forall₂ (DisplacedMark origin before inserted rest)
      (group.filter fun entry => entry.2.isCode) (other.filter fun entry => entry.2.isCode) :=
    List.rel_filter (fun _ _ hmark => by simp [hmark.mark]) h
  rw [selector?_eq_map, selector?_eq_map]
  generalize group.filter (fun entry => entry.2.isCode) = code,
    other.filter (fun entry => entry.2.isCode) = others at hcode ⊢
  have hchars : others.map (fun entry => entry.2.char) = code.map fun entry => entry.2.char := by
    induction hcode with
    | nil => rfl
    | cons hmark _ ih => rw [List.map_cons, List.map_cons, hmark.mark, ih]
  have hhead : (Text.strip (code.map fun entry => entry.2.char)).head? =
      (code.find? fun entry => !Text.isBlank entry.2.char).map fun entry => entry.2.char := by
    rw [Text.head?_strip, List.find?_map]
    rfl
  have hfound : Option.Rel (DisplacedMark origin before inserted rest)
      (code.find? fun entry => !Text.isBlank entry.2.char)
      (others.find? fun entry => !Text.isBlank entry.2.char) :=
    rel_find? (fun _ _ hmark => by rw [hmark.mark]) hcode
  -- The mark found is both where the location is taken and where the trimmed text starts.
  rw [hchars]
  generalize code.find? (fun entry => !Text.isBlank entry.2.char) = found,
    others.find? (fun entry => !Text.isBlank entry.2.char) = found' at hhead hfound ⊢
  cases hfound with
  | none => exact .none
  | some hmark => exact .some ⟨rfl, _, hhead, hmark.location⟩

/-- The text of a comment. -/
def commentText (body : Text) : Text := '/' :: '*' :: (body ++ ['*', '/'])

/-- The marks of a prelude in two parts, the reading of which comes to the place between them. -/
theorem locatedMarks_of_reaches (h : Nesting.top.Reaches before rest .whole after)
    (origin : Location) :
    locatedMarks (before ++ rest) origin =
      locatedMarks before origin ++ (((origin.advance before).along rest).map Prod.fst).zip
        (scan true (.code after) rest).1 := by
  rw [locatedMarks, Place.start, h.scan_append, ← Place.start, Location.along_append,
    List.map_append, List.zip_append (length_scan before origin)]
  rfl

/-- A comment has no mark that counts, and the marks behind it are those without it. -/
theorem filter_isCode_zip_comment (hquote : after.quote = none) (hbody : ¬ ['*', '/'] <:+: body)
    (origin : Location) :
    ((((origin.along (commentText body ++ rest)).map Prod.fst).zip
        (scan true (.code after) (commentText body ++ rest)).1).filter fun entry =>
          entry.2.isCode) =
      ((((origin.advance (commentText body)).along rest).map Prod.fst).zip
        (scan true (.code after) rest).1).filter fun entry => entry.2.isCode := by
  have hscan : (scan true (.code after) (commentText body ++ rest)).1 =
      commentMarks after (commentText body) ++ (scan true (.code after) rest).1 := by
    rw [commentText, List.cons_append, List.cons_append, List.append_assoc]
    exact congrArg Prod.fst (scan_comment hquote hbody)
  have hnone : (((origin.along (commentText body)).map Prod.fst).zip
      (commentMarks after (commentText body))).filter (fun entry => entry.2.isCode) = [] := by
    apply List.filter_eq_nil_iff.2
    intro located hlocated
    simp [Mark.isCode, part_of_mem_commentMarks (List.of_mem_zip hlocated).2]
  rw [hscan, Location.along_append, List.map_append, List.zip_append (by simp [commentMarks]),
    List.filter_append, hnone, List.nil_append]

/-- Without its comments, a prelude with an inserted comment has the same marks, displaced. -/
theorem forall₂_displaced (h : Nesting.top.Reaches before rest .whole after)
    (hquote : after.quote = none) (hbody : ¬ ['*', '/'] <:+: body) (origin : Location) :
    List.Forall₂ (DisplacedMark origin before (commentText body) rest)
      ((locatedMarks (before ++ rest) origin).filter fun entry => entry.2.isCode)
      ((locatedMarks (before ++ (commentText body ++ rest)) origin).filter
        fun entry => entry.2.isCode) := by
  have hinserted : Nesting.top.Reaches before (commentText body ++ rest) .whole after :=
    h.change (by simp [commentText])
  rw [locatedMarks_of_reaches h, locatedMarks_of_reaches hinserted, List.filter_append,
    List.filter_append, filter_isCode_zip_comment hquote hbody, ← List.filter_append,
    ← List.filter_append]
  refine List.rel_filter (fun _ _ hmark => by simp [hmark.mark]) (List.rel_append ?_ ?_)
  · exact forall₂_zip_along (map_char_scan ..) origin origin
      fun offset mark hchar => ⟨rfl, .before hchar⟩
  · refine forall₂_zip_along (map_char_scan ..) _ _ fun offset mark hchar => ⟨rfl, ?_⟩
    rw [← Location.advance_append origin before (commentText body)]
    exact .behind hchar

/-- A comment inserted in a prelude, at a place that its reading comes to outside strings and
comments, keeps the texts and the order of the selectors. Those that start before the place keep
their locations, and those that start behind it are moved by the comment. -/
theorem inserted_comment_transparent (h : Nesting.top.Reaches before rest .whole after)
    (hquote : after.quote = none) (hbody : ¬ ['*', '/'] <:+: body) (origin : Location) :
    List.Forall₂ (DisplacedSelector origin before (commentText body) rest)
      (split (before ++ rest) origin) (split (before ++ (commentText body ++ rest)) origin) := by
  rw [split_eq_filterMap_code, split_eq_filterMap_code]
  refine List.rel_filterMap (fun _ _ hgroup => rel_selector? hgroup) ?_
  refine forall₂_splitWhere (fun _ _ hmark => ?_) (forall₂_displaced h hquote hbody origin)
  rw [hmark.mark]

/-- A comment with a quote, a line feed, a comma and a closer, between a slash and a comma in
parentheses. -/
theorem inserted_comment_transparent_parenthesized :
    Nesting.top.Reaches "(a/".toList ",b),c".toList .whole ⟨none, [')']⟩ ∧
      ¬ ['*', '/'] <:+: "'\n,)".toList ∧
      split "(a/,b),c".toList .start = [⟨"(a/,b)".toList, ⟨1, 1⟩⟩, ⟨"c".toList, ⟨1, 8⟩⟩] ∧
      split "(a//*'\n,)*/,b),c".toList .start =
        [⟨"(a/,b)".toList, ⟨1, 1⟩⟩, ⟨"c".toList, ⟨2, 9⟩⟩] ∧
      List.Forall₂
        (DisplacedSelector .start "(a/".toList (commentText "'\n,)".toList) ",b),c".toList)
        (split "(a/,b),c".toList .start) (split "(a//*'\n,)*/,b),c".toList .start) := by
  have hreaches : Nesting.top.Reaches "(a/".toList ",b),c".toList .whole ⟨none, [')']⟩ :=
    .char (by decide) (by decide) .openParenthesis
      (.char (by decide) (by decide) (.other (by decide) (by decide))
        (.char (by decide) (by decide) (.other (by decide) (by decide)) .here))
  have hbody : ¬ ['*', '/'] <:+: "'\n,)".toList := by decide
  refine ⟨hreaches, hbody, ?_, ?_, inserted_comment_transparent hreaches rfl hbody .start⟩
  · with_unfolding_all rfl
  · with_unfolding_all rfl

/-- At the end of a comment that is never closed another comment is not transparent: a slash as its
body closes the first, and the rest becomes text. -/
theorem unclosed_comment_not_transparent :
    Nesting.top.Reaches "a/*".toList [] .comment .top ∧ ¬ ['*', '/'] <:+: ['/'] ∧
      split "a/*".toList .start = [⟨"a".toList, ⟨1, 1⟩⟩] ∧
      split ("a/*".toList ++ commentText ['/']) .start = [⟨"a*/".toList, ⟨1, 1⟩⟩] := by
  have hreaches : Nesting.top.Reaches "a/*".toList [] .comment .top :=
    .char (by decide) (by decide) (.other (by decide) (by decide)) (.unclosed rfl (by decide))
  refine ⟨hreaches, by decide, ?_, ?_⟩
  · with_unfolding_all rfl
  · with_unfolding_all rfl

end Displaced

end SelectorList

end ClassLint
