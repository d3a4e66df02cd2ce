import ClassLint.Proofs.Scan.Nesting
import ClassLint.Proofs.Stylesheet.Terminal
import ClassLint.Stylesheet.Parse
import Mathlib.Data.List.Chain

/-!
# Escapes in front of a block

A prelude is read twice: the lexer takes it as running text, and the scan of selectors reads the
text once more. The scan knows escapes everywhere, the lexer only inside strings. Both agree on a
prelude whose escapes outside strings hide nothing that the lexer would act on: no brace, no
semicolon, no quote, and no slash in front of a star. Such a prelude with an empty block behind it
is a style sheet of one rule, which has the selectors of the prelude.
-/

namespace ClassLint

/-- Marks of a text that running text may hold as far as its plain characters go: there is no
comment, a string stays on its line, and a delimiter outside a string is part of an escape. -/
structure Writable (marks : List Mark) : Prop where
  uncommented : ∀ mark ∈ marks, mark.part ≠ .comment
  lines : ∀ mark ∈ marks, mark.part = .plain → mark.nesting.quote ≠ none → mark.char ≠ '\n'
  delimiters : ∀ mark ∈ marks, mark.part = .plain → mark.nesting.quote = none →
    Lexeme.isDelimiter mark.char = false

/-- Marks whose escapes outside strings mean nothing to a reader that knows no escapes there. -/
structure Harmless (marks : List Mark) : Prop where
  escapes : ∀ mark ∈ marks, mark.part = .escape → mark.nesting.quote = none →
    Lexeme.isDelimiter mark.char = false ∧ Nesting.isQuote mark.char = false
  slashes : marks.IsChain fun mark next => mark.part = .escape → mark.nesting.quote = none →
    mark.char = '/' → next.char ≠ '*'

/-- A prelude that can stand before a block, by the scan of selectors: it starts with a character
of its own, no at-rule, and leaves neither a string nor an escape open. -/
structure IsPrelude (prelude : Text) : Prop where
  start : ∃ c ∈ prelude.head?, Text.isBlank c = false ∧ c ≠ '@'
  ended : ∃ after, Nesting.top.LeadsTo prelude after ∧ after.quote = none
  writable : Writable (scan true .start prelude).1

/-- What is left of running text before `after`, inside the string of a quote or outside all. -/
inductive TextRest (after : Text) : Option Char → Text → Prop where
  | outside {text : Text} (htext : TextPieces text after) : TextRest after none text
  | inside {quote : Char} {string rest : Text} (hstring : StringRest quote string)
      (hrest : TextPieces rest after) : TextRest after (some quote) (string ++ rest)

/-- Marks that can be written still can without the first of them. -/
theorem Writable.tail {mark : Mark} {marks : List Mark} (h : Writable (mark :: marks)) :
    Writable marks where
  uncommented := (List.forall_mem_cons.1 h.uncommented).2
  lines := (List.forall_mem_cons.1 h.lines).2
  delimiters := (List.forall_mem_cons.1 h.delimiters).2

/-- Harmless marks stay harmless without the first of them. -/
theorem Harmless.tail {mark : Mark} {marks : List Mark} (h : Harmless (mark :: marks)) :
    Harmless marks where
  escapes := (List.forall_mem_cons.1 h.escapes).2
  slashes := h.slashes.tail

section Marks

variable {nesting : Nesting} {text rest after : Text} {c : Char}

/-- Outside a string a slash without a comment has no star behind it. -/
theorem Writable.head?_ne_star (h : Writable (scan true (.code nesting) (c :: rest)).1)
    (hquote : nesting.quote = none) (hslash : c = '/') : rest.head? ≠ some '*' := by
  intro hstar
  subst hslash
  obtain ⟨tail, rfl⟩ := List.head?_eq_some_iff.1 hstar
  rw [scan, if_pos (by simp [hquote])] at h
  exact h.uncommented _ List.mem_cons_self rfl

/-- Outside a string an escaped slash that does no harm has no star behind it. -/
theorem Harmless.head?_ne_star {marks : List Mark}
    (h : Harmless (⟨c, .escape, nesting⟩ :: marks)) (hquote : nesting.quote = none)
    (hslash : c = '/') : (marks.map Mark.char).head? ≠ some '*' := by
  intro hstar
  cases marks with
  | nil => cases hstar
  | cons next marks =>
    have hnext : next.char = '*' := by simpa using hstar
    exact (List.isChain_cons_cons.1 h.slashes).1 rfl hquote hslash hnext

/-- A character without a role of its own goes in front of running text. -/
theorem TextPieces.cons_char (hdelimiter : Lexeme.isDelimiter c = false)
    (hquote : Nesting.isQuote c = false) (hslash : c = '/' → rest.head? ≠ some '*')
    (hafter : after.head? ≠ some '*') (hrest : TextPieces rest after) :
    TextPieces (c :: rest) after := by
  by_cases hc : c = '/'
  · subst hc
    have hstar : (rest ++ after).head? ≠ some '*' := by
      cases rest with
      | nil => exact hafter
      | cons d tail => exact hslash rfl
    exact .cons (.slash hstar) hrest
  · exact .cons (.plain hdelimiter hc hquote) hrest

/-- Outside strings a quote opens its string, and nothing else opens one. -/
theorem Nesting.quote_step_of_none (h : nesting.quote = none) :
    (nesting.step c).quote = if isQuote c then some c else none := by
  simp only [step, h]
  repeat' split
  all_goals simp [*]

/-- Inside a string its quote closes it, and nothing else does. -/
theorem Nesting.quote_step_of_some {quote : Char} (h : nesting.quote = some quote) :
    (nesting.step c).quote = if c = quote then none else some quote := by
  simp only [step, h]
  split
  · rfl
  · exact h

/-- What the scan reads as a text that ends outside all strings is running text, wherever the
escapes outside strings do no harm. -/
theorem textRest_of_leadsTo {last : Nesting} (h : nesting.LeadsTo text last)
    (hlast : last.quote = none) (hafter : after.head? ≠ some '*')
    (hwritable : Writable (scan true (.code nesting) text).1)
    (hharmless : Harmless (scan true (.code nesting) text).1) :
    TextRest after nesting.quote text := by
  induction h with
  | nil => exact hlast ▸ .outside .nil
  | @escape nesting last c rest _ ih =>
    rw [scan_escape] at hwritable hharmless
    have hrest := ih hlast hwritable.tail.tail hharmless.tail.tail
    cases hquote : nesting.quote with
    | some quote =>
      rw [hquote] at hrest
      cases hrest with
      | inside hstring hpieces => exact .inside hstring.escape hpieces
    | none =>
      -- The lexer takes the backslash and the character after it one by one.
      rw [hquote] at hrest
      cases hrest with
      | outside hpieces =>
        obtain ⟨hdelimiter, hc⟩ := hharmless.tail.escapes _ List.mem_cons_self rfl hquote
        have hslash : c = '/' → rest.head? ≠ some '*' := by
          have hstar := hharmless.tail.head?_ne_star hquote
          rwa [map_char_scan] at hstar
        have hescaped := hpieces.cons_char hdelimiter hc hslash hafter
        exact .outside (hescaped.cons_char rfl rfl (by simp) hafter)
  | @char nesting next last c rest hc hturns _ ih =>
    have hslash := hwritable.head?_ne_star
    obtain rfl := Nesting.turns_iff.1 hturns
    rw [scan_char hc fun _ => hslash] at hwritable hharmless
    have hrest := ih hlast hwritable.tail hharmless.tail
    cases hquote : nesting.quote with
    | some quote =>
      rw [Nesting.quote_step_of_some hquote] at hrest
      have hline : c ≠ '\n' := hwritable.lines _ List.mem_cons_self rfl (by simp [hquote])
      by_cases hclose : c = quote
      · rw [if_pos hclose] at hrest
        cases hrest with
        | outside hpieces => exact hclose ▸ .inside .close hpieces
      · rw [if_neg hclose] at hrest
        cases hrest with
        | inside hstring hpieces => exact .inside (hstring.plain hclose hc hline) hpieces
    | none =>
      rw [Nesting.quote_step_of_none hquote] at hrest
      have hdelimiter := hwritable.delimiters _ List.mem_cons_self rfl hquote
      by_cases hopen : Nesting.isQuote c = true
      · rw [if_pos hopen] at hrest
        cases hrest with
        | @inside _ string rest hstring hpieces =>
          exact .outside (.cons (.string hopen hstring) hpieces)
      · rw [if_neg hopen] at hrest
        cases hrest with
        | outside hpieces =>
          have hplain : Nesting.isQuote c = false := by simpa using hopen
          exact .outside (hpieces.cons_char hdelimiter hplain (hslash hquote) hafter)

end Marks

namespace Lexeme

/-- Pieces of running text in front of an opening brace make one lexeme. -/
theorem next?_textPieces {pieces rest : Text} (hstart : ∃ c ∈ pieces.head?, Text.isBlank c = false)
    (h : TextPieces pieces ('\x7b' :: rest)) :
    next? (pieces ++ '\x7b' :: rest) = some (⟨.text, pieces⟩, '\x7b' :: rest) := by
  have hspan : spanText none (pieces ++ '\x7b' :: rest) = (pieces, '\x7b' :: rest) := by
    rw [spanText_textPieces h]
    simp [spanText, isDelimiter]
  obtain ⟨first, hfirst, hblank⟩ := hstart
  cases h with
  | nil => cases hfirst
  | @cons piece pieces _ hpiece hpieces =>
    have hhead : ∀ c ∈ piece.head?, Text.isBlank c = false := by
      intro c hc
      obtain ⟨tail, rfl⟩ := List.head?_eq_some_iff.1 hc
      cases hfirst
      exact hblank
    rw [List.append_assoc] at hspan ⊢
    rw [next?_textPiece hhead hpiece, text?_eq_some_iff, hspan]
    exact ⟨List.append_ne_nil_of_left_ne_nil (textPiece_ne_nil hpiece) _, rfl, rfl⟩

end Lexeme

/-- Running text with an empty block behind it is a style sheet of one rule. -/
theorem Stylesheet.parse_emptyBlock {prelude : Text}
    (hstart : ∃ c ∈ prelude.head?, Text.isBlank c = false)
    (h : TextPieces prelude "\x7b\x7d".toList) :
    parse (prelude ++ "\x7b\x7d".toList) = .ok ⟨[.ofChunk ⟨prelude, .start⟩ []]⟩ := by
  have hcut : Lexeme.cut (prelude ++ "\x7b\x7d".toList) =
      ([⟨.text, prelude⟩, ⟨.opening, ['\x7b']⟩, ⟨.closing, ['\x7d']⟩], []) := by
    have htext := Lexeme.next?_eq_some_iff.1 (Lexeme.next?_textPieces hstart h)
    have hopening : Longest ['\x7b', '\x7d'] ⟨.opening, ['\x7b']⟩ ['\x7d'] :=
      Lexeme.next?_eq_some_iff.1 rfl
    have hclosing : Longest ['\x7d'] ⟨.closing, ['\x7d']⟩ [] := Lexeme.next?_eq_some_iff.1 rfl
    have hnone := Lexeme.next?_eq_none_iff.1 (rfl : Lexeme.next? [] = none)
    exact Lexeme.cut_eq_of_cut (.step htext (.step hopening (.step hclosing (.stop hnone))))
  rw [parse, hcut]
  rfl

/-- The lexer and the scan of selectors agree on escapes that do no harm: with an empty block
behind it, a prelude is a style sheet of one rule, which has the selectors of the prelude. -/
theorem Stylesheet.parse_prelude_emptyBlock {prelude : Text} (h : IsPrelude prelude)
    (hharmless : Harmless (scan true .start prelude).1) :
    ∃ rule, parse (prelude ++ "\x7b\x7d".toList) = .ok ⟨[rule]⟩ ∧
      rule.selectors = SelectorList.split prelude .start := by
  obtain ⟨first, hfirst, hblank, hat⟩ := h.start
  obtain ⟨last, hleads, hlast⟩ := h.ended
  have hrest : TextRest "\x7b\x7d".toList Nesting.top.quote prelude :=
    textRest_of_leadsTo hleads hlast (by decide) h.writable hharmless
  cases hrest with
  | outside hpieces =>
    refine ⟨_, parse_emptyBlock ⟨first, hfirst, hblank⟩ hpieces, ?_⟩
    obtain ⟨tail, rfl⟩ := List.head?_eq_some_iff.1 hfirst
    have hrule : StyleRule.startsAtRule (first :: tail) = false := by
      simp [StyleRule.startsAtRule, hat]
    simp [StyleRule.ofChunk, hrule]

/-- Two selectors with an escaped slash, delimiters in a string and an escaped comma. -/
theorem Stylesheet.parse_prelude_emptyBlock_two_selectors :
    ∃ rule, parse (".w\\/2[x=\"\x7b;\"],a\\,b".toList ++ "\x7b\x7d".toList) = .ok ⟨[rule]⟩ ∧
      rule.selectors =
        [⟨".w\\/2[x=\"\x7b;\"]".toList, ⟨1, 1⟩⟩, ⟨"a\\,b".toList, ⟨1, 15⟩⟩] := by
  have hprelude : IsPrelude ".w\\/2[x=\"\x7b;\"],a\\,b".toList :=
    { start := ⟨'.', rfl, by decide⟩
      ended := ⟨_, Nesting.leadsTo_of_getLast?_ne (by decide), by decide⟩
      writable := ⟨by decide, by decide, by decide⟩ }
  obtain ⟨rule, hparse, hselectors⟩ := parse_prelude_emptyBlock hprelude ⟨by decide, by decide⟩
  exact ⟨rule, hparse, hselectors.trans (by with_unfolding_all rfl)⟩

/-- An escaped brace opens a block to the lexer, which then misses the end of that block. -/
theorem Stylesheet.parse_escaped_brace :
    IsPrelude ".a\\\x7bb".toList ∧
      ¬ ∃ rule, parse (".a\\\x7bb".toList ++ "\x7b\x7d".toList) = .ok ⟨[rule]⟩ ∧
        rule.selectors = SelectorList.split ".a\\\x7bb".toList .start := by
  have hprelude : IsPrelude ".a\\\x7bb".toList :=
    { start := ⟨'.', rfl, by decide⟩
      ended := ⟨_, Nesting.leadsTo_of_getLast?_ne (by decide), by decide⟩
      writable := ⟨by decide, by decide, by decide⟩ }
  refine ⟨hprelude, ?_⟩
  rintro ⟨rule, hparse, -⟩
  have hend : parse (".a\\\x7bb".toList ++ "\x7b\x7d".toList) =
      .error ⟨.endOfSource, ⟨1, 7⟩⟩ := by
    with_unfolding_all rfl
  rw [hend] at hparse
  cases hparse

end ClassLint
