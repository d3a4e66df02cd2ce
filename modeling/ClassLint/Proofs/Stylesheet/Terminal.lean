import ClassLint.Stylesheet.Lexeme
import Mathlib.Data.List.Infix
import Mathlib.Data.List.TakeWhile

/-!
# The terminals of the style sheet grammar

Each sort of lexeme is described here as a language of its own, without a scan: what a match may
hold, and what may follow it. A comment ends at the first marker that closes it; of all other
sorts the longest match counts. The lexer takes exactly these matches, it finds one wherever there
is one, and so the cut of a source is the one that the terminals prescribe.
-/

namespace ClassLint

/-- The rest of a string after its opening quote, up to and with the closing one. It stays on its
line, except that a backslash takes any character along. -/
inductive StringRest (quote : Char) : Text → Prop where
  | close : StringRest quote [quote]
  | plain {c : Char} {rest : Text} (hquote : c ≠ quote) (hescape : c ≠ '\\') (hline : c ≠ '\n')
      (hrest : StringRest quote rest) : StringRest quote (c :: rest)
  | escape {c : Char} {rest : Text} (hrest : StringRest quote rest) :
      StringRest quote ('\\' :: c :: rest)

/-- A piece of running text that stands before `after`: a character with no role of its own, a
slash that opens no comment, or a whole string. -/
inductive TextPiece : (piece after : Text) → Prop where
  | plain {c : Char} {after : Text} (hdelimiter : Lexeme.isDelimiter c = false) (hslash : c ≠ '/')
      (hquote : Nesting.isQuote c = false) : TextPiece [c] after
  | slash {after : Text} (hstar : after.head? ≠ some '*') : TextPiece ['/'] after
  | string {quote : Char} {rest after : Text} (hquote : Nesting.isQuote quote = true)
      (hrest : StringRest quote rest) : TextPiece (quote :: rest) after

/-- Pieces of running text one after the other, before `after`. -/
inductive TextPieces : (pieces after : Text) → Prop where
  | nil {after : Text} : TextPieces [] after
  | cons {piece pieces after : Text} (hpiece : TextPiece piece (pieces ++ after))
      (hpieces : TextPieces pieces after) : TextPieces (piece ++ pieces) after

/-- A match of a terminal: its sort, its characters and what follows them. -/
inductive Terminal : (kind : LexemeKind) → (chars after : Text) → Prop where
  | text {piece pieces after : Text} (hblank : ∀ c ∈ piece.head?, Text.isBlank c = false)
      (hpiece : TextPiece piece (pieces ++ after)) (hpieces : TextPieces pieces after) :
      Terminal .text (piece ++ pieces) after
  | semicolon {after : Text} : Terminal .semicolon [';'] after
  | opening {after : Text} : Terminal .opening ['\x7b'] after
  | closing {after : Text} : Terminal .closing ['\x7d'] after
  | comment {body after : Text} (hbody : ¬ ['*', '/'] <:+: body) :
      Terminal .comment ('/' :: '*' :: (body ++ ['*', '/'])) after
  | space {c : Char} {chars after : Text} (hspace : ∀ d ∈ c :: chars, Text.isSheetSpace d = true) :
      Terminal .space (c :: chars) after

/-- A lexeme at the start of a text: a match of a terminal that no match is longer than. -/
structure Longest (text : Text) (lexeme : Lexeme) (after : Text) : Prop where
  append : text = lexeme.chars ++ after
  terminal : Terminal lexeme.kind lexeme.chars after
  longest : ∀ kind chars rest, text = chars ++ rest → Terminal kind chars rest →
    chars.length ≤ lexeme.chars.length

/-- The cut of a text by the terminals: longest matches one after the other, up to the place
where no terminal matches. -/
inductive Cut : (text : Text) → (lexemes : List Lexeme) → (rest : Text) → Prop where
  | stop {rest : Text} (hnone : ∀ kind chars after, rest = chars ++ after →
      ¬ Terminal kind chars after) : Cut rest [] rest
  | step {text after rest : Text} {lexeme : Lexeme} {lexemes : List Lexeme}
      (hlongest : Longest text lexeme after) (hcut : Cut after lexemes rest) :
      Cut text (lexeme :: lexemes) rest

/-- White space of style sheets is blank. -/
theorem Text.isBlank_of_isSheetSpace {c : Char} (h : isSheetSpace c = true) : isBlank c = true := by
  simp only [isSheetSpace, Bool.or_eq_true, beq_iff_eq] at h
  rcases h with (((rfl | rfl) | rfl) | rfl) | rfl <;> rfl

namespace Lexeme

/-- A quote is not a backslash, so that it never opens an escape. -/
theorem quote_ne_backslash {quote : Char} (h : Nesting.isQuote quote = true) : quote ≠ '\\' := by
  rintro rfl
  exact absurd h (by decide)

/-- A string that is closed on its line has a closing part. -/
theorem exists_stringRest_of_closesString {quote : Char} {text : Text}
    (h : closesString quote text = true) :
    ∃ rest after, text = rest ++ after ∧ StringRest quote rest := by
  fun_induction closesString quote text with
  | case1 => simp at h
  | case2 c tail ih =>
    obtain ⟨rest, after, rfl, hrest⟩ := ih h
    exact ⟨'\\' :: c :: rest, after, rfl, hrest.escape⟩
  | case3 tail => exact ⟨[quote], tail, rfl, .close⟩
  | case4 c tail _ hquote hstop => simp at h
  | case5 c tail _ hquote hstop ih =>
    obtain ⟨rest, after, rfl, hrest⟩ := ih h
    simp only [Bool.or_eq_true, decide_eq_true_eq, not_or] at hstop
    exact ⟨c :: rest, after, rfl, hrest.plain hquote hstop.2 hstop.1⟩

/-- What closes a string makes it closed, whatever follows. -/
theorem closesString_of_stringRest {quote : Char} {rest : Text} (hquote : quote ≠ '\\')
    (h : StringRest quote rest) (after : Text) : closesString quote (rest ++ after) = true := by
  induction h with
  | close => simp [closesString, hquote]
  | plain hne hescape hline _ ih => simp [closesString, hne, hescape, hline, ih]
  | escape _ ih => simpa [closesString] using ih

/-- Inside a string, running text goes on to the closing quote and leaves the string there. -/
theorem spanText_stringRest {quote : Char} {rest : Text} (hquote : quote ≠ '\\')
    (h : StringRest quote rest) (after : Text) :
    spanText (some quote) (rest ++ after) =
      (rest ++ (spanText none after).1, (spanText none after).2) := by
  induction h with
  | close => simp [spanText, pushFirst, hquote]
  | plain hne hescape hline _ ih => simp [spanText, pushFirst, hne, hescape, ih]
  | escape _ ih => simp [spanText, pushFirst, ih]

/-- Running text takes a whole piece and goes on behind it. -/
theorem spanText_textPiece {piece after : Text} (h : TextPiece piece after) :
    spanText none (piece ++ after) =
      (piece ++ (spanText none after).1, (spanText none after).2) := by
  cases h with
  | plain hdelimiter hslash hquote => simp [spanText, pushFirst, hdelimiter, hslash, hquote]
  | slash hstar =>
    cases after with
    | nil => rfl
    | cons c rest =>
      have hc : c ≠ '*' := by simpa using hstar
      simp [spanText, pushFirst, hc, isDelimiter, Nesting.isQuote]
  | string hquote hrest =>
    have hne := quote_ne_backslash hquote
    have hclosed := closesString_of_stringRest hne hrest after
    have hspan := spanText_stringRest hne hrest after
    simp only [Nesting.isQuote, Bool.or_eq_true, beq_iff_eq] at hquote
    rcases hquote with rfl | rfl <;>
      simp_all [spanText, pushFirst, isDelimiter, Nesting.isQuote]

/-- Running text takes all its pieces and goes on behind them. -/
theorem spanText_textPieces {pieces after : Text} (h : TextPieces pieces after) :
    spanText none (pieces ++ after) =
      (pieces ++ (spanText none after).1, (spanText none after).2) := by
  induction h with
  | nil => rfl
  | cons hpiece _ ih => rw [List.append_assoc, spanText_textPiece hpiece, ih, List.append_assoc]

/-- Where running text does not stop at once, it starts with a piece. -/
theorem exists_textPiece_of_spanText {text : Text} (h : (spanText none text).1 ≠ []) :
    ∃ piece after, text = piece ++ after ∧ TextPiece piece after := by
  unfold spanText at h
  split at h
  · exact absurd rfl h
  · exact absurd rfl h
  · rename_i c rest hcomment _
    split at h
    · exact absurd rfl h
    rename_i hdelimiter
    split at h
    · rename_i hquote
      split at h
      · rename_i hclosed
        obtain ⟨tail, after, rfl, htail⟩ := exists_stringRest_of_closesString hclosed
        exact ⟨c :: tail, after, rfl, .string hquote htail⟩
      · exact absurd rfl h
    · rename_i hquote
      by_cases hslash : c = '/'
      · refine ⟨['/'], rest, by rw [hslash]; rfl, .slash fun hstar => ?_⟩
        obtain ⟨after, rfl⟩ := List.head?_eq_some_iff.1 hstar
        exact hcomment after hslash rfl
      · exact ⟨[c], rest, rfl, .plain (by simpa using hdelimiter) hslash (by simpa using hquote)⟩
  · contradiction
  · contradiction

/-- A piece of running text is not empty. -/
theorem textPiece_ne_nil {piece after : Text} (h : TextPiece piece after) : piece ≠ [] := by
  cases h <;> simp

/-- Running text is made of pieces. -/
theorem textPieces_spanText (text : Text) :
    TextPieces (spanText none text).1 (spanText none text).2 := by
  by_cases h : (spanText none text).1 = []
  · rw [h]
    exact .nil
  · obtain ⟨piece, after, rfl, hpiece⟩ := exists_textPiece_of_spanText h
    have hpositive := List.length_pos_iff.2 (textPiece_ne_nil hpiece)
    rw [spanText_textPiece hpiece]
    refine .cons ?_ (textPieces_spanText after)
    rwa [spanText_append]
termination_by text.length
decreasing_by
  subst_vars
  rw [List.length_append]
  omega

/-- The rest of a comment is a body without a closing marker, then that marker. -/
theorem spanComment?_eq_some_iff {text chars after : Text} :
    spanComment? text = some (chars, after) ↔
      ∃ body, chars = body ++ ['*', '/'] ∧ text = chars ++ after ∧ ¬ ['*', '/'] <:+: body := by
  fun_induction spanComment? text generalizing chars with
  | case1 =>
    constructor
    · intro h
      simp at h
    · rintro ⟨body, rfl, htext, _⟩
      simp at htext
  | case2 rest =>
    simp only [Option.some.injEq, Prod.mk.injEq]
    constructor
    · rintro ⟨rfl, rfl⟩
      exact ⟨[], rfl, rfl, by simp⟩
    · rintro ⟨body, rfl, htext, hbody⟩
      cases body with
      | nil => exact ⟨rfl, by simpa using htext⟩
      | cons c body =>
        cases body with
        | nil => simp at htext
        | cons d body =>
          simp only [List.cons_append, List.cons.injEq] at htext
          obtain ⟨rfl, rfl, _⟩ := htext
          exact absurd ⟨[], body, rfl⟩ hbody
  | case3 c rest hclose ih =>
    constructor
    · intro h
      obtain ⟨⟨chars', after'⟩, hrest, heq⟩ := Option.map_eq_some_iff.1 h
      simp only [pushFirst, Prod.mk.injEq] at heq
      obtain ⟨rfl, rfl⟩ := heq
      obtain ⟨body, rfl, rfl, hbody⟩ := ih.1 hrest
      refine ⟨c :: body, rfl, rfl, fun hinfix => ?_⟩
      rcases List.infix_cons_iff.1 hinfix with hstart | hinside
      · obtain ⟨tail, heq⟩ := hstart
        cases heq
        exact hclose _ rfl rfl
      · exact hbody hinside
    · rintro ⟨body, rfl, htext, hbody⟩
      cases body with
      | nil =>
        simp only [List.nil_append, List.cons_append, List.cons.injEq] at htext
        exact (hclose after htext.1 htext.2).elim
      | cons d body =>
        simp only [List.cons_append, List.cons.injEq] at htext
        obtain ⟨rfl, hrest⟩ := htext
        have hinside : ¬ ['*', '/'] <:+: body := fun h => hbody (List.infix_cons h)
        rw [ih.2 ⟨body, rfl, hrest, hinside⟩]
        rfl

/-- Running text that is not empty is a lexeme. -/
theorem text?_eq_some_iff {text after : Text} {lexeme : Lexeme} :
    text? text = some (lexeme, after) ↔ (spanText none text).1 ≠ [] ∧
      lexeme = ⟨.text, (spanText none text).1⟩ ∧ after = (spanText none text).2 := by
  unfold text?
  split
  · rename_i hspan
    simp [hspan]
  · rename_i hspan
    simp [hspan, eq_comm]

/-- The first piece of running text decides where its lexeme starts: not at a comment, a
delimiter or white space. -/
theorem next?_textPiece {piece after : Text} (hblank : ∀ c ∈ piece.head?, Text.isBlank c = false)
    (h : TextPiece piece after) : next? (piece ++ after) = text? (piece ++ after) := by
  have hspace {c : Char} (hc : Text.isBlank c = false) : Text.isSheetSpace c = false := by
    by_contra hsheet
    rw [Text.isBlank_of_isSheetSpace (Bool.not_eq_false _ ▸ hsheet)] at hc
    cases hc
  cases h with
  | @plain c after hdelimiter hslash hquote =>
    have hc := hblank c rfl
    simp only [isDelimiter, Bool.or_eq_false_iff, beq_eq_false_iff_ne] at hdelimiter
    obtain ⟨⟨hopening, hclosing⟩, hsemicolon⟩ := hdelimiter
    simp [next?, hslash, hopening, hclosing, hsemicolon, hc, hspace hc]
  | slash hstar =>
    cases after with
    | nil => rfl
    | cons c rest =>
      have hc : c ≠ '*' := by simpa using hstar
      simp [next?, hc, Text.isSheetSpace, Text.isBlank]
  | @string quote rest after hquote hrest =>
    simp only [Nesting.isQuote, Bool.or_eq_true, beq_iff_eq] at hquote
    rcases hquote with rfl | rfl <;> simp [next?, Text.isSheetSpace, Text.isBlank]

/-- White space at the start of a text is a lexeme. -/
theorem next?_space {c : Char} (hc : Text.isSheetSpace c = true) (rest : Text) :
    next? (c :: rest) = some (⟨.space, c :: (spanSpace rest).1⟩, (spanSpace rest).2) := by
  simp only [Text.isSheetSpace, Bool.or_eq_true, beq_iff_eq] at hc
  rcases hc with (((rfl | rfl) | rfl) | rfl) | rfl <;> rfl

/-- A comment at the start of a text is a lexeme, whatever follows. -/
theorem next?_comment {body : Text} (hbody : ¬ ['*', '/'] <:+: body) (after : Text) :
    next? ('/' :: '*' :: (body ++ ['*', '/']) ++ after) =
      some (⟨.comment, '/' :: '*' :: (body ++ ['*', '/'])⟩, after) := by
  have hspan : spanComment? (body ++ ['*', '/'] ++ after) = some (body ++ ['*', '/'], after) :=
    spanComment?_eq_some_iff.2 ⟨body, rfl, rfl, hbody⟩
  simp only [List.cons_append, next?, comment?, hspan]
  rfl

/-- Wherever a terminal matches, the lexer takes a lexeme of its sort that is not shorter. -/
theorem exists_next?_of_terminal {kind : LexemeKind} {chars after : Text}
    (h : Terminal kind chars after) :
    ∃ lexeme rest, next? (chars ++ after) = some (lexeme, rest) ∧ lexeme.kind = kind ∧
      chars.length ≤ lexeme.chars.length := by
  cases h with
  | @text piece pieces after hblank hpiece hpieces =>
    have hspan := spanText_textPieces (.cons hpiece hpieces)
    have hne : (spanText none (piece ++ pieces ++ after)).1 ≠ [] := by
      rw [hspan, List.append_assoc]
      exact List.append_ne_nil_of_left_ne_nil (textPiece_ne_nil hpiece) _
    rw [List.append_assoc, next?_textPiece hblank hpiece, ← List.append_assoc]
    refine ⟨_, _, text?_eq_some_iff.2 ⟨hne, rfl, rfl⟩, rfl, ?_⟩
    rw [hspan]
    exact (List.prefix_append _ _).length_le
  | semicolon => exact ⟨_, _, rfl, rfl, le_rfl⟩
  | opening => exact ⟨_, _, rfl, rfl, le_rfl⟩
  | closing => exact ⟨_, _, rfl, rfl, le_rfl⟩
  | comment hbody => exact ⟨_, _, next?_comment hbody _, rfl, le_rfl⟩
  | @space c chars after hspace =>
    refine ⟨_, _, next?_space (hspace c List.mem_cons_self) (chars ++ after), rfl, ?_⟩
    have hchars : (chars ++ after).takeWhile Text.isSheetSpace =
        chars ++ after.takeWhile Text.isSheetSpace :=
      List.takeWhile_append_of_pos fun d hd => hspace d (List.mem_cons_of_mem c hd)
    rw [spanSpace, hchars]
    simp

/-- What the lexer takes is a match of the terminal of its sort. -/
theorem terminal_of_next? {text after : Text} {lexeme : Lexeme}
    (h : next? text = some (lexeme, after)) : Terminal lexeme.kind lexeme.chars after := by
  unfold next? at h
  split at h
  · simp at h
  · rename_i rest
    obtain ⟨⟨chars, after'⟩, hspan, heq⟩ := Option.map_eq_some_iff.1 h
    obtain ⟨body, rfl, -, hbody⟩ := spanComment?_eq_some_iff.1 hspan
    cases heq
    exact .comment hbody
  · rename_i c rest _
    split at h
    · rename_i hc
      cases h
      exact hc ▸ .semicolon
    split at h
    · rename_i hc
      cases h
      exact hc ▸ .opening
    split at h
    · rename_i hc
      cases h
      exact hc ▸ .closing
    split at h
    · rename_i hspace
      cases h
      refine .space fun d hd => ?_
      rcases List.mem_cons.1 hd with rfl | hd
      · exact hspace
      · exact List.mem_takeWhile_imp hd
    split at h
    · simp at h
    · rename_i hblank
      obtain ⟨hne, rfl, rfl⟩ := text?_eq_some_iff.1 h
      obtain ⟨piece, after, happend, hpiece⟩ := exists_textPiece_of_spanText hne
      have hhead : ∀ d ∈ piece.head?, Text.isBlank d = false := by
        intro d hd
        obtain ⟨tail, rfl⟩ := List.head?_eq_some_iff.1 hd
        obtain ⟨rfl, -⟩ := List.cons.inj happend
        simpa using hblank
      rw [happend, spanText_textPiece hpiece]
      refine .text hhead ?_ (textPieces_spanText after)
      rwa [spanText_append]

/-- The lexer takes the longest match of all terminals. -/
theorem next?_eq_some_iff {text after : Text} {lexeme : Lexeme} :
    next? text = some (lexeme, after) ↔ Longest text lexeme after := by
  constructor
  · intro h
    refine ⟨(next?_append h).2.symm, terminal_of_next? h, ?_⟩
    rintro kind chars rest rfl hterminal
    obtain ⟨lexeme', rest', hnext, -, hlength⟩ := exists_next?_of_terminal hterminal
    rw [h] at hnext
    cases hnext
    exact hlength
  · rintro ⟨rfl, hterminal, hlongest⟩
    obtain ⟨lexeme', rest', hnext, hkind, hlength⟩ := exists_next?_of_terminal hterminal
    have happend := (next?_append hnext).2
    have hshorter := hlongest _ _ _ happend.symm (terminal_of_next? hnext)
    obtain ⟨hchars, hrest⟩ := List.append_inj happend (Nat.le_antisymm hshorter hlength)
    rw [hnext, hrest]
    obtain ⟨kind', chars'⟩ := lexeme'
    cases hkind
    cases hchars
    rfl

/-- The lexer stops exactly where no terminal matches. -/
theorem next?_eq_none_iff {text : Text} :
    next? text = none ↔ ∀ kind chars after, text = chars ++ after → ¬ Terminal kind chars after := by
  constructor
  · rintro h kind chars after rfl hterminal
    obtain ⟨lexeme, rest, hnext, -⟩ := exists_next?_of_terminal hterminal
    rw [h] at hnext
    cases hnext
  · intro h
    cases hnext : next? text with
    | none => rfl
    | some found =>
      obtain ⟨lexeme, after⟩ := found
      exact absurd (terminal_of_next? hnext) (h _ _ _ (next?_append hnext).2.symm)

/-- The lexer computes the cut by the terminals. -/
theorem cut_cut (text : Text) : Cut text (cut text).1 (cut text).2 := by
  fun_induction cut text with
  | case1 text h => exact .stop (next?_eq_none_iff.1 h)
  | case2 text lexeme after h lexemes rest heq ih =>
    rw [heq] at ih
    exact .step (next?_eq_some_iff.1 h) ih

/-- No lexeme of a text is empty. -/
theorem ne_nil_of_mem_cut (text : Text) : ∀ lexeme ∈ (cut text).1, lexeme.chars ≠ [] := by
  fun_induction cut text with
  | case1 => simp
  | case2 text lexeme after h lexemes rest heq ih =>
    rw [heq] at ih
    exact List.forall_mem_cons.2 ⟨(next?_append h).1, ih⟩

/-- A source has one cut only. -/
theorem cut_eq_of_cut {text rest : Text} {lexemes : List Lexeme} (h : Cut text lexemes rest) :
    cut text = (lexemes, rest) := by
  induction h with
  | stop hnone =>
    unfold cut
    split
    · rfl
    · rename_i hnext
      rw [next?_eq_none_iff.2 hnone] at hnext
      cases hnext
  | step hlongest _ ih =>
    unfold cut
    split
    · rename_i hnext
      rw [next?_eq_some_iff.2 hlongest] at hnext
      cases hnext
    · rename_i hnext
      rw [next?_eq_some_iff.2 hlongest] at hnext
      cases hnext
      rw [ih]

end Lexeme

end ClassLint
