import ClassLint.Proofs.Stylesheet.Terminal

/-!
# Cutting a source at a delimiter

A brace or a semicolon outside strings and comments ends whatever lexeme stands before it. A
source that is cut to its end is therefore cut in the same way in front of a delimiter, and the cut
goes on at the delimiter as it does in a source of its own. Conversely, delimiters behind a source
close neither a string nor a comment in it, so that a source which is cut to its end together with
them is cut to its end without them.
-/

namespace ClassLint

namespace Lexeme

/-- Text that goes on with a delimiter. -/
def StartsDelimited (tail : Text) : Prop := ∃ d ∈ tail.head?, isDelimiter d = true

/-- Text behind a string quote that closes no string which was open before. -/
def ClosesAlike (text tail : Text) : Prop :=
  ∀ quote rest, text = quote :: rest → Nesting.isQuote quote = true →
    closesString quote (rest ++ tail) = closesString quote rest

section Delimiters

variable {text tail after : Text} {lexeme : Lexeme} {c d quote : Char}

/-- The delimiters are the braces and the semicolon. -/
theorem isDelimiter_iff : isDelimiter d = true ↔ d = '\x7b' ∨ d = '\x7d' ∨ d = ';' := by
  simp [isDelimiter, or_assoc]

/-- Running text stops at a delimiter. -/
theorem spanText_delimiter (h : StartsDelimited tail) : (spanText none tail).1 = [] := by
  obtain ⟨d, hhead, hd⟩ := h
  obtain ⟨rest, rfl⟩ := List.head?_eq_some_iff.1 hhead
  have hslash : d ≠ '/' := by
    intro hslash
    rw [hslash] at hd
    exact absurd hd (by decide)
  simp [spanText, hslash, hd]

/-- No comment starts where a delimiter follows. -/
theorem head?_append_ne_star (h : StartsDelimited tail) (hstar : text.head? ≠ some '*') :
    (text ++ tail).head? ≠ some '*' := by
  obtain ⟨d, hhead, hd⟩ := h
  cases text with
  | nil =>
    intro heq
    rw [List.nil_append, Option.mem_def.1 hhead] at heq
    cases heq
    exact absurd hd (by decide)
  | cons c rest => exact hstar

/-- A piece of running text stays one when a delimiter stands behind what follows it. -/
theorem textPiece_append {piece : Text} (htail : StartsDelimited tail)
    (h : TextPiece piece after) : TextPiece piece (after ++ tail) := by
  cases h with
  | plain hdelimiter hslash hquote => exact .plain hdelimiter hslash hquote
  | slash hstar => exact .slash (head?_append_ne_star htail hstar)
  | string hquote hrest => exact .string hquote hrest

/-- A piece of running text stays one when some of what follows it is left out at the end. -/
theorem textPiece_of_append {piece : Text} (h : TextPiece piece (after ++ tail)) :
    TextPiece piece after := by
  cases h with
  | plain hdelimiter hslash hquote => exact .plain hdelimiter hslash hquote
  | slash hstar =>
    refine .slash fun hhead => ?_
    rw [List.head?_append, hhead] at hstar
    exact hstar rfl
  | string hquote hrest => exact .string hquote hrest

/-- Pieces of running text stay so when a delimiter stands behind what follows them. -/
theorem textPieces_append {pieces : Text} (htail : StartsDelimited tail)
    (h : TextPieces pieces after) : TextPieces pieces (after ++ tail) := by
  induction h with
  | nil => exact .nil
  | cons hpiece _ ih =>
    have hlonger := textPiece_append htail hpiece
    rw [List.append_assoc] at hlonger
    exact .cons hlonger ih

/-- Where running text stops, it stops also in front of a delimiter, unless a string closes. -/
theorem spanText_stop_append (htail : StartsDelimited tail) (hclose : ClosesAlike text tail)
    (h : (spanText none text).1 = []) : (spanText none (text ++ tail)).1 = [] := by
  by_contra hgoes
  obtain ⟨piece, rest, happend, hpiece⟩ := exists_textPiece_of_spanText hgoes
  cases text with
  | nil => exact hgoes (spanText_delimiter htail)
  | cons c text =>
    have hstops : ∀ piece after, c :: text = piece ++ after → ¬ TextPiece piece after := by
      intro piece after heq hstart
      rw [heq, spanText_textPiece hstart] at h
      exact textPiece_ne_nil hstart (List.append_eq_nil_iff.1 h).1
    cases hpiece with
    | plain hdelimiter hslash hquote =>
      obtain ⟨rfl, -⟩ := List.cons.inj happend
      exact hstops [c] text rfl (.plain hdelimiter hslash hquote)
    | slash hstar =>
      obtain ⟨rfl, hrest : text ++ tail = rest⟩ := List.cons.inj happend
      rw [← hrest] at hstar
      exact hstops ['/'] text rfl (textPiece_of_append (.slash hstar))
    | @string _ string _ hquote hrest =>
      obtain ⟨rfl, hsame : text ++ tail = string ++ rest⟩ := List.cons.inj happend
      have hclosed := closesString_of_stringRest (quote_ne_backslash hquote) hrest rest
      rw [← hsame, hclose c text rfl hquote] at hclosed
      obtain ⟨string, after, rfl, hstring⟩ := exists_stringRest_of_closesString hclosed
      exact hstops (c :: string) after rfl (.string hquote hstring)

/-- White space in front of a delimiter ends there at the latest. -/
theorem spanSpace_append (htail : StartsDelimited tail) (text : Text) :
    spanSpace (text ++ tail) = ((spanSpace text).1, (spanSpace text).2 ++ tail) := by
  induction text with
  | nil =>
    obtain ⟨d, hhead, hd⟩ := htail
    obtain ⟨rest, rfl⟩ := List.head?_eq_some_iff.1 hhead
    have hspace : Text.isSheetSpace d = false := by
      rcases isDelimiter_iff.1 hd with rfl | rfl | rfl <;> rfl
    simp [spanSpace, hspace]
  | cons c text ih =>
    simp only [spanSpace, Prod.mk.injEq] at ih
    by_cases hc : Text.isSheetSpace c = true
    · simp [spanSpace, hc, ih]
    · simp [spanSpace, hc]

/-- Running text that goes on to the end of its pieces is a lexeme. -/
theorem next?_text {piece pieces : Text} (hblank : ∀ c ∈ piece.head?, Text.isBlank c = false)
    (hpieces : TextPieces (piece ++ pieces) after) (hpiece : TextPiece piece (pieces ++ after)) :
    next? (piece ++ pieces ++ after) = some (⟨.text, piece ++ pieces⟩, after) ↔
      (spanText none after).1 = [] := by
  have hspan := spanText_textPieces hpieces
  have hne : piece ++ pieces ≠ [] :=
    List.append_ne_nil_of_left_ne_nil (textPiece_ne_nil hpiece) _
  rw [List.append_assoc, next?_textPiece hblank hpiece, ← List.append_assoc, text?_eq_some_iff,
    hspan]
  constructor
  · intro h
    simpa using h.2.1
  · intro h
    have hafter := spanText_append none after
    rw [h, List.nil_append] at hafter
    simp [h, hne, hafter]

/-- In front of a delimiter the same lexeme is taken as at the end of a text, unless a string that
is open behind it closes. -/
theorem next?_append_delimiter (htail : StartsDelimited tail) (hclose : ClosesAlike after tail)
    (h : next? text = some (lexeme, after)) :
    next? (text ++ tail) = some (lexeme, after ++ tail) := by
  have hterminal := terminal_of_next? h
  obtain ⟨hne, rfl⟩ := next?_append h
  obtain ⟨kind, chars⟩ := lexeme
  rw [List.append_assoc]
  cases hterminal with
  | @text piece pieces _ hblank hpiece hpieces =>
    have hall : TextPieces (piece ++ pieces) after := .cons hpiece hpieces
    have hstop := (next?_text hblank hall hpiece).1 h
    have hlonger := textPiece_append htail hpiece
    rw [List.append_assoc] at hlonger
    exact (next?_text hblank (textPieces_append htail hall) hlonger).2
      (spanText_stop_append htail hclose hstop)
  | semicolon => rfl
  | opening => rfl
  | closing => rfl
  | comment hbody => exact next?_comment hbody _
  | @space c chars _ hspace =>
    have hc := hspace c List.mem_cons_self
    rw [List.cons_append, next?_space hc] at h ⊢
    simp only [Option.some.injEq, Prod.mk.injEq, Lexeme.mk.injEq, List.cons.injEq, true_and] at h
    rw [← List.append_assoc, spanSpace_append htail, h.1, h.2]

/-- A text whose first lexeme is known is cut behind it. -/
theorem cut_of_next?_eq_some (h : next? text = some (lexeme, after)) :
    cut text = (lexeme :: (cut after).1, (cut after).2) :=
  cut_eq_of_cut (.step (next?_eq_some_iff.1 h) (cut_cut after))

/-- A text that starts with no lexeme is not cut. -/
theorem cut_of_next?_eq_none (h : next? text = none) : cut text = ([], text) :=
  cut_eq_of_cut (.stop (next?_eq_none_iff.1 h))

/-- Nothing is cut into nothing. -/
@[simp] theorem cut_nil : cut [] = ([], []) := cut_of_next?_eq_none rfl

/-- A text that is cut to its end starts with no open string. -/
theorem closesAlike_of_cut (h : (cut text).2 = []) (tail : Text) : ClosesAlike text tail := by
  intro quote rest htext hquote
  have hclosed : closesString quote rest = true := by
    by_contra hopen
    have hnone : next? text = none := by
      simp only [Nesting.isQuote, Bool.or_eq_true, beq_iff_eq] at hquote
      rcases hquote with rfl | rfl <;>
        simp [htext, next?, text?, spanText, isDelimiter, Nesting.isQuote, hopen, Text.isSheetSpace,
          Text.isBlank]
    rw [cut_of_next?_eq_none hnone, htext] at h
    cases h
  obtain ⟨string, after, rfl, hstring⟩ := exists_stringRest_of_closesString hclosed
  rw [hclosed, List.append_assoc]
  exact closesString_of_stringRest (quote_ne_backslash hquote) hstring _

/-- A source that is cut to its end is cut in the same way in front of a delimiter. -/
theorem cut_append (htail : StartsDelimited tail) (h : (cut text).2 = []) :
    cut (text ++ tail) = ((cut text).1 ++ (cut tail).1, (cut tail).2) := by
  fun_induction cut text with
  | case1 text hnone =>
    have hempty : text = [] := h
    rw [hempty]
    rfl
  | case2 text lexeme after hnext lexemes rest hcut ih =>
    rw [hcut] at ih
    have hend : (cut after).2 = [] := by rw [hcut]; exact h
    have hclose := closesAlike_of_cut hend tail
    rw [cut_of_next?_eq_some (next?_append_delimiter htail hclose hnext), ih h]
    rfl

/-- What ends with no delimiter and stands at the start of a text with delimiters behind it stands
at the start of the text itself. -/
theorem eq_append_of_append_eq {chars : Text} (htail : ∀ c ∈ tail, isDelimiter c = true)
    (hlast : ∃ last ∈ chars.getLast?, isDelimiter last = false)
    (h : text ++ tail = chars ++ after) :
    ∃ rest, text = chars ++ rest ∧ after = rest ++ tail := by
  rcases List.append_eq_append_iff.1 h with ⟨extra, rfl, rfl⟩ | hinside
  · obtain ⟨last, hlast, hdelimiter⟩ := hlast
    rw [List.getLast?_append] at hlast
    cases hextra : extra.getLast? with
    | none =>
      rw [List.getLast?_eq_none_iff.1 hextra]
      exact ⟨[], by simp, rfl⟩
    | some c =>
      rw [hextra] at hlast
      cases hlast
      have hmem := List.mem_append_left after (List.mem_of_mem_getLast? hextra)
      rw [htail last hmem] at hdelimiter
      cases hdelimiter
  · exact hinside

/-- A string ends with its quote. -/
theorem getLast?_stringRest {rest : Text} (h : StringRest quote rest) :
    rest.getLast? = some quote := by
  induction h with
  | close => rfl
  | plain _ _ _ _ ih => simp [List.getLast?_cons, ih]
  | escape _ ih => simp [List.getLast?_cons, ih]

/-- A quote is no delimiter. -/
theorem isDelimiter_of_isQuote (h : Nesting.isQuote quote = true) : isDelimiter quote = false := by
  simp only [Nesting.isQuote, Bool.or_eq_true, beq_iff_eq] at h
  rcases h with rfl | rfl <;> rfl

/-- Delimiters close no string. -/
theorem closesAlike_delimiters (htail : ∀ c ∈ tail, isDelimiter c = true) (text : Text) :
    ClosesAlike text tail := by
  intro quote rest _ hquote
  have hne := quote_ne_backslash hquote
  rw [Bool.eq_iff_iff]
  constructor
  · intro hclosed
    obtain ⟨string, after, happend, hstring⟩ := exists_stringRest_of_closesString hclosed
    have hlast : ∃ last ∈ string.getLast?, isDelimiter last = false :=
      ⟨quote, getLast?_stringRest hstring, isDelimiter_of_isQuote hquote⟩
    obtain ⟨inside, rfl, -⟩ := eq_append_of_append_eq htail hlast happend
    exact closesString_of_stringRest hne hstring inside
  · intro hclosed
    obtain ⟨string, after, rfl, hstring⟩ := exists_stringRest_of_closesString hclosed
    rw [List.append_assoc]
    exact closesString_of_stringRest hne hstring _

/-- A piece of running text ends with no delimiter. -/
theorem getLast?_textPiece {piece : Text} (h : TextPiece piece after) :
    ∃ last ∈ piece.getLast?, isDelimiter last = false := by
  cases h with
  | @plain c _ hdelimiter _ _ => exact ⟨c, rfl, hdelimiter⟩
  | slash _ => exact ⟨'/', rfl, rfl⟩
  | @string quote rest _ hquote hrest =>
    refine ⟨quote, ?_, isDelimiter_of_isQuote hquote⟩
    simp [List.getLast?_cons, getLast?_stringRest hrest]

/-- Where no lexeme starts in a text, none starts there in front of delimiters. -/
theorem next?_append_delimiters_eq_none (hne : text ≠ [])
    (htail : ∀ c ∈ tail, isDelimiter c = true) (h : next? text = none) :
    next? (text ++ tail) = none := by
  have hnone := next?_eq_none_iff.1 h
  obtain ⟨c, rest, rfl⟩ := List.exists_cons_of_ne_nil hne
  apply next?_eq_none_iff.2
  intro kind chars after happend hterminal
  cases hterminal with
  | @text piece pieces _ hblank hpiece _ =>
    rw [List.append_assoc] at happend
    obtain ⟨inside, hinside, hbehind⟩ :=
      eq_append_of_append_eq htail (getLast?_textPiece hpiece) happend
    rw [hbehind] at hpiece
    have hlexeme : Terminal .text (piece ++ []) inside :=
      .text hblank (textPiece_of_append hpiece) .nil
    exact hnone _ _ _ (by rw [hinside, List.append_nil]) hlexeme
  | semicolon =>
    obtain ⟨rfl, -⟩ := List.cons.inj happend
    exact hnone _ _ _ rfl .semicolon
  | opening =>
    obtain ⟨rfl, -⟩ := List.cons.inj happend
    exact hnone _ _ _ rfl .opening
  | closing =>
    obtain ⟨rfl, -⟩ := List.cons.inj happend
    exact hnone _ _ _ rfl .closing
  | @comment body _ hbody =>
    have hlast : ∃ last ∈ ('/' :: '*' :: (body ++ ['*', '/'])).getLast?, isDelimiter last = false :=
      ⟨'/', by simp [List.getLast?_cons], rfl⟩
    obtain ⟨inside, hinside, -⟩ := eq_append_of_append_eq htail hlast happend
    exact hnone _ _ _ hinside (.comment hbody)
  | @space d chars _ hspace =>
    obtain ⟨rfl, -⟩ := List.cons.inj happend
    have hc : ∀ e ∈ [c], Text.isSheetSpace e = true := by
      intro e he
      exact hspace e (List.mem_singleton.1 he ▸ List.mem_cons_self)
    exact hnone _ _ _ rfl (.space hc)

/-- A source that is cut to its end with delimiters behind it is cut to its end without them. -/
theorem cut_of_cut_append (hne : tail ≠ []) (htail : ∀ c ∈ tail, isDelimiter c = true)
    (h : (cut (text ++ tail)).2 = []) : (cut text).2 = [] := by
  have hstart : StartsDelimited tail := by
    obtain ⟨d, rest, rfl⟩ := List.exists_cons_of_ne_nil hne
    exact ⟨d, rfl, htail d List.mem_cons_self⟩
  fun_induction cut text with
  | case1 text hnone =>
    by_contra hempty
    rw [cut_of_next?_eq_none (next?_append_delimiters_eq_none hempty htail hnone)] at h
    exact hempty (List.append_eq_nil_iff.1 h).1
  | case2 text lexeme after hnext lexemes rest hcut ih =>
    rw [hcut] at ih
    have hnext' := next?_append_delimiter hstart (closesAlike_delimiters htail after) hnext
    rw [cut_of_next?_eq_some hnext'] at h
    exact ih h

end Delimiters

end Lexeme

end ClassLint
