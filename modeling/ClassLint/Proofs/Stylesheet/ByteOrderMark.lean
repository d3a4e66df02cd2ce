import ClassLint.Proofs.Stylesheet.Ancestry
import ClassLint.Proofs.Stylesheet.Placement

/-!
# A byte order mark in front of a style sheet

To the lexer a byte order mark is running text. It takes the white space behind it along, and it is
one more running text of the chunk that comes first; so it joins the prelude of the first rule,
unless a semicolon ends the chunk before. All other rules are read as without it, one column further
on.
-/

namespace ClassLint

/-- The character that a byte order mark is read as. -/
def Text.byteOrderMark : Char := '\uFEFF'

open Text (byteOrderMark)

namespace Lexeme

/-- White space is running text when it does not come first. -/
theorem textPieces_spaces {spaces : Text} (h : ∀ c ∈ spaces, Text.isSheetSpace c = true)
    (after : Text) : TextPieces spaces after := by
  induction spaces with
  | nil => exact .nil
  | cons c spaces ih =>
    obtain ⟨hc, hspaces⟩ := List.forall_mem_cons.1 h
    have hpiece : TextPiece [c] (spaces ++ after) := by
      simp only [Text.isSheetSpace, Bool.or_eq_true, beq_iff_eq] at hc
      rcases hc with (((rfl | rfl) | rfl) | rfl) | rfl <;>
        exact .plain (by decide) (by decide) (by decide)
    exact .cons hpiece (ih hspaces)

/-- A byte order mark starts a running text, which goes on with whatever can follow in one. -/
theorem next?_byteOrderMark (text : Text) :
    next? (byteOrderMark :: text) =
      some (⟨.text, byteOrderMark :: (spanText none text).1⟩, (spanText none text).2) := by
  have hpiece : TextPiece [byteOrderMark] text := .plain (by decide) (by decide) (by decide)
  have hblank : ∀ c ∈ [byteOrderMark].head?, Text.isBlank c = false := by
    rintro c ⟨⟩
    rfl
  have hnext := next?_textPiece hblank hpiece
  rw [List.singleton_append] at hnext
  rw [hnext, text?_eq_some_iff, ← List.singleton_append, spanText_textPiece hpiece]
  simp

/-- A text is the white space that it starts with, and the rest. -/
theorem exists_spaces (text : Text) :
    ∃ spaces rest, text = spaces ++ rest ∧ (∀ c ∈ spaces, Text.isSheetSpace c = true) ∧
      ∀ c ∈ rest.head?, Text.isSheetSpace c = false := by
  refine ⟨_, _, List.takeWhile_append_dropWhile.symm, fun c hc => List.mem_takeWhile_imp hc, ?_⟩
  intro c hc
  have hhead := List.head?_dropWhile_not Text.isSheetSpace text
  rw [Option.mem_def.1 hc] at hhead
  simpa using hhead

/-- A blank that is no white space of style sheets starts no lexeme. -/
theorem next?_blank {c : Char} (hblank : Text.isBlank c = true)
    (hspace : Text.isSheetSpace c = false) (rest : Text) : next? (c :: rest) = none := by
  have hne (d : Char) (hd : Text.isBlank d = false) : c ≠ d := by
    rintro rfl
    rw [hblank] at hd
    cases hd
  simp [next?, hblank, hspace, hne '/' rfl, hne ';' rfl, hne '\x7b' rfl, hne '\x7d' rfl]

end Lexeme

namespace Token

variable {text span after : Text}

/-- The distances that tokens are moved add up. -/
theorem map_shift_map_shift (first second : Nat) (tokens : List Token) :
    (tokens.map (shift second)).map (shift first) = tokens.map (shift (first + second)) := by
  rw [List.map_map]
  exact List.map_congr_left fun token _ => shift_shift first second token

/-- The tokens of a source are that of its first lexeme, if it is one, and those behind it. -/
theorem ofSource_of_next? {lexeme : Lexeme} (h : Lexeme.next? text = some (lexeme, after)) :
    (Lexeme.cut text).2 = (Lexeme.cut after).2 ∧
      ofSource text =
        (ofLexeme? 0 lexeme).toList ++ (ofSource after).map (shift lexeme.chars.length) := by
  have hbehind := ofLexemes_add lexeme.chars.length 0 (Lexeme.cut after).1
  rw [ofSource, ofSource, Lexeme.cut_of_next?_eq_some h, ofLexemes, Nat.zero_add, ← hbehind]
  exact ⟨rfl, rfl⟩

/-- White space in front of a source moves its tokens. -/
theorem ofSource_spaces {spaces : Text} (hspaces : ∀ c ∈ spaces, Text.isSheetSpace c = true)
    (htext : ∀ c ∈ text.head?, Text.isSheetSpace c = false) :
    (Lexeme.cut (spaces ++ text)).2 = (Lexeme.cut text).2 ∧
      ofSource (spaces ++ text) = (ofSource text).map (shift spaces.length) := by
  cases spaces with
  | nil => exact ⟨rfl, by rw [List.length_nil, shift_zero, List.map_id]; rfl⟩
  | cons c spaces =>
    obtain ⟨hc, hspaces⟩ := List.forall_mem_cons.1 hspaces
    have hspan : Lexeme.spanSpace (spaces ++ text) = (spaces, text) := by
      rw [Lexeme.spanSpace, List.takeWhile_append_of_pos hspaces,
        List.dropWhile_append_of_pos hspaces]
      cases text with
      | nil => simp
      | cons d text => simp [htext d rfl]
    have hnext := Lexeme.next?_space hc (spaces ++ text)
    rw [hspan] at hnext
    exact ofSource_of_next? hnext

/-- A source that is cut to its end is cut behind the running text that it starts with, if it starts
with one. -/
theorem ofSource_spanText (htext : ∀ c ∈ text.head?, Text.isSheetSpace c = false)
    (h : (Lexeme.cut text).2 = []) (hspan : Lexeme.spanText none text = (span, after)) :
    (Lexeme.cut after).2 = [] ∧
      ((span = [] ∧ ofSource text = ofSource after) ∨
        ofSource text = ⟨.text, 0, span.length⟩ :: (ofSource after).map (shift span.length)) := by
  have happend : span ++ after = text := by
    have happend := Lexeme.spanText_append none text
    rwa [hspan] at happend
  by_cases hempty : span = []
  · rw [hempty, List.nil_append] at happend
    rw [happend]
    exact ⟨h, Or.inl ⟨hempty, rfl⟩⟩
  · have hgoes : (Lexeme.spanText none text).1 ≠ [] := by rwa [hspan]
    obtain ⟨piece, rest, rfl, hpiece⟩ := Lexeme.exists_textPiece_of_spanText hgoes
    have hblank : ∀ c ∈ piece.head?, Text.isBlank c = false := by
      intro c hc
      obtain ⟨tail, rfl⟩ := List.head?_eq_some_iff.1 hc
      by_contra hblank
      have hnone := Lexeme.next?_blank (Bool.not_eq_false _ ▸ hblank) (htext c rfl) (tail ++ rest)
      rw [List.cons_append, Lexeme.cut_of_next?_eq_none hnone] at h
      cases h
    have hnext : Lexeme.next? (piece ++ rest) = some (⟨.text, span⟩, after) := by
      rw [Lexeme.next?_textPiece hblank hpiece, Lexeme.text?_eq_some_iff, hspan]
      exact ⟨hempty, rfl, rfl⟩
    obtain ⟨hcut, htokens⟩ := ofSource_of_next? hnext
    refine ⟨hcut ▸ h, Or.inr ?_⟩
    rw [htokens, ofLexeme?, Nat.zero_add]
    rfl

/-- With a byte order mark in front, a source has the same tokens one place further on, but for a
new running text at the start, which takes the place of a first one that only white space stands
before. -/
theorem ofSource_byteOrderMark (h : (Lexeme.cut text).2 = []) :
    (Lexeme.cut (byteOrderMark :: text)).2 = [] ∧
      ∃ stop others,
        ofSource (byteOrderMark :: text) = ⟨.text, 0, stop + 1⟩ :: others.map (shift 1) ∧
        (ofSource text = others ∨ ∃ start, ofSource text = ⟨.text, start, stop⟩ :: others) := by
  obtain ⟨spaces, rest, rfl, hspaces, hrest⟩ := Lexeme.exists_spaces text
  obtain ⟨hcut, htokens⟩ := ofSource_spaces hspaces hrest
  rw [hcut] at h
  obtain ⟨span, after, hspan⟩ : ∃ span after, Lexeme.spanText none rest = (span, after) :=
    ⟨_, _, rfl⟩
  obtain ⟨hafter, hsplit⟩ := ofSource_spanText hrest h hspan
  have hnext := Lexeme.next?_byteOrderMark (spaces ++ rest)
  rw [Lexeme.spanText_textPieces (Lexeme.textPieces_spaces hspaces rest), hspan] at hnext
  obtain ⟨hmarked, hmarkedTokens⟩ := ofSource_of_next? hnext
  refine ⟨hmarked.trans hafter, spaces.length + span.length,
    (ofSource after).map (shift (spaces.length + span.length)), ?_, ?_⟩
  · rw [hmarkedTokens, map_shift_map_shift, List.length_cons, List.length_append, Nat.add_comm 1,
      ofLexeme?, Nat.zero_add, List.length_cons, List.length_append]
    rfl
  · rcases hsplit with ⟨hempty, hsame⟩ | hsame
    · exact Or.inl (by rw [htokens, hsame, hempty]; rfl)
    · refine Or.inr ⟨spaces.length, ?_⟩
      rw [htokens, hsame, List.map_cons, map_shift_map_shift]
      rfl

/-- The running texts at the start of a source, with a byte order mark in front: they start with the
mark, and they stop where they did. -/
theorem exists_texts_byteOrderMark (h : (Lexeme.cut text).2 = []) {texts rest : List Token}
    (htokens : ofSource text = texts ++ rest) (htexts : ∀ token ∈ texts, token.kind = .text)
    (hrest : ∀ token ∈ rest.head?, token.kind ≠ .text) :
    ∃ first others, ofSource (byteOrderMark :: text) = first :: others ++ rest.map (shift 1) ∧
      (∀ token ∈ first :: others, token.kind = .text) ∧ first.start = 0 ∧
      ∀ last ∈ texts.getLast?, ∃ other ∈ (first :: others).getLast?,
        other.stop = last.stop + 1 := by
  have hlast (first : Token) {others : List Token} {last : Token} (hlast : last ∈ others.getLast?) :
      ∃ other ∈ (first :: others.map (shift 1)).getLast?, other.stop = last.stop + 1 := by
    refine ⟨last.shift 1, ?_, Nat.add_comm _ _⟩
    rw [List.getLast?_cons, List.getLast?_map, hlast]
    rfl
  obtain ⟨-, stop, others, hmarked, hothers | ⟨start, hothers⟩⟩ := ofSource_byteOrderMark h
  · rw [← hothers, htokens, List.map_append, ← List.cons_append] at hmarked
    exact ⟨_, _, hmarked, by simpa using htexts, rfl, fun last => hlast _⟩
  · rw [htokens] at hothers
    cases texts with
    | nil =>
      rw [List.nil_append] at hothers
      exact absurd rfl (hrest ⟨.text, start, stop⟩ (by rw [hothers]; rfl))
    | cons token texts =>
      rw [List.cons_append, List.cons.injEq] at hothers
      obtain ⟨rfl, rfl⟩ := hothers
      rw [List.map_append, ← List.cons_append] at hmarked
      refine ⟨_, _, hmarked, by simpa using htexts, rfl, fun last htoken => ?_⟩
      cases texts with
      | nil =>
        cases htoken
        exact ⟨_, rfl, rfl⟩
      | cons next texts =>
        rw [List.getLast?_cons_cons] at htoken
        exact hlast _ htoken

end Token

/-- A source starts with the prelude of a rule. `lead` is what stands before the prelude, which is
comments and white space. -/
def Leads (source lead : Text) (chunk : Chunk) : Prop :=
  ∃ texts opening rest, Token.ofSource source = texts ++ opening :: rest ∧
    ChunkOf source texts chunk ∧ opening.kind = .opening ∧
    ∃ first ∈ texts.head?, lead = source.take first.start

section Marked

variable {source : Text} {texts tokens : List Token} {rules : List StyleRule} {chunk : Chunk}

/-- The running texts at the start of a source and what stands before them make one chunk with a
byte order mark in front. -/
theorem ChunkOf.byteOrderMark {first mark : Token} {others rest : List Token}
    (h : ChunkOf source texts chunk) (htokens : Token.ofSource source = texts ++ rest)
    (hfirst : first ∈ texts.head?) (htexts : ∀ token ∈ mark :: others, token.kind = .text)
    (hstart : mark.start = 0)
    (hstop : ∀ last ∈ texts.getLast?, ∃ other ∈ (mark :: others).getLast?,
      other.stop = last.stop + 1) :
    ChunkOf (Text.byteOrderMark :: source) (mark :: others)
      ⟨Text.byteOrderMark :: (source.take first.start ++ chunk.text), .start⟩ where
  texts := htexts
  reach := by
    obtain ⟨token, htoken, last, hlast, rfl⟩ := h.reach
    obtain rfl := Option.mem_unique htoken hfirst
    obtain ⟨other, hother, hsame⟩ := hstop last hlast
    have horder := Token.inOrder_ofSource source
    rw [htokens] at horder
    obtain ⟨middle, hbefore, -⟩ := horder.exists_middle
    obtain ⟨-, hle, -⟩ := Token.first_last_of_inOrder hbefore hfirst hlast
    refine ⟨mark, rfl, other, hother, ?_⟩
    rw [hstart, hsame, Location.atOffset_zero, Text.take_append_slice source hle]
    rfl

/-- The items of a source are items with a byte order mark in front. -/
theorem Items.byteOrderMark (h : Items source tokens rules)
    (htokens : ∀ token ∈ tokens, token ∈ Token.ofSource source) :
    Items (Text.byteOrderMark :: source) (tokens.map (Token.shift 1))
      (rules.map (StyleRule.shift [Text.byteOrderMark])) := by
  have hplaced := h.place [Text.byteOrderMark] []
    fun token htoken => Token.inside_of_mem_ofSource (htokens token htoken)
  rwa [List.append_nil] at hplaced

end Marked

/-- What the lexer passes over: white space and comments. -/
inductive Skipped : Text → Prop where
  | nil : Skipped []
  | space {c : Char} {rest : Text} (hc : Text.isSheetSpace c = true) (hrest : Skipped rest) :
      Skipped (c :: rest)
  | comment {body rest : Text} (hbody : ¬ ['*', '/'] <:+: body) (hrest : Skipped rest) :
      Skipped ('/' :: '*' :: (body ++ '*' :: '/' :: rest))

/-- White space in front of what is passed over is passed over. -/
theorem Skipped.spaces_append {spaces rest : Text} (h : Skipped rest)
    (hspaces : ∀ c ∈ spaces, Text.isSheetSpace c = true) : Skipped (spaces ++ rest) := by
  induction spaces with
  | nil => exact h
  | cons c spaces ih =>
    obtain ⟨hc, hspaces⟩ := List.forall_mem_cons.1 hspaces
    exact .space hc (ih hspaces)

/-- The lexer passes over all that stands before the first token. -/
theorem skipped_take {source : Text} {first : Token} (h : first ∈ (Token.ofSource source).head?) :
    Skipped (source.take first.start) := by
  induction source using Lexeme.cut.induct generalizing first with
  | case1 source hnone =>
    rw [Token.ofSource, Lexeme.cut_of_next?_eq_none hnone] at h
    cases h
  | case2 source lexeme after hnext _ _ _ ih =>
    rw [(Token.ofSource_of_next? hnext).2] at h
    have hterminal := Lexeme.terminal_of_next? hnext
    obtain ⟨-, rfl⟩ := Lexeme.next?_append hnext
    obtain ⟨kind, chars⟩ := lexeme
    have hskip (hkind : kind.token? = none) : ∃ second ∈ (Token.ofSource after).head?,
        (chars ++ after).take first.start = chars ++ after.take second.start := by
      rw [Token.ofLexeme?, hkind, Option.map_none, Option.toList_none, List.nil_append,
        List.head?_map] at h
      obtain ⟨second, hsecond, rfl⟩ := Option.map_eq_some_iff.1 h
      exact ⟨second, hsecond, by rw [Token.shift, List.take_length_add_append]⟩
    cases hterminal with
    | text | semicolon | opening | closing =>
      cases h
      exact .nil
    | comment hbody =>
      obtain ⟨second, hsecond, htake⟩ := hskip rfl
      rw [htake]
      simpa using Skipped.comment hbody (ih hsecond)
    | space hspace =>
      obtain ⟨second, hsecond, htake⟩ := hskip rfl
      rw [htake]
      exact (ih hsecond).spaces_append hspace

namespace Stylesheet

/-- With a byte order mark in front a style sheet has the same rules, one column further on, if it
does not start with a rule. If it does, the mark and all that stands before the rule join its
prelude. -/
theorem parse_byteOrderMark {source : Text} {sheet : Stylesheet} (h : parse source = .ok sheet) :
    ((∀ lead chunk, ¬ Leads source lead chunk) ∧
      parse (byteOrderMark :: source) =
        .ok ⟨sheet.rules.map (StyleRule.shift [byteOrderMark])⟩) ∨
    ∃ lead chunk children rules, Leads source lead chunk ∧
      sheet.rules = .ofChunk chunk children :: rules ∧
      parse (byteOrderMark :: source) =
        .ok ⟨.ofChunk ⟨byteOrderMark :: (lead ++ chunk.text), .start⟩
          (children.map (StyleRule.shift [byteOrderMark])) ::
            rules.map (StyleRule.shift [byteOrderMark])⟩ := by
  obtain ⟨hcut, items, tail, htokens, hitems, htail⟩ := sentence_of_parse h
  have hmarked := (Token.ofSource_byteOrderMark hcut).1
  have htailMarked : ∀ token ∈ tail.map (Token.shift 1), token.kind = .text := by simpa using htail
  obtain ⟨rules⟩ := sheet
  cases hitems with
  | nil =>
    rw [List.nil_append] at htokens
    obtain ⟨mark, others, htexts, hkind, -⟩ :=
      Token.exists_texts_byteOrderMark hcut (htokens.trans (List.append_nil _).symm) htail (by simp)
    rw [List.map_nil, List.append_nil] at htexts
    refine Or.inl ⟨?_, parse_eq_ok_iff.2 ⟨hmarked, [], mark :: others, htexts, .nil, hkind⟩⟩
    rintro lead chunk ⟨texts, opening, rest, heq, -, hopening, -⟩
    have htext := htail opening (by rw [← htokens, heq]; simp)
    rw [hopening] at htext
    cases htext
  | @statement texts rest semicolon _ htexts hsemicolon hrest =>
    rw [List.append_assoc, List.cons_append] at htokens
    have hsort : semicolon.kind ≠ .text := by rw [hsemicolon]; decide
    have hinside : ∀ token ∈ rest, token ∈ Token.ofSource source := by
      intro token htoken
      simp [htokens, htoken]
    obtain ⟨mark, others, hnew, hkind, -⟩ := Token.exists_texts_byteOrderMark hcut htokens htexts
      (by simpa using hsort)
    have hitems : Items _ (mark :: others ++ semicolon.shift 1 :: rest.map (Token.shift 1)) _ :=
      .statement hkind hsemicolon (hrest.byteOrderMark hinside)
    refine Or.inl ⟨?_, parse_eq_ok_iff.2 ⟨hmarked, _, _, ?_, hitems, htailMarked⟩⟩
    · rintro lead chunk ⟨other, opening, after, heq, hchunk, hopening, -⟩
      rw [htokens] at heq
      obtain ⟨-, rfl, -⟩ := texts_append_cons_inj htexts hchunk.texts hsort
        (by rw [hopening]; decide) heq
      rw [hsemicolon] at hopening
      cases hopening
    · rw [hnew]
      simp
  | @rule texts body inner rest opening closing chunk children rules hchunk hopening hbody hinner
      hclosing hrest =>
    simp only [List.append_assoc, List.cons_append] at htokens
    have hinside : (∀ token ∈ body, token ∈ Token.ofSource source) ∧
        ∀ token ∈ rest, token ∈ Token.ofSource source := by
      constructor <;> intro token htoken <;> simp [htokens, htoken]
    obtain ⟨mark, others, hnew, hkind, hstart, hstop⟩ :=
      Token.exists_texts_byteOrderMark hcut htokens hchunk.texts (by simp [hopening])
    obtain ⟨first, hfirst, -⟩ := hchunk.reach
    have hitems : Items _ (mark :: others ++ opening.shift 1 :: (body.map (Token.shift 1) ++
        (inner.map (Token.shift 1) ++ closing.shift 1 :: rest.map (Token.shift 1)))) _ :=
      .rule (hchunk.byteOrderMark htokens hfirst hkind hstart hstop) hopening
        (hbody.byteOrderMark hinside.1) (by simpa using hinner) hclosing
        (hrest.byteOrderMark hinside.2)
    refine Or.inr ⟨_, chunk, children, rules, ⟨texts, opening, _, htokens, hchunk, hopening, first,
      hfirst, rfl⟩, rfl, parse_eq_ok_iff.2 ⟨hmarked, _, _, ?_, hitems, htailMarked⟩⟩
    rw [hnew]
    simp

end Stylesheet

namespace Leads

variable {source lead other : Text} {chunk chunk' : Chunk}

/-- A source starts with the prelude of one rule only. -/
theorem unique (h : Leads source lead chunk) (hother : Leads source other chunk') :
    lead = other ∧ chunk = chunk' := by
  obtain ⟨texts, opening, rest, htokens, hchunk, hopening, first, hfirst, rfl⟩ := h
  obtain ⟨texts', opening', rest', htokens', hchunk', hopening', first', hfirst', rfl⟩ := hother
  rw [htokens] at htokens'
  obtain ⟨rfl, -, -⟩ := texts_append_cons_inj hchunk.texts hchunk'.texts (by rw [hopening]; decide)
    (by rw [hopening']; decide) htokens'
  exact ⟨by rw [Option.mem_unique hfirst hfirst'], hchunk.unique hchunk'⟩

/-- What stands before the prelude is passed over. -/
theorem skipped (h : Leads source lead chunk) : Skipped lead := by
  obtain ⟨texts, opening, rest, htokens, -, -, first, hfirst, rfl⟩ := h
  apply skipped_take
  rw [htokens, List.head?_append, hfirst]
  rfl

/-- The prelude stands right behind what is passed over. -/
theorem location_eq (h : Leads source lead chunk) :
    chunk.location = Location.start.advance lead := by
  obtain ⟨texts, opening, rest, -, hchunk, -, first, hfirst, rfl⟩ := h
  obtain ⟨token, htoken, last, -, rfl⟩ := hchunk.reach
  rw [Location.advance_take, Option.mem_unique htoken hfirst]

/-- The prelude starts with no blank. -/
theorem isBlank_of_head (h : Leads source lead chunk) :
    ∀ c ∈ chunk.text.head?, Text.isBlank c = false := by
  obtain ⟨texts, opening, rest, htokens, hchunk, -⟩ := h
  refine hchunk.isBlank_of_head fun token htoken => Token.isBlank_of_mem_ofSource source token ?_
  rw [htokens]
  exact List.mem_append_left _ htoken

end Leads

end ClassLint
