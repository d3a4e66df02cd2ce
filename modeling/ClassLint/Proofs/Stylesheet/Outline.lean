import ClassLint.Proofs.Stylesheet.Acceptance
import Mathlib.Data.List.Forall2

/-!
# The outline of a style sheet

The rules of a style sheet in the order in which they begin, each with its depth, are the opening
braces of its source in order. The depth of a rule is the number of blocks that are open at its
brace, and its prelude is the source of the running texts right before the brace. Nothing else in a
source makes a rule.
-/

namespace ClassLint

namespace StyleRule

mutual

/-- A rule at a depth, then the rules nested in it, in the order in which they begin. -/
def outline (depth : Nat) : StyleRule → List (Nat × StyleRule)
  | ⟨prelude, location, selectors, children⟩ =>
    (depth, ⟨prelude, location, selectors, children⟩) :: outlineAll (depth + 1) children

/-- Rules at a depth with the rules nested in them, in the order in which they begin. -/
def outlineAll (depth : Nat) : List StyleRule → List (Nat × StyleRule)
  | [] => []
  | rule :: rest => outline depth rule ++ outlineAll depth rest

end

end StyleRule

namespace Token

/-- For every opening brace among tokens that follow `before`, all tokens before it. -/
def beforeOpenings (before : List Token) : List Token → List (List Token)
  | [] => []
  | token :: rest =>
    if token.kind = .opening then before :: beforeOpenings (before ++ [token]) rest
    else beforeOpenings (before ++ [token]) rest

/-- The longest run of running texts at the end of tokens. -/
def textsAtEnd (tokens : List Token) : List Token := tokens.rtakeWhile fun token => token.kind = .text

/-- The opening braces of two rows of tokens follow one another. -/
theorem beforeOpenings_append (before first second : List Token) :
    beforeOpenings before (first ++ second) =
      beforeOpenings before first ++ beforeOpenings (before ++ first) second := by
  induction first generalizing before with
  | nil => simp [beforeOpenings]
  | cons token rest ih =>
    rw [List.cons_append, beforeOpenings, beforeOpenings, ih, ← List.append_cons]
    split
    · rfl
    · rfl

/-- Running texts have no opening braces. -/
theorem beforeOpenings_texts {texts : List Token} (before : List Token)
    (htexts : ∀ token ∈ texts, token.kind = .text) : beforeOpenings before texts = [] := by
  induction texts generalizing before with
  | nil => rfl
  | cons token rest ih =>
    rw [beforeOpenings, if_neg (by simp [htexts token List.mem_cons_self])]
    exact ih _ fun other hother => htexts other (List.mem_cons_of_mem _ hother)

/-- Running texts ahead of tokens only stand before their opening braces. -/
theorem beforeOpenings_texts_append {texts : List Token} (before rest : List Token)
    (htexts : ∀ token ∈ texts, token.kind = .text) :
    beforeOpenings before (texts ++ rest) = beforeOpenings (before ++ texts) rest := by
  rw [beforeOpenings_append, beforeOpenings_texts before htexts, List.nil_append]

/-- Running texts after a token of another sort, or at the start, are the run at the end. -/
theorem textsAtEnd_append {before texts : List Token}
    (hbefore : ∀ last ∈ before.getLast?, last.kind ≠ .text)
    (htexts : ∀ token ∈ texts, token.kind = .text) : textsAtEnd (before ++ texts) = texts := by
  induction texts using List.reverseRecOn with
  | nil =>
    rw [List.append_nil, textsAtEnd, List.rtakeWhile_eq_nil_iff]
    intro hne
    rw [decide_eq_true_eq]
    exact hbefore _ (List.getLast?_eq_some_getLast hne)
  | append_singleton texts token ih =>
    have htoken := htexts token (by simp)
    rw [← List.append_assoc, textsAtEnd, List.rtakeWhile_concat_pos _ _ _ (by simp [htoken])]
    rw [← textsAtEnd, ih fun other hother => htexts other (List.mem_append_left _ hother)]

end Token

/-- A rule at its depth, and the tokens before its opening brace: as many blocks are open there as
the depth says, and the running texts right before the brace are the prelude and its place. -/
structure BegunAfter (source : Text) (entry : Nat × StyleRule) (before : List Token) : Prop where
  depth : entry.1 + Token.count .closing before = Token.count .opening before
  prelude : ∃ first ∈ (Token.textsAtEnd before).head?, ∃ last ∈ (Token.textsAtEnd before).getLast?,
    entry.2.prelude = Text.strip (source.slice first.start last.stop) ∧
      entry.2.location = Location.atOffset source first.start

/-- The rule of a chunk begins after the running texts that make the chunk. -/
theorem ChunkOf.begunAfter {source : Text} {before texts : List Token} {chunk : Chunk} {depth : Nat}
    (h : ChunkOf source texts chunk) (children : List StyleRule)
    (hbefore : ∀ last ∈ before.getLast?, last.kind ≠ .text)
    (hdepth : depth + Token.count .closing before = Token.count .opening before) :
    BegunAfter source (depth, .ofChunk chunk children) (before ++ texts) where
  depth := by simpa [Token.count_eq_zero_of_texts h.texts] using hdepth
  prelude := by
    obtain ⟨first, hfirst, last, hlast, rfl⟩ := h.reach
    rw [Token.textsAtEnd_append hbefore h.texts]
    exact ⟨first, hfirst, last, hlast, rfl, rfl⟩

/-- The outline of items at a depth is their opening braces, whatever stands before them. -/
theorem Items.outline {source : Text} {tokens before : List Token} {rules : List StyleRule}
    {depth : Nat} (h : Items source tokens rules)
    (hbefore : ∀ last ∈ before.getLast?, last.kind ≠ .text)
    (hdepth : depth + Token.count .closing before = Token.count .opening before) :
    List.Forall₂ (BegunAfter source) (StyleRule.outlineAll depth rules)
      (Token.beforeOpenings before tokens) := by
  induction h generalizing before depth with
  | nil => exact .nil
  | @statement texts rest semicolon rules htexts hsemicolon hrest ih =>
    rw [Token.beforeOpenings_texts_append _ _ htexts, Token.beforeOpenings,
      if_neg (by simp [hsemicolon])]
    refine ih (by simp [hsemicolon]) ?_
    simpa [Token.count_eq_zero_of_texts htexts, hsemicolon] using hdepth
  | @rule texts body tail rest opening closing chunk children rules hchunk hopening hbody htail
      hclosing hrest ihbody ihrest =>
    rw [Token.beforeOpenings_texts_append _ _ hchunk.texts, Token.beforeOpenings, if_pos hopening,
      Token.beforeOpenings_append, Token.beforeOpenings_texts_append _ _ htail,
      Token.beforeOpenings, if_neg (by simp [hclosing])]
    refine .cons (hchunk.begunAfter children hbefore hdepth) (List.rel_append ?_ ?_)
    -- The body has one more block open before it; behind the closing brace the depth is back.
    · refine ihbody (by simp [hopening]) ?_
      simp [Token.count_eq_zero_of_texts hchunk.texts, hopening]
      omega
    · refine ihrest (by rw [List.getLast?_concat]; simp [hclosing]) ?_
      simp [Token.count_eq_zero_of_texts hchunk.texts, Token.count_eq_zero_of_texts htail,
        hopening, hclosing, hbody.count_opening]
      omega

namespace Stylesheet

/-- The rules of a style sheet are the opening braces of its source, in the same order and at the
depth of the blocks that are open there, each with the running texts before its brace. -/
theorem outline_eq_openings {source : Text} {sheet : Stylesheet} (h : parse source = .ok sheet) :
    ∃ lexemes, Cut source lexemes [] ∧
      List.Forall₂ (BegunAfter source) (StyleRule.outlineAll 0 sheet.rules)
        (Token.beforeOpenings [] (Token.ofLexemes 0 lexemes)) := by
  obtain ⟨hend, items, tail, htokens, hitems, htail⟩ := sentence_of_parse h
  refine ⟨(Lexeme.cut source).1, ?_, ?_⟩
  · simpa only [hend] using Lexeme.cut_cut source
  · rw [← Token.ofSource, htokens, Token.beforeOpenings_append,
      Token.beforeOpenings_texts _ htail, List.append_nil]
    exact hitems.outline (by simp) rfl

/-- A statement, a nested rule with a comment in its prelude, a declaration, chunks at the end of a
block and of the source, and a second top-level rule. -/
theorem outline_eq_openings_nested :
    ∃ sheet lexemes,
      parse "@i x;@media p\x7ba/*,*/b\x7bc:d;e\x7d;\x7d\nf\x7b\x7dg".toList = .ok sheet ∧
      (StyleRule.outlineAll 0 sheet.rules).map (fun entry => (entry.1, entry.2.prelude)) =
        [(0, "@media p".toList), (1, "a/*,*/b".toList), (0, "f".toList)] ∧
      Cut "@i x;@media p\x7ba/*,*/b\x7bc:d;e\x7d;\x7d\nf\x7b\x7dg".toList lexemes [] ∧
      List.Forall₂ (BegunAfter "@i x;@media p\x7ba/*,*/b\x7bc:d;e\x7d;\x7d\nf\x7b\x7dg".toList)
        (StyleRule.outlineAll 0 sheet.rules)
        (Token.beforeOpenings [] (Token.ofLexemes 0 lexemes)) := by
  have hparse : parse "@i x;@media p\x7ba/*,*/b\x7bc:d;e\x7d;\x7d\nf\x7b\x7dg".toList =
      .ok ⟨[
        ⟨"@media p".toList, ⟨1, 6⟩, [], [
          ⟨"a/*,*/b".toList, ⟨1, 15⟩, [⟨"ab".toList, ⟨1, 15⟩⟩], []⟩]⟩,
        ⟨"f".toList, ⟨2, 1⟩, [⟨"f".toList, ⟨2, 1⟩⟩], []⟩]⟩ := by
    with_unfolding_all rfl
  obtain ⟨lexemes, hcut, houtline⟩ := outline_eq_openings hparse
  exact ⟨_, lexemes, hparse, rfl, hcut, houtline⟩

end Stylesheet

end ClassLint
