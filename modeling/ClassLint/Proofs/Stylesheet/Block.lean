import ClassLint.Proofs.Stylesheet.Ancestry
import ClassLint.Proofs.Stylesheet.Placement

/-!
# A style sheet in a block

A block holds what a whole style sheet may be, between braces. So a style sheet that is put into the
block of a rule is read there as it is read by itself: its rules, shifted, are the children of the
rule. Whether its selectors count is up to the prelude of the rule alone. The same holds for blocks
in blocks, to any depth.
-/

namespace ClassLint

/-- A source that ends with the chunk of a rule, just where its block may open: the rules before
it and the chunk. -/
structure Opens (source : Text) (rules : List StyleRule) (chunk : Chunk) : Prop where
  cut : (Lexeme.cut source).2 = []
  tokens : ∃ items texts, Token.ofSource source = items ++ texts ∧ Items source items rules ∧
    ChunkOf source texts chunk

namespace Stylesheet

variable {prelude inner : Text} {rule : StyleRule} {sheet whole : Stylesheet}

/-- A source in the block that a prelude opens. -/
def enclose (prelude inner : Text) : Text := prelude ++ '\x7b' :: (inner ++ ['\x7d'])

/-- The style sheet of a rule alone, with the rules of a style sheet in its block. -/
def wrap (prelude : Text) (rule : StyleRule) (sheet : Stylesheet) : Stylesheet :=
  ⟨[{ rule with children := sheet.rules.map (StyleRule.shift (prelude ++ ['\x7b'])) }]⟩

/-- A source in blocks in blocks, outermost first. Each comes with the rule that its prelude
makes. -/
def encloseAll (layers : List (Text × StyleRule)) (inner : Text) : Text :=
  layers.foldr (fun layer source => enclose layer.1 source) inner

/-- The style sheet of rules in rules, outermost first, with a style sheet in the innermost
block. -/
def wrapAll (layers : List (Text × StyleRule)) (sheet : Stylesheet) : Stylesheet :=
  layers.foldr (fun layer inside => wrap layer.1 layer.2 inside) sheet

/-- What counts of a rule alone, if `inner` is what counts in its block. -/
def passed (rule : StyleRule) (inner : List SelectorSource) : List SelectorSource :=
  if rule.isAtRule then if StyleRule.Groups rule.prelude then inner else []
  else rule.selectors ++ inner

/-- What counts of rules in rules, if `inner` is what counts in the innermost block. -/
def passedAll (layers : List (Text × StyleRule)) (inner : List SelectorSource) :
    List SelectorSource :=
  layers.foldr
    (fun layer inside => passed layer.2 (inside.map (SelectorSource.shift (layer.1 ++ ['\x7b']))))
    inner

/-- The tokens of a source in a block: those of the prelude, the opening brace, those of the source,
and the closing brace. -/
theorem ofSource_enclose (hprelude : (Lexeme.cut prelude).2 = [])
    (hinner : (Lexeme.cut inner).2 = []) :
    (Lexeme.cut (enclose prelude inner)).2 = [] ∧
      ∃ opening closing : Token, opening.kind = .opening ∧ closing.kind = .closing ∧
        Token.ofSource (enclose prelude inner) =
          Token.ofSource prelude ++ opening ::
            ((Token.ofSource inner).map (Token.shift (prelude.length + 1)) ++ [closing]) := by
  obtain ⟨hend, htokens⟩ := Token.ofSource_append_delimiter .opening hprelude (inner ++ ['\x7d'])
  obtain ⟨hinnerEnd, hinnerTokens⟩ := Token.ofSource_append_delimiter .closing hinner []
  rw [Lexeme.cut_nil] at hinnerEnd
  refine ⟨hend.trans hinnerEnd, ⟨.opening, prelude.length, prelude.length + 1⟩,
    .shift (prelude.length + 1) ⟨.closing, inner.length, inner.length + 1⟩, rfl, rfl, ?_⟩
  rw [enclose, htokens, hinnerTokens, Token.ofSource_nil, List.map_append]
  rfl

/-- A prelude that stands before an empty block is a source by itself, which ends with a chunk. -/
theorem exists_opens (h : parse (enclose prelude []) = .ok whole) :
    ∃ rules chunk, Opens prelude rules chunk := by
  obtain ⟨hend, hsentence⟩ := sentence_of_parse h
  have hbraces : ∀ c ∈ ['\x7b', '\x7d'], Lexeme.isDelimiter c = true := by
    simp [Lexeme.isDelimiter]
  have hcut : (Lexeme.cut prelude).2 = [] := Lexeme.cut_of_cut_append (by simp) hbraces hend
  have hempty : (Lexeme.cut []).2 = [] := by rw [Lexeme.cut_nil]
  obtain ⟨-, opening, closing, hopening, hclosing, htokens⟩ := ofSource_enclose hcut hempty
  obtain ⟨hsound, hcount⟩ := hsentence.sound
  rw [htokens] at hsound hcount
  have hbalanced : Token.count .opening (Token.ofSource prelude) =
      Token.count .closing (Token.ofSource prelude) := by
    simpa [hopening, hclosing] using hcount
  obtain ⟨before, hbefore⟩ :=
    exists_parse_of_sound hcut (hsound.of_beginning (List.prefix_append _ _)) hbalanced
  obtain ⟨items, texts, hsplit, hitems, htexts⟩ := (sentence_of_parse hbefore).2
  -- A running text stands before the brace, and the items do not end with one.
  obtain ⟨last, hlast, htext⟩ := hsound.opening _ _ _ rfl hopening
  have hlastText : last ∈ texts.getLast? := by
    rw [hsplit, List.getLast?_append] at hlast
    cases htextsLast : texts.getLast? with
    | none =>
      rw [htextsLast] at hlast
      exact absurd htext (hitems.getLast?_ne_text last hlast)
    | some other =>
      rw [htextsLast] at hlast
      exact hlast
  obtain ⟨first, rest, rfl⟩ :=
    List.exists_cons_of_ne_nil (List.ne_nil_of_mem (List.mem_of_mem_getLast? hlastText))
  exact ⟨before.rules, _, hcut, items, _, hsplit, hitems, htexts, first, rfl, last, hlastText, rfl⟩

/-- A style sheet in a block is read as by itself: its rules are the children of the rule. -/
theorem parse_enclose_of_opens {rules : List StyleRule} {chunk : Chunk}
    (h : Opens prelude rules chunk) (hinner : parse inner = .ok sheet) :
    parse (enclose prelude inner) = .ok ⟨rules ++
      [.ofChunk chunk (sheet.rules.map (StyleRule.shift (prelude ++ ['\x7b'])))]⟩ := by
  obtain ⟨items, texts, htokens, hitems, hchunk⟩ := h.tokens
  obtain ⟨hinnerEnd, hinnerSentence⟩ := sentence_of_parse hinner
  obtain ⟨hend, opening, closing, hopening, hclosing, hjoined⟩ := ofSource_enclose h.cut hinnerEnd
  have hinside : ∀ token ∈ items ++ texts, token.Inside prelude := by
    intro token htoken
    rw [← htokens] at htoken
    exact Token.inside_of_mem_ofSource htoken
  rw [List.forall_mem_append] at hinside
  obtain ⟨body, tail, hbodyTokens, hbody, htail⟩ :=
    hinnerSentence.place (prelude ++ ['\x7b']) ['\x7d']
  have hsource : prelude ++ ['\x7b'] ++ (inner ++ ['\x7d']) = enclose prelude inner := by
    simp [enclose]
  rw [hsource] at hbody
  have hblock := Items.rule (hchunk.append_source _ hinside.2) hopening hbody htail hclosing .nil
  refine parse_eq_ok_iff.2 ⟨hend, _, [], ?_, (hitems.append_source _ hinside.1).append hblock, ?_⟩
  · rw [hjoined, htokens, ← List.length_singleton, ← List.length_append, hbodyTokens]
    simp
  · simp

/-- A prelude opens the rule that it makes with an empty block, and no other rule stands before
it. -/
theorem opens_of_parse (h : parse (enclose prelude []) = .ok ⟨[rule]⟩) :
    ∃ chunk, Opens prelude [] chunk ∧ rule = .ofChunk chunk [] := by
  obtain ⟨rules, chunk, hopens⟩ := exists_opens h
  have hnothing : parse [] = .ok ⟨[]⟩ := by
    refine parse_eq_ok_iff.2 ⟨by rw [Lexeme.cut_nil], [], [], ?_, .nil, ?_⟩
    · rw [Token.ofSource_nil, List.append_nil]
    · simp
  have hempty := parse_enclose_of_opens hopens hnothing
  rw [h] at hempty
  have hrules : [] ++ [rule] = rules ++ [StyleRule.ofChunk chunk []] :=
    congrArg Stylesheet.rules (Except.ok.inj hempty)
  obtain ⟨rfl, hrule⟩ := List.append_inj' hrules rfl
  exact ⟨chunk, hopens, List.singleton_inj.1 hrule⟩

/-- A style sheet in the block of a rule is read as by itself, and the rule as with an empty
block. -/
theorem parse_enclose (h : parse (enclose prelude []) = .ok ⟨[rule]⟩)
    (hinner : parse inner = .ok sheet) :
    parse (enclose prelude inner) = .ok (wrap prelude rule sheet) := by
  obtain ⟨chunk, hopens, rfl⟩ := opens_of_parse h
  rw [parse_enclose_of_opens hopens hinner]
  rfl

/-- The prelude of a rule alone decides which selectors count in its block. -/
theorem selectors_wrap (prelude : Text) (rule : StyleRule) (sheet : Stylesheet) :
    (wrap prelude rule sheet).selectors =
      passed rule (sheet.selectors.map (SelectorSource.shift (prelude ++ ['\x7b']))) := by
  obtain ⟨text, location, selectors, children⟩ := rule
  rw [Stylesheet.selectors, Stylesheet.selectors, wrap, passed, StyleRule.walkAll, StyleRule.walk,
    ← StyleRule.shiftAll_eq_map, StyleRule.walkAll_shiftAll, StyleRule.walkAll, List.append_nil]
  congr 2
  exact propext StyleRule.isGrouping_iff

/-- A style sheet in blocks in blocks is read as by itself. -/
theorem parse_encloseAll {layers : List (Text × StyleRule)}
    (hlayers : ∀ layer ∈ layers, parse (enclose layer.1 []) = .ok ⟨[layer.2]⟩)
    (hinner : parse inner = .ok sheet) :
    parse (encloseAll layers inner) = .ok (wrapAll layers sheet) := by
  induction layers with
  | nil => exact hinner
  | cons layer layers ih =>
    obtain ⟨hlayer, hrest⟩ := List.forall_mem_cons.1 hlayers
    exact parse_enclose hlayer (ih hrest)

/-- The preludes around the innermost block decide together which selectors count in it. -/
theorem selectors_wrapAll (layers : List (Text × StyleRule)) (sheet : Stylesheet) :
    (wrapAll layers sheet).selectors = passedAll layers sheet.selectors := by
  induction layers with
  | nil => rfl
  | cons layer layers ih =>
    change (wrap layer.1 layer.2 (wrapAll layers sheet)).selectors = _
    rw [selectors_wrap, ih]
    rfl

/-- Blocks do not depend on what stands in them, nor it on them. A prelude that makes one rule with
an empty block makes the same rule with any style sheet in the block, and the rules of the style
sheet, shifted, are its children. If the rule is a grouping at-rule, the selectors of the style
sheet count; if it is another at-rule, none do; otherwise its own selectors come before them. All
this stays so with further blocks around, to any depth. -/
theorem blocks_context_independent (hprelude : parse (enclose prelude []) = .ok ⟨[rule]⟩)
    (hinner : parse inner = .ok sheet) :
    ∃ block : StyleRule,
      parse (enclose prelude inner) = .ok ⟨[block]⟩ ∧
      block.prelude = rule.prelude ∧ block.location = rule.location ∧
      block.selectors = rule.selectors ∧
      block.children = sheet.rules.map (StyleRule.shift (prelude ++ ['\x7b'])) ∧
      (StyleRule.Groups rule.prelude → selectors ⟨[block]⟩ =
        sheet.selectors.map (SelectorSource.shift (prelude ++ ['\x7b']))) ∧
      (rule.isAtRule = true → ¬ StyleRule.Groups rule.prelude → selectors ⟨[block]⟩ = []) ∧
      (rule.isAtRule = false → selectors ⟨[block]⟩ =
        rule.selectors ++ sheet.selectors.map (SelectorSource.shift (prelude ++ ['\x7b']))) ∧
      ∀ outer : List (Text × StyleRule),
        (∀ layer ∈ outer, parse (enclose layer.1 []) = .ok ⟨[layer.2]⟩) →
        parse (encloseAll outer (enclose prelude inner)) = .ok (wrapAll outer ⟨[block]⟩) ∧
        (wrapAll outer ⟨[block]⟩).selectors = passedAll outer (selectors ⟨[block]⟩) := by
  have hblock := parse_enclose hprelude hinner
  have hselectors := selectors_wrap prelude rule sheet
  refine ⟨_, hblock, rfl, rfl, rfl, rfl, ?_, ?_, ?_, fun outer houter => ?_⟩
  · intro hgroups
    have hat : rule.isAtRule = true := by
      obtain ⟨keyword, rest, htext, -⟩ := hgroups
      rw [StyleRule.isAtRule, htext]
      rfl
    rw [← wrap, hselectors, passed, if_pos hat, if_pos hgroups]
  · intro hat hgroups
    rw [← wrap, hselectors, passed, if_pos hat, if_neg hgroups]
  · intro hat
    rw [← wrap, hselectors, passed, if_neg (by simp [hat])]
  · exact ⟨parse_encloseAll houter hblock, selectors_wrapAll outer _⟩

/-- A prelude behind a statement and on a second line, with two rules in its block, the second of
them an at-rule that is passed over, all in a grouping at-rule in capital letters. -/
theorem blocks_context_independent_two_deep :
    ∃ block,
      parse (enclose "x;\n.a".toList "b\x7b\x7d\n@Page\x7bc\x7b\x7d\x7d".toList) = .ok ⟨[block]⟩ ∧
      selectors ⟨[block]⟩ = [⟨".a".toList, ⟨2, 1⟩⟩, ⟨"b".toList, ⟨2, 4⟩⟩] ∧
      parse (encloseAll [("@SUPPORTS (d)\n".toList, ⟨"@SUPPORTS (d)".toList, ⟨1, 1⟩, [], []⟩)]
          (enclose "x;\n.a".toList "b\x7b\x7d\n@Page\x7bc\x7b\x7d\x7d".toList)) =
        .ok ⟨[
          ⟨"@SUPPORTS (d)".toList, ⟨1, 1⟩, [], [
            ⟨".a".toList, ⟨3, 1⟩, [⟨".a".toList, ⟨3, 1⟩⟩], [
              ⟨"b".toList, ⟨3, 4⟩, [⟨"b".toList, ⟨3, 4⟩⟩], []⟩,
              ⟨"@Page".toList, ⟨4, 1⟩, [], [
                ⟨"c".toList, ⟨4, 7⟩, [⟨"c".toList, ⟨4, 7⟩⟩], []⟩]⟩]⟩]⟩]⟩ := by
  have hprelude : parse (enclose "x;\n.a".toList []) =
      .ok ⟨[⟨".a".toList, ⟨2, 1⟩, [⟨".a".toList, ⟨2, 1⟩⟩], []⟩]⟩ := by
    with_unfolding_all rfl
  have hinner : parse "b\x7b\x7d\n@Page\x7bc\x7b\x7d\x7d".toList =
      .ok ⟨[
        ⟨"b".toList, ⟨1, 1⟩, [⟨"b".toList, ⟨1, 1⟩⟩], []⟩,
        ⟨"@Page".toList, ⟨2, 1⟩, [], [⟨"c".toList, ⟨2, 7⟩, [⟨"c".toList, ⟨2, 7⟩⟩], []⟩]⟩]⟩ := by
    with_unfolding_all rfl
  have houter : parse (enclose "@SUPPORTS (d)\n".toList []) =
      .ok ⟨[⟨"@SUPPORTS (d)".toList, ⟨1, 1⟩, [], []⟩]⟩ := by
    with_unfolding_all rfl
  obtain ⟨⟨_, _, _, _⟩, hblock, rfl, rfl, rfl, rfl, -, -, hselectors, hdeep⟩ :=
    blocks_context_independent hprelude hinner
  exact ⟨_, hblock, hselectors rfl, (hdeep _ (List.forall_mem_singleton.2 houter)).1⟩

end Stylesheet

end ClassLint
