import ClassLint.Proofs.Selector.Trim

/-!
# Which selectors of a style sheet count

A rule is seen here with the rules around it, and all rules of a style sheet in the order in which
they begin. The selectors that count are those of the rules with selectors around which every
at-rule is a grouping one. A rule has the selectors of its trimmed prelude, although they were read
from the chunk before it was trimmed: a running text never starts with a blank, so that trimming
takes away blanks at the end only.
-/

namespace ClassLint

namespace StyleRule

/-- A prelude that announces a grouping at-rule: behind `@` stands one of the grouping keywords, in
any letter case, and no further character of a name. -/
def Groups (prelude : Text) : Prop :=
  ∃ keyword rest, prelude = '@' :: (keyword ++ rest) ∧ (∀ c ∈ keyword, isNameChar c = true) ∧
    (∀ c ∈ rest.head?, isNameChar c = false) ∧ Text.lower keyword ∈ groupingKeywords

mutual

/-- A rule with the rules around it, innermost first, then the rules nested in it with theirs, in
the order in which they begin. -/
def lineage (around : List StyleRule) : StyleRule → List (List StyleRule × StyleRule)
  | ⟨prelude, location, selectors, children⟩ =>
    (around, ⟨prelude, location, selectors, children⟩) ::
      lineageAll (⟨prelude, location, selectors, children⟩ :: around) children

/-- Rules with the rules around them, each followed by the rules nested in it. -/
def lineageAll (around : List StyleRule) : List StyleRule → List (List StyleRule × StyleRule)
  | [] => []
  | rule :: rest => lineage around rule ++ lineageAll around rest

end

/-- The at-rules among the rules around a place are all grouping ones. -/
def Open (around : List StyleRule) : Prop :=
  ∀ rule ∈ around, rule.isAtRule = true → Groups rule.prelude

/-- A rule with selectors that count: it is no at-rule, and it stands in no at-rule but grouping
ones. -/
structure Counts (entry : List StyleRule × StyleRule) : Prop where
  qualified : entry.2.isAtRule = false
  around : Open entry.1

/-- The keyword of an at-rule is the longest name behind `@`, in small letters. -/
theorem keywordOf?_eq_some_iff {prelude word : Text} :
    keywordOf? prelude = some word ↔
      ∃ keyword rest, prelude = '@' :: (keyword ++ rest) ∧ (∀ c ∈ keyword, isNameChar c = true) ∧
        (∀ c ∈ rest.head?, isNameChar c = false) ∧ keyword ≠ [] ∧ Text.lower keyword = word := by
  constructor
  · intro h
    unfold keywordOf? at h
    split at h
    · rename_i text
      split at h
      · cases h
      · rename_i hne
        refine ⟨text.takeWhile isNameChar, text.dropWhile isNameChar, ?_, ?_, ?_, hne, ?_⟩
        · rw [List.takeWhile_append_dropWhile]
        · exact fun c hc => List.mem_takeWhile_imp hc
        · intro c hc
          have hhead := List.head?_dropWhile_not isNameChar text
          rw [Option.mem_def.1 hc] at hhead
          simpa using hhead
        · exact Option.some.inj h
    · cases h
  · intro h
    obtain ⟨keyword, rest, rfl, hkeyword, hrest, hne, rfl⟩ := h
    have htake : (keyword ++ rest).takeWhile isNameChar = keyword := by
      rw [List.takeWhile_append_of_pos hkeyword]
      cases rest with
      | nil => simp
      | cons c rest => simp [hrest c rfl]
    obtain ⟨c, tail, rfl⟩ := List.exists_cons_of_ne_nil hne
    rw [keywordOf?, htake]

/-- Looking at the keyword tells the grouping at-rules. -/
theorem isGrouping_iff {prelude : Text} : isGrouping prelude = true ↔ Groups prelude := by
  constructor
  · intro h
    unfold isGrouping at h
    split at h
    · rename_i hword
      obtain ⟨keyword, rest, hprelude, hkeyword, hrest, -, rfl⟩ := keywordOf?_eq_some_iff.1 hword
      exact ⟨keyword, rest, hprelude, hkeyword, hrest, List.contains_iff_mem.1 h⟩
    · cases h
  · intro h
    obtain ⟨keyword, rest, hprelude, hkeyword, hrest, hgrouping⟩ := h
    have hne : keyword ≠ [] := by
      intro hempty
      rw [hempty] at hgrouping
      exact absurd hgrouping (by decide)
    have hword := keywordOf?_eq_some_iff.2 ⟨keyword, rest, hprelude, hkeyword, hrest, hne, rfl⟩
    rw [isGrouping, hword]
    exact List.contains_iff_mem.2 hgrouping

instance (prelude : Text) : Decidable (Groups prelude) := decidable_of_iff _ isGrouping_iff

instance (around : List StyleRule) : Decidable (Open around) :=
  inferInstanceAs (Decidable (∀ rule ∈ around, rule.isAtRule = true → Groups rule.prelude))

instance (entry : List StyleRule × StyleRule) : Decidable (Counts entry) :=
  decidable_of_iff (entry.2.isAtRule = false ∧ Open entry.1)
    ⟨fun h => ⟨h.1, h.2⟩, fun h => ⟨h.qualified, h.around⟩⟩

/-- One more rule around a place leaves it open exactly if it is no at-rule but a grouping one. -/
theorem open_cons {rule : StyleRule} {around : List StyleRule} :
    Open (rule :: around) ↔ (rule.isAtRule = true → Groups rule.prelude) ∧ Open around := by
  rw [Open, List.forall_mem_cons]
  rfl

mutual

/-- The rules around a rule are around all rules nested in it. -/
theorem suffix_of_mem_lineage (around : List StyleRule) (rule : StyleRule) :
    ∀ entry ∈ lineage around rule, around <:+ entry.1 := by
  obtain ⟨prelude, location, selectors, children⟩ := rule
  intro entry hentry
  rcases List.mem_cons.1 hentry with rfl | hchild
  · exact List.suffix_rfl
  · exact (List.suffix_cons _ _).trans (suffix_of_mem_lineageAll _ children entry hchild)

/-- The rules around a row of rules are around all rules nested in them. -/
theorem suffix_of_mem_lineageAll (around rules : List StyleRule) :
    ∀ entry ∈ lineageAll around rules, around <:+ entry.1 := by
  intro entry hentry
  match rules with
  | [] => simp [lineageAll] at hentry
  | rule :: rest =>
    rcases List.mem_append.1 hentry with hfirst | hrest
    · exact suffix_of_mem_lineage around rule entry hfirst
    · exact suffix_of_mem_lineageAll around rest entry hrest

end

/-- Nothing counts in a row of rules around which some at-rule is no grouping one. -/
theorem filter_lineageAll_of_not_open {around : List StyleRule} (h : ¬ Open around)
    (rules : List StyleRule) :
    ((lineageAll around rules).filter fun entry => Counts entry) = [] := by
  apply List.filter_eq_nil_iff.2
  intro entry hentry hcounts
  apply h
  intro rule hrule
  exact (of_decide_eq_true hcounts).around rule ((suffix_of_mem_lineageAll _ _ _ hentry).mem hrule)

mutual

/-- The selectors of a rule that count, where nothing around it keeps them from counting. -/
theorem walk_eq_filter_lineage {around : List StyleRule} (h : Open around) (rule : StyleRule) :
    walk rule =
      ((lineage around rule).filter fun entry => Counts entry).flatMap fun entry =>
        entry.2.selectors := by
  obtain ⟨prelude, location, selectors, children⟩ := rule
  rw [walk, lineage]
  by_cases hat : startsAtRule prelude = true
  · have hself : ¬ Counts (around, ⟨prelude, location, selectors, children⟩) := by
      intro hcounts
      have hqualified : startsAtRule prelude = false := hcounts.qualified
      rw [hat] at hqualified
      cases hqualified
    rw [if_pos hat, List.filter_cons_of_neg (by simpa using hself)]
    by_cases hgrouping : isGrouping prelude = true
    · have hopen : Open (⟨prelude, location, selectors, children⟩ :: around) :=
        open_cons.2 ⟨fun _ => isGrouping_iff.1 hgrouping, h⟩
      rw [if_pos hgrouping]
      exact walkAll_eq_filter_lineageAll hopen children
    · have hclosed : ¬ Open (⟨prelude, location, selectors, children⟩ :: around) := by
        intro hopen
        exact hgrouping (isGrouping_iff.2 ((open_cons.1 hopen).1 hat))
      rw [if_neg hgrouping, filter_lineageAll_of_not_open hclosed]
      rfl
  · have hself : Counts (around, ⟨prelude, location, selectors, children⟩) :=
      ⟨by simpa [isAtRule] using hat, h⟩
    have hopen : Open (⟨prelude, location, selectors, children⟩ :: around) :=
      open_cons.2 ⟨fun hrule => absurd hrule hat, h⟩
    rw [if_neg hat, List.filter_cons_of_pos (by simpa using hself), List.flatMap_cons,
      walkAll_eq_filter_lineageAll hopen children]

/-- The selectors of rules that count, where nothing around them keeps them from counting. -/
theorem walkAll_eq_filter_lineageAll {around : List StyleRule} (h : Open around)
    (rules : List StyleRule) :
    walkAll rules =
      ((lineageAll around rules).filter fun entry => Counts entry).flatMap fun entry =>
        entry.2.selectors := by
  match rules with
  | [] => rfl
  | rule :: rest =>
    rw [walkAll, lineageAll, List.filter_append, List.flatMap_append,
      walk_eq_filter_lineage h rule, walkAll_eq_filter_lineageAll h rest]

end

/-- A rule with the selectors of its prelude, and none if it is an at-rule. -/
def ReadsPrelude (rule : StyleRule) : Prop :=
  rule.selectors = if rule.isAtRule then [] else SelectorList.split rule.prelude rule.location

/-- Whether a prelude announces an at-rule is seen at its first character. -/
theorem startsAtRule_iff {prelude : Text} :
    startsAtRule prelude = true ↔ prelude.head? = some '@' := by
  unfold startsAtRule
  split
  · simp
  · rename_i hother
    refine iff_of_false (by simp) fun hhead => ?_
    obtain ⟨rest, rfl⟩ := List.head?_eq_some_iff.1 hhead
    exact hother rest rfl

/-- Trimming a prelude that starts with no blank does not change its sort. -/
theorem startsAtRule_strip {prelude : Text} (h : ∀ c ∈ prelude.head?, Text.isBlank c = false) :
    startsAtRule (Text.strip prelude) = startsAtRule prelude := by
  have hhead : (Text.strip prelude).head? = prelude.head? := by
    rw [Text.head?_strip]
    cases prelude with
    | nil => rfl
    | cons c rest => simp [h c rfl]
  rw [Bool.eq_iff_iff, startsAtRule_iff, startsAtRule_iff, hhead]

/-- Trimming a chunk that starts with no blank changes neither its sort nor its selectors. -/
theorem readsPrelude_ofChunk {chunk : Chunk} (h : ∀ c ∈ chunk.text.head?, Text.isBlank c = false)
    (children : List StyleRule) : ReadsPrelude (ofChunk chunk children) := by
  rw [ReadsPrelude, ofChunk, isAtRule]
  dsimp only
  rw [startsAtRule_strip h, SelectorList.split_strip h]

end StyleRule

/-- A lexeme of running text starts with no blank. -/
theorem Lexeme.isBlank_of_mem_cut (source : Text) : ∀ lexeme ∈ (cut source).1, lexeme.kind = .text →
    ∀ c ∈ lexeme.chars.head?, Text.isBlank c = false := by
  fun_induction cut source with
  | case1 => simp
  | case2 source lexeme after hnext lexemes rest hcut ih =>
    rw [hcut] at ih
    refine List.forall_mem_cons.2 ⟨fun hkind => ?_, ih⟩
    have hterminal := terminal_of_next? hnext
    obtain ⟨kind, chars⟩ := lexeme
    cases hkind
    cases hterminal with
    | @text piece pieces _ hblank hpiece _ =>
      obtain ⟨c, tail, rfl⟩ := List.exists_cons_of_ne_nil (textPiece_ne_nil hpiece)
      exact hblank

/-- A token of running text starts with the first character of its lexeme. -/
theorem Token.isBlank_of_mem_ofLexemes {source before rest : Text} {lexemes : List Lexeme}
    (hsource : source = before ++ (lexemes.flatMap Lexeme.chars ++ rest))
    (hne : ∀ lexeme ∈ lexemes, lexeme.chars ≠ [])
    (hblank : ∀ lexeme ∈ lexemes, lexeme.kind = .text →
      ∀ c ∈ lexeme.chars.head?, Text.isBlank c = false) :
    ∀ token ∈ ofLexemes before.length lexemes, token.kind = .text →
      ∀ c ∈ source[token.start]?, Text.isBlank c = false := by
  induction lexemes generalizing before with
  | nil => simp [ofLexemes]
  | cons lexeme lexemes ih =>
    obtain ⟨hfirst, hothers⟩ := List.forall_mem_cons.1 hblank
    obtain ⟨hchars, hrest⟩ := List.forall_mem_cons.1 hne
    rw [List.flatMap_cons, List.append_assoc] at hsource
    intro token htoken hkind
    rcases List.mem_append.1 htoken with hself | hlater
    · obtain ⟨sort, hsort, rfl⟩ := Option.map_eq_some_iff.1 (Option.mem_toList.1 hself)
      have htext : lexeme.kind = .text := by
        cases hkind
        cases hlexeme : lexeme.kind with
        | text => rfl
        | semicolon | opening | closing | comment | space =>
          rw [hlexeme] at hsort
          cases hsort
      intro c hc
      apply hfirst htext c
      obtain ⟨d, tail, htail⟩ := List.exists_cons_of_ne_nil hchars
      rw [hsource, htail] at hc
      simpa [htail] using hc
    · rw [← List.length_append] at hlater
      exact ih (by rw [hsource, List.append_assoc]) hrest hothers token hlater hkind

/-- A token of running text in a source starts with no blank. -/
theorem Token.isBlank_of_mem_ofSource (source : Text) :
    ∀ token ∈ ofSource source, token.kind = .text →
      ∀ c ∈ source[token.start]?, Text.isBlank c = false := by
  have hsource : source = [] ++ ((Lexeme.cut source).1.flatMap Lexeme.chars ++
      (Lexeme.cut source).2) := (Lexeme.flatMap_chars_cut source).symm
  exact isBlank_of_mem_ofLexemes hsource (Lexeme.ne_nil_of_mem_cut source)
    (Lexeme.isBlank_of_mem_cut source)

/-- A chunk starts with no blank. -/
theorem ChunkOf.isBlank_of_head {source : Text} {texts : List Token} {chunk : Chunk}
    (h : ChunkOf source texts chunk)
    (hblank : ∀ token ∈ texts, token.kind = .text →
      ∀ c ∈ source[token.start]?, Text.isBlank c = false) :
    ∀ c ∈ chunk.text.head?, Text.isBlank c = false := by
  intro c hc
  obtain ⟨first, hfirst, last, -, rfl⟩ := h.reach
  have hmem := List.mem_of_mem_head? hfirst
  apply hblank first hmem (h.texts first hmem) c
  -- The slice starts at the first token, if it is not empty.
  rw [Text.slice, Option.mem_def, List.head?_take] at hc
  split at hc
  · cases hc
  · rwa [List.head?_drop] at hc

/-- Every rule that items make has the selectors of its prelude. -/
theorem Items.readsPrelude {source : Text} {tokens : List Token} {rules : List StyleRule}
    (h : Items source tokens rules)
    (hblank : ∀ token ∈ tokens, token.kind = .text →
      ∀ c ∈ source[token.start]?, Text.isBlank c = false) (around : List StyleRule) :
    ∀ entry ∈ StyleRule.lineageAll around rules, entry.2.ReadsPrelude := by
  induction h generalizing around with
  | nil => simp [StyleRule.lineageAll]
  | statement _ _ _ ih =>
    simp only [List.forall_mem_append, List.forall_mem_cons] at hblank
    exact ih hblank.2.2 around
  | @rule texts body tail rest opening closing chunk children rules hchunk _ _ _ _ _ ihbody
      ihrest =>
    simp only [List.forall_mem_append, List.forall_mem_cons] at hblank
    obtain ⟨htexts, -, hbody, -, -, hrest⟩ := hblank
    intro entry hentry
    rcases List.mem_append.1 hentry with hrule | hlater
    · rcases List.mem_cons.1 hrule with rfl | hchild
      · exact StyleRule.readsPrelude_ofChunk (hchunk.isBlank_of_head htexts) children
      · exact ihbody hbody _ entry hchild
    · exact ihrest hrest around entry hlater

namespace Stylesheet

/-- Exactly the right selectors of a style sheet count. Every rule in it has the selectors of its
trimmed prelude, and none if the prelude announces an at-rule. Those that count are the selectors
of the rules which are no at-rules and stand in no at-rule but grouping ones, each once and in the
order in which the rules begin. -/
theorem selectors_eq_counted {source : Text} {sheet : Stylesheet} (h : parse source = .ok sheet) :
    (∀ entry ∈ StyleRule.lineageAll [] sheet.rules,
      entry.2.selectors =
        if entry.2.prelude.head? = some '@' then []
        else SelectorList.split entry.2.prelude entry.2.location) ∧
    sheet.selectors =
      ((StyleRule.lineageAll [] sheet.rules).filter fun entry => StyleRule.Counts entry).flatMap
        fun entry => entry.2.selectors := by
  obtain ⟨-, items, tail, htokens, hitems, -⟩ := sentence_of_parse h
  have hblank := Token.isBlank_of_mem_ofSource source
  rw [htokens, List.forall_mem_append] at hblank
  constructor
  · intro entry hentry
    have hreads := hitems.readsPrelude hblank.1 [] entry hentry
    rw [StyleRule.ReadsPrelude, StyleRule.isAtRule] at hreads
    simpa only [StyleRule.startsAtRule_iff] using hreads
  · exact StyleRule.walkAll_eq_filter_lineageAll (by simp [StyleRule.Open]) sheet.rules

/-- A grouping at-rule in capital letters, in it a prelude that ends with an escaped blank and one
with an open bracket and a blank; then an at-rule whose block is passed over. -/
theorem selectors_eq_counted_trailing_escape :
    ∃ sheet,
      parse "@MEDIA m \x7b.a\\ \x7b:is(b, c \x7b\x7d\x7d\x7d@page\x7b.d\x7b\x7d\x7d".toList =
        .ok sheet ∧
      (StyleRule.lineageAll [] sheet.rules).map (fun entry => entry.2.prelude) =
        ["@MEDIA m".toList, ".a\\".toList, ":is(b, c".toList, "@page".toList, ".d".toList] ∧
      (∀ entry ∈ StyleRule.lineageAll [] sheet.rules,
        entry.2.selectors =
          if entry.2.prelude.head? = some '@' then []
          else SelectorList.split entry.2.prelude entry.2.location) ∧
      ((StyleRule.lineageAll [] sheet.rules).filter fun entry => StyleRule.Counts entry).flatMap
          (fun entry => entry.2.selectors) =
        [⟨".a\\".toList, ⟨1, 11⟩⟩, ⟨":is(b, c".toList, ⟨1, 16⟩⟩] := by
  have hparse :
      parse "@MEDIA m \x7b.a\\ \x7b:is(b, c \x7b\x7d\x7d\x7d@page\x7b.d\x7b\x7d\x7d".toList =
        .ok ⟨[
          ⟨"@MEDIA m".toList, ⟨1, 1⟩, [], [
            ⟨".a\\".toList, ⟨1, 11⟩, [⟨".a\\".toList, ⟨1, 11⟩⟩], [
              ⟨":is(b, c".toList, ⟨1, 16⟩, [⟨":is(b, c".toList, ⟨1, 16⟩⟩], []⟩]⟩]⟩,
          ⟨"@page".toList, ⟨1, 29⟩, [], [
            ⟨".d".toList, ⟨1, 35⟩, [⟨".d".toList, ⟨1, 35⟩⟩], []⟩]⟩]⟩ := by
    with_unfolding_all rfl
  obtain ⟨hreads, hcounted⟩ := selectors_eq_counted hparse
  exact ⟨_, hparse, rfl, hreads, hcounted.symm.trans rfl⟩

end Stylesheet

end ClassLint
