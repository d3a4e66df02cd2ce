import ClassLint.Proofs.Pattern.Reading
import ClassLint.Proofs.Pattern.Rearranging

/-!
# What written regular expressions denote

The text of a well-written regular expression reads as a pattern that has the language which the
expression denotes. So a text as a whole matches it exactly if it is in this language, and anchors
around the whole expression change nothing.
-/

namespace ClassLint

open PatternToken (bare bareText bare_ne_behindBackslash)

/-! ## Cutting into pieces -/

/-- The characters of a text that stand alone are those of the text. -/
theorem PatternToken.mem_bareText {c : Char} {text : Text} : bare c ∈ bareText text ↔ c ∈ text := by
  simp [bareText, bare]

/-- Pieces are cut again as they are, unless one is a backslash that stands alone. -/
theorem PatternToken.cut_flatMap_text {tokens : List PatternToken} (h : bare '\\' ∉ tokens) :
    cut (tokens.flatMap text) = (tokens, false) := by
  induction tokens with
  | nil => rfl
  | cons token tokens ih =>
    obtain ⟨htoken, htokens⟩ := not_or.1 (List.mem_cons.not.1 h)
    obtain ⟨escaped, c⟩ := token
    cases escaped with
    | true =>
      rw [List.flatMap_cons]
      change cut ('\\' :: c :: tokens.flatMap text) = _
      rw [cut, ih htokens]
    | false =>
      have hc : c ≠ '\\' := by
        rintro rfl
        exact htoken rfl
      rw [List.flatMap_cons]
      change cut (c :: tokens.flatMap text) = _
      rw [cut, ih htokens]
      · exact fun heq _ => hc heq
      · exact fun _ _ heq _ => hc heq

namespace Regex

/-- A character that is not of a kind is in no text of characters of this kind. -/
theorem not_mem_of_forall {text : Text} {kind : Char → Bool} {c : Char}
    (htext : ∀ d ∈ text, kind d = true) (hc : kind c = false) : c ∉ text := by
  intro hmem
  rw [htext c hmem] at hc
  cases hc

/-- No backslash stands alone in a written character. -/
theorem not_mem_literalTokens {literal : Literal} {inSet : Bool} {next : Text}
    (h : literal.IsWritten inSet next) : bare '\\' ∉ literal.tokens := by
  rw [Literal.tokens, List.mem_cons, PatternToken.mem_bareText, not_or]
  cases literal with
  | bare c =>
    refine ⟨?_, List.not_mem_nil⟩
    rintro ⟨⟩
    cases inSet with
    | true => exact h rfl
    | false => exact h.1 (by decide)
  | escaped c | control c _ => exact ⟨bare_ne_behindBackslash _ _, List.not_mem_nil⟩
  | hexadecimal letter digits =>
    exact ⟨bare_ne_behindBackslash _ _, not_mem_of_forall h.2.1 (by decide)⟩
  | octal digit digits =>
    exact ⟨bare_ne_behindBackslash _ _,
      not_mem_of_forall (List.forall_mem_cons.1 h.1).2 (by decide)⟩
  | named name code =>
    have hname : '\\' ∉ name := fun hmem => (h.2.1 _ hmem).2 rfl
    exact ⟨bare_ne_behindBackslash _ _, by simpa [Literal.more] using hname⟩

/-- No backslash stands alone in a written entry of a set. -/
theorem SetItem.not_mem_tokens {item : SetItem} {next : Text} (h : item.IsWritten next) :
    bare '\\' ∉ item.tokens := by
  cases item with
  | one literal => exact not_mem_literalTokens h
  | range low high =>
    have hlow := not_mem_literalTokens h.1
    have hhigh := not_mem_literalTokens h.2.1
    rw [Literal.tokens] at hlow
    simp only [SetItem.tokens, SetItem.first, SetItem.more, List.mem_cons,
      List.mem_append] at hlow ⊢
    rintro (hmem | hmem | hmem | hmem)
    · exact hlow (.inl hmem)
    · exact hlow (.inr hmem)
    · cases hmem
    · exact hhigh hmem
  | named charClass negated =>
    rw [SetItem.tokens, SetItem.first, SetItem.more, List.mem_singleton]
    exact bare_ne_behindBackslash _ _

/-- No backslash stands alone in the written entries of a set. -/
theorem not_mem_itemTokens {isFirst : Bool} {items : List SetItem} (h : AreWritten isFirst items) :
    bare '\\' ∉ itemTokens items := by
  induction items generalizing isFirst with
  | nil => exact List.not_mem_nil
  | cons item items ih =>
    rw [itemTokens, List.flatMap_cons, List.mem_append, not_or]
    exact ⟨SetItem.not_mem_tokens h.1, ih h.2.2.2⟩

/-- No backslash stands alone in a written symbol. -/
theorem Symbol.not_mem_tokens {symbol : Symbol} {next : Text} (h : symbol.IsWritten next) :
    bare '\\' ∉ symbol.tokens := by
  cases symbol with
  | any => decide
  | char literal => exact not_mem_literalTokens h
  | named charClass negated =>
    rw [Symbol.tokens, Symbol.first, Symbol.more, List.mem_singleton]
    exact bare_ne_behindBackslash _ _
  | set negated items =>
    have hitems := not_mem_itemTokens h.1
    simp only [Symbol.tokens, Symbol.first, Symbol.more, List.mem_cons, List.mem_append]
    rintro (hmem | (hmem | hmem) | hmem)
    · cases hmem
    · cases negated <;> revert hmem <;> decide
    · exact hitems hmem
    · revert hmem
      decide

/-- The sign of a repeat has no backslash. -/
theorem not_mem_repeatText {count : Option Repeat} (h : ∀ sign ∈ count, sign.mark.IsWritten) :
    '\\' ∉ repeatText count := by
  cases count with
  | none => exact List.not_mem_nil
  | some sign =>
    obtain ⟨mark, isLazy⟩ := sign
    have hmark : '\\' ∉ mark.text := by
      cases mark with
      | star | plus | optional => decide
      | braces bounds =>
        obtain ⟨hdigits, -⟩ := h _ rfl
        cases bounds with
        | exactly digits =>
          have hmem := not_mem_of_forall hdigits.2 (c := '\\') (by decide)
          simpa [RepeatMark.text, Bounds.text] using hmem
        | between low high =>
          have hlow := not_mem_of_forall hdigits.1 (c := '\\') (by decide)
          have hhigh := not_mem_of_forall hdigits.2 (c := '\\') (by decide)
          simpa [RepeatMark.text, Bounds.text] using ⟨hlow, hhigh⟩
    rw [repeatText, List.mem_append, not_or]
    exact ⟨hmark, by cases isLazy <;> decide⟩

/-- The sign that opens a group has no backslash. -/
theorem GroupSort.not_mem_opening {sort : GroupSort} (h : sort.IsWritten) :
    '\\' ∉ sort.opening := by
  cases sort with
  | captured | together => decide
  | named name =>
    have hname := PatternReader.not_mem_of_isIdentifier (h name (List.mem_singleton_self name))
      (c := '\\') (by decide +kernel)
    simpa [GroupSort.opening] using hname

mutual

/-- No backslash stands alone in a written symbol or group. -/
theorem Atom.not_mem_tokens (atom : Atom) {next : Text} (h : atom.IsWritten next) :
    bare '\\' ∉ atom.tokens := by
  cases atom with
  | symbol symbol => exact Symbol.not_mem_tokens h
  | group sort body =>
    rw [Atom.tokens, List.mem_append, List.mem_append, PatternToken.mem_bareText, not_or, not_or]
    exact ⟨⟨GroupSort.not_mem_opening h.1, not_mem_tokens body h.2⟩, by decide⟩

/-- No backslash stands alone in a written branch. -/
theorem Branch.not_mem_tokens (branch : Branch) (h : branch.IsWritten) :
    bare '\\' ∉ branch.tokens := by
  cases branch with
  | nil => exact List.not_mem_nil
  | cons atom count rest =>
    rw [Branch.tokens, List.mem_append, List.mem_append, PatternToken.mem_bareText, not_or, not_or]
    exact ⟨Atom.not_mem_tokens atom h.1, not_mem_repeatText h.2.1, Branch.not_mem_tokens rest h.2.2⟩

/-- No backslash stands alone in a written regular expression. -/
theorem not_mem_tokens (regex : Regex) (h : regex.IsWritten) : bare '\\' ∉ regex.tokens := by
  cases regex with
  | last branch => exact Branch.not_mem_tokens branch h
  | or branch rest =>
    rw [tokens, List.mem_append, List.mem_cons, not_or, not_or]
    exact ⟨Branch.not_mem_tokens branch h.1, by decide, not_mem_tokens rest h.2⟩

end

end Regex

/-! ## Anchors around a pattern -/

namespace Pattern

/-- A row of patterns is followed by its first pattern and then by the others. -/
theorem follow_sequenceOf_cons (pattern : Pattern) (rest : List Pattern) (accept : Continuation) :
    (sequenceOf (pattern :: rest)).follow accept =
      pattern.follow ((sequenceOf rest).follow accept) := by
  cases rest with
  | nil => rfl
  | cons next rest => rfl

/-- A row of patterns with one more is followed to its end and then by the last pattern. -/
theorem follow_sequenceOf_concat (patterns : List Pattern) (last : Pattern)
    (accept : Continuation) : (sequenceOf (patterns ++ [last])).follow accept =
      (sequenceOf patterns).follow (last.follow accept) := by
  induction patterns with
  | nil => rfl
  | cons pattern patterns ih =>
    rw [List.cons_append, follow_sequenceOf_cons, ih, follow_sequenceOf_cons]

/-- At the end of the whole text, the anchor of the last line's end accepts nothing else. -/
theorem judges_lastLineEnd : Judges ((anchor .lastLineEnd).follow acceptEnd) 1 := by
  intro cursor
  rw [← judges_acceptEnd cursor, follow]
  cases hrest : cursor.rest with
  | nil => simp [Anchor.holds, hrest]
  | cons c rest => simp [acceptEnd, hrest]

/-- Anchors around a pattern that has a language are no condition on texts as a whole. -/
theorem fullMatch_anchored_iff {patterns : List Pattern}
    (h : ∀ pattern ∈ patterns, pattern.IsRegular) {text : Text} :
    (sequenceOf (.anchor .start :: (patterns ++ [.anchor .lastLineEnd]))).fullMatch text = true ↔
      text ∈ (patterns.map language).prod := by
  have hstart (accept : Continuation) :
      (anchor .start).follow accept { rest := text } = accept { rest := text } := rfl
  rw [fullMatch, follow_sequenceOf_cons, follow_sequenceOf_concat, hstart,
    reads_follow (isRegular_sequenceOf h) _ _ judges_lastLineEnd, mul_one, language_sequenceOf]

end Pattern

/-! ## Reading a whole text -/

namespace PatternReader

/-- Different names are all new before anything has been read. -/
theorem fresh_start {names : List Text} (h : names.Nodup) : Fresh {} names := ⟨h, nofun⟩

/-- When the reader comes to the end of a text and nothing is open, the text reads as the pattern of
its branches. -/
theorem read_of_comes {tokens : List PatternToken} {names : List Text} {reached : State → Prop}
    (hclean : bare '\\' ∉ tokens) (h : Comes {} tokens [] names reached) :
    ∃ branches : Branches, (∃ next : State, next.branches = branches ∧ reached next) ∧
      Pattern.read (tokens.flatMap PatternToken.text) =
        .ok (PatternPart.sequencePattern {} (branches.close {})) := by
  obtain ⟨next, after, hsteps, hkeeps, hreached⟩ := h 0
  refine ⟨next.branches, ⟨next, rfl, hreached⟩, ?_⟩
  rw [List.append_nil] at hsteps
  have htakeAll := takeAll_of_steps hsteps rfl (Nat.le_refl _)
  have hfinish : finish next =
      .ok (PatternPart.sequencePattern {} (next.branches.close {})) := by
    simp only [finish, hkeeps.opened, alphabetFault?, hkeeps.alphabets, hkeeps.conditions,
      hkeeps.deferred, hkeeps.flags]
    rfl
  have hpieces : readPieces { tokens } =
      .ok (PatternPart.sequencePattern {} (next.branches.close {})) := by
    simp only [readPieces, htakeAll, hfinish, bind, Except.bind]
  simp only [Pattern.read, PatternToken.cut_flatMap_text hclean, hpieces]

/-- Outside of several lines, the signs of a start and an end are read as anchors of the text. -/
theorem comes_anchor {state : State} {following : List PatternToken} {sign : Char} {anchor : Anchor}
    (hflags : state.flags = {})
    (hsign : (sign = '^' ∧ anchor = .start) ∨ (sign = '$' ∧ anchor = .lastLineEnd)) :
    Comes state [bare sign] following [] fun next =>
      next.branches.finished = state.branches.finished ∧
        next.branches.current = state.branches.current ++ [.anchor anchor] := by
  refine Comes.step fun position => ⟨state.push position (.anchor anchor), position + 1, ?_,
    ⟨rfl, rfl, rfl, rfl, rfl, fun _ => .inl⟩, rfl, current_push state.branches position _⟩
  have hmultiline : state.flags.multiline = false := by rw [hflags]
  obtain ⟨rfl, rfl⟩ | ⟨rfl, rfl⟩ := hsign
  · rw [take_of_not_sign hflags (by decide)]
    change Except.ok (state.push position
      (.anchor (if state.flags.multiline then .lineStart else .start)), _) = _
    rw [hmultiline]
    rfl
  · rw [take_of_not_sign hflags (by decide)]
    change Except.ok (state.push position
      (.anchor (if state.flags.multiline then .lineEnd else .lastLineEnd)), _) = _
    rw [hmultiline]
    rfl

end PatternReader

namespace Regex

open PatternReader (Comes Fresh comes_anchor comes_atom comes_regex fresh_start read_of_comes)

/-- The text of a well-written regular expression reads as a pattern of its language. -/
theorem exists_read {regex : Regex} (h : regex.WellWritten) : ∃ pattern : Pattern,
    Pattern.read regex.text = .ok pattern ∧ pattern.IsRegular ∧
      pattern.language = regex.language := by
  have hcondition : PatternReader.NotInCondition {} := by
    rintro group ⟨⟩
  have hcalm : PatternReader.Calm [] := by
    rintro token ⟨⟩
  have hcomes : Comes {} regex.tokens [] regex.names
      (PatternReader.AddsRows {} regex.language) :=
    comes_regex regex h.isWritten rfl (fresh_start h.names_nodup) hcondition rfl rfl hcalm
  obtain ⟨branches, ⟨next, rfl, hadds⟩, hread⟩ :=
    read_of_comes (not_mem_tokens regex h.isWritten) hcomes
  obtain ⟨rows, hrows, hplain, hlanguage⟩ := hadds
  rw [List.nil_append] at hrows
  rw [← hrows] at hplain hlanguage
  obtain ⟨hregular, hsum⟩ := Branches.sequencePattern_close_spec hplain
  exact ⟨_, hread, hregular, hsum.trans hlanguage⟩

/-- The pieces of a regular expression as a group between anchors. -/
def anchoredTokens (regex : Regex) : List PatternToken :=
  [bare '^'] ++ ((Atom.group .together regex).tokens ++ [bare '$'])

/-- The pieces of an anchored group are written as the expression in parentheses between anchors. -/
theorem text_anchoredTokens (regex : Regex) : regex.anchoredTokens.flatMap PatternToken.text =
    ['^', '(', '?', ':'] ++ regex.text ++ [')', '$'] := by
  simp [anchoredTokens, Atom.tokens, GroupSort.opening, Regex.text, PatternToken.text, bare,
    bareText]

/-- Between the anchors, a row of the expression's language is read. -/
theorem comes_anchoredTokens {regex : Regex} (h : regex.WellWritten) :
    Comes {} regex.anchoredTokens [] ([] ++ ((Atom.group .together regex).names ++ [])) fun last =>
      last.branches.finished = [] ∧ ∃ row, last.branches.current =
        .anchor .start :: (row ++ [.anchor .lastLineEnd]) ∧
          (∀ plain ∈ row, plain.IsPlain) ∧ PatternPart.rowLanguage row = regex.language := by
  refine Comes.trans (comes_anchor rfl (.inl ⟨rfl, rfl⟩)) fun first hfirst hstart => ?_
  have hfresh : Fresh first ([] ++ regex.names) := (fresh_start h.names_nodup).right hfirst.names
  refine Comes.trans (comes_atom (.group .together regex) ⟨nofun, h.isWritten⟩ hfirst.flags hfresh)
    fun middle hmiddle hpart => ?_
  refine (comes_anchor (hmiddle.flags.trans hfirst.flags) (.inr ⟨rfl, rfl⟩)).imp
    fun last hend => ?_
  obtain ⟨hfinished, row, hcurrent, hplain, hlanguage⟩ := hpart.addsRow
  refine ⟨hend.1.trans (hfinished.trans hstart.1), row, ?_, hplain, hlanguage⟩
  rw [hend.2, hcurrent, hstart.2]
  rfl

/-- With anchors around it, the text of a well-written regular expression reads as a pattern that
the same texts match as a whole. -/
theorem exists_read_anchored {regex : Regex} (h : regex.WellWritten) : ∃ pattern : Pattern,
    Pattern.read (['^', '(', '?', ':'] ++ regex.text ++ [')', '$']) = .ok pattern ∧
      ∀ text, pattern.fullMatch text = true ↔ text ∈ regex.language := by
  have hclean : bare '\\' ∉ regex.anchoredTokens := by
    have hgroup : (Atom.group .together regex).IsWritten [] := ⟨nofun, h.isWritten⟩
    rw [anchoredTokens, List.mem_append, List.mem_append, not_or, not_or]
    exact ⟨by decide, Atom.not_mem_tokens (.group .together regex) hgroup, by decide⟩
  obtain ⟨branches, ⟨last, rfl, hfinished, row, hcurrent, hplain, hlanguage⟩, hread⟩ :=
    read_of_comes hclean (comes_anchoredTokens h)
  rw [text_anchoredTokens] at hread
  refine ⟨_, hread, fun text => ?_⟩
  have hclose : last.branches.close {} = .anchor .start :: (row ++ [.anchor .lastLineEnd]) := by
    rw [Branches.close, hfinished, hcurrent]
  -- there is one branch, so nothing is taken out of it and the anchors stay where they are
  have hpattern : PatternPart.sequencePattern {} (last.branches.close {}) =
      .sequenceOf (.anchor .start :: (row.map (PatternPart.plainPattern {}) ++
        [.anchor .lastLineEnd])) := by
    rw [hclose, PatternPart.sequencePattern, List.flatMap_cons, List.flatMap_append,
      PatternPart.flatMap_spread_of_isPlain hplain]
    simp [PatternPart.spread, PatternPart.plainPattern]
  rw [hpattern, Pattern.fullMatch_anchored_iff, List.map_map, ← hlanguage]
  · rfl
  · rw [List.forall_mem_map]
    exact fun part hpart => (hplain part hpart).isRegular

end Regex

end ClassLint
