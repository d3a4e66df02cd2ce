import ClassLint.Proofs.Stylesheet.Grammar

/-!
# What has been read of a style sheet

The reader keeps a stack of open blocks. After every lexeme the tokens read so far fall into three
parts: those up to the innermost open brace, the items since then, and the running texts of a chunk
that is still being read. The reader's state holds the rules and chunks of exactly these parts.
One step keeps this, or meets the first offence; so does a whole run.
-/

namespace ClassLint

/-- Tokens up to an open brace, and the blocks that are open after it, innermost first: before
each brace stand the items of the block around it and then the chunk of its own block. -/
inductive Opened (source : Text) : List Token → List OpenBlock → Prop where
  | nil : Opened source [] []
  | block {outer items texts : List Token} {opening : Token} {blocks : List OpenBlock}
      {chunk : Chunk} {before : List StyleRule} (houter : Opened source outer blocks)
      (hitems : Items source items before) (hchunk : ChunkOf source texts chunk)
      (hopening : opening.kind = .opening) :
      Opened source (outer ++ (items ++ (texts ++ [opening]))) (⟨chunk, before⟩ :: blocks)

/-- The running texts of the chunk being read, that chunk, and the gap between it and the offset
that has been reached. -/
inductive Pending (source : Text) (offset : Nat) : List Token → Option Chunk → Text → Prop where
  | none {gap : Text} : Pending source offset [] none gap
  | some {texts : List Token} {chunk : Chunk} {gap : Text} {first : Token}
      (hchunk : ChunkOf source texts chunk) (hfirst : first ∈ texts.head?)
      (hstart : first.start ≤ offset)
      (hgap : chunk.text ++ gap = source.slice first.start offset) :
      Pending source offset texts (some chunk) gap

/-- The state of the reader after tokens, at an offset. -/
structure Reached (source : Text) (offset : Nat) (tokens : List Token) (reading : Reading) :
    Prop where
  parts : ∃ outer items texts, tokens = outer ++ (items ++ texts) ∧
    Opened source outer reading.blocks ∧ Items source items reading.rules ∧
    Pending source offset texts reading.chunk reading.gap
  last : ∀ last ∈ tokens.getLast?, reading.last = Location.atOffset source last.start

/-- What reading tokens leads to: a state if they hold no offence, else the first one and where it
starts. -/
inductive ReadingOutcome (source : Text) (offset : Nat) (tokens : List Token) :
    Except ParseError Reading → Prop where
  | ok {reading : Reading} (hsound : Sound tokens) (hreached : Reached source offset tokens reading) :
      ReadingOutcome source offset tokens (.ok reading)
  | error {before after : List Token} {token : Token} {offence : Offence}
      (htokens : tokens = before ++ token :: after) (hsound : Sound before)
      (hoffends : Offends before token offence) :
      ReadingOutcome source offset tokens (.error ⟨offence, Location.atOffset source token.start⟩)

namespace Opened

variable {source : Text} {tokens : List Token} {blocks : List OpenBlock}

/-- As many blocks are open as braces are not closed. -/
theorem count_opening (h : Opened source tokens blocks) :
    Token.count .opening tokens = Token.count .closing tokens + blocks.length := by
  induction h with
  | nil => rfl
  | block _ hitems hchunk hopening ih =>
    simp only [Token.count_append, Token.count_cons, Token.count_nil, hopening, ih,
      hitems.count_opening, List.length_cons]
    simp [Token.count_eq_zero_of_texts hchunk.texts]
    omega

/-- The last of the tokens up to an open brace is no running text. -/
theorem getLast?_ne_text (h : Opened source tokens blocks) :
    ∀ last ∈ tokens.getLast?, last.kind ≠ .text := by
  intro last hlast
  cases h with
  | nil => simp at hlast
  | block _ _ _ hopening =>
    simp only [← List.append_assoc, List.getLast?_concat, Option.mem_def, Option.some.injEq] at hlast
    subst hlast
    rw [hopening]
    decide

end Opened

namespace Pending

variable {source : Text} {offset stop : Nat} {texts : List Token} {chunk : Option Chunk} {gap : Text}

/-- The tokens of a chunk being read are running texts. -/
theorem texts_text (h : Pending source offset texts chunk gap) :
    ∀ token ∈ texts, token.kind = .text := by
  cases h with
  | none => simp
  | some hchunk => exact hchunk.texts

/-- Characters that are no token widen the gap. -/
theorem widen (h : Pending source offset texts chunk gap) (hstop : offset ≤ stop) :
    Pending source stop texts chunk (gap ++ source.slice offset stop) := by
  cases h with
  | none => exact .none
  | some hchunk hfirst hstart hgap =>
    refine .some hchunk hfirst (hstart.trans hstop) ?_
    rw [← List.append_assoc, hgap, Text.slice_append_slice source hstart hstop]

/-- A running text starts a chunk or goes on with the one being read. -/
theorem extend {reading : Reading} (h : Pending source offset texts reading.chunk reading.gap)
    (hstop : offset ≤ stop) :
    Pending source stop (texts ++ [⟨.text, offset, stop⟩])
      (reading.takeText (Location.atOffset source offset) (source.slice offset stop)).chunk
      (reading.takeText (Location.atOffset source offset) (source.slice offset stop)).gap := by
  obtain ⟨rules, blocks, chunk, gap, last⟩ := reading
  cases h with
  | none =>
    have hsingle : ChunkOf source [⟨.text, offset, stop⟩]
        ⟨source.slice offset stop, Location.atOffset source offset⟩ := by
      refine ⟨?_, _, rfl, _, rfl, rfl⟩
      intro token htoken
      rw [List.mem_singleton.1 htoken]
    exact .some hsingle rfl hstop (List.append_nil _)
  | @some _ chunk _ first hchunk hfirst hstart hgap =>
    have htext : chunk.text ++ gap ++ source.slice offset stop = source.slice first.start stop := by
      rw [hgap, Text.slice_append_slice source hstart hstop]
    have hhead : first ∈ (texts ++ [(⟨.text, offset, stop⟩ : Token)]).head? := by
      rw [List.head?_append, Option.mem_def.1 hfirst]
      rfl
    obtain ⟨first', hfirst', last', -, hreach⟩ := hchunk.reach
    cases Option.mem_unique hfirst hfirst'
    have hlonger : ChunkOf source (texts ++ [⟨.text, offset, stop⟩])
        { chunk with text := chunk.text ++ gap ++ source.slice offset stop } := by
      refine ⟨?_, first, hhead, ⟨.text, offset, stop⟩, by simp, ?_⟩
      · intro token htoken
        rcases List.mem_append.1 htoken with hbefore | hlast
        · exact hchunk.texts token hbefore
        · rw [List.mem_singleton.1 hlast]
      · rw [htext, hreach]
    exact .some hlonger hhead (hstart.trans hstop) ((List.append_nil _).trans htext)

end Pending

namespace Reached

variable {source : Text} {offset stop : Nat} {tokens : List Token} {reading : Reading}

/-- Before the first lexeme nothing has been read. -/
theorem initial (source : Text) : Reached source 0 [] {} where
  parts := ⟨[], [], [], rfl, .nil, .nil, .none⟩
  last := by simp

/-- As many blocks are open as braces are not closed. -/
theorem count_opening (h : Reached source offset tokens reading) :
    Token.count .opening tokens = Token.count .closing tokens + reading.blocks.length := by
  obtain ⟨outer, items, texts, rfl, hopened, hitems, hpending⟩ := h.parts
  simp only [Token.count_append, hopened.count_opening, hitems.count_opening]
  simp [Token.count_eq_zero_of_texts hpending.texts_text]
  omega

/-- While no chunk is being read, the last token is no running text. -/
theorem getLast?_ne_text (h : Reached source offset tokens reading) (hchunk : reading.chunk = none) :
    ∀ last ∈ tokens.getLast?, last.kind ≠ .text := by
  obtain ⟨outer, items, texts, rfl, hopened, hitems, hpending⟩ := h.parts
  rw [hchunk] at hpending
  cases hpending
  rw [List.append_nil]
  intro last hlast
  rw [List.getLast?_append] at hlast
  cases hitem : items.getLast? with
  | none =>
    rw [hitem] at hlast
    exact hopened.getLast?_ne_text last hlast
  | some item =>
    rw [hitem] at hlast
    cases hlast
    exact hitems.getLast?_ne_text _ hitem

/-- While a chunk is being read, the last token is a running text. -/
theorem exists_last {chunk : Chunk} (h : Reached source offset tokens reading)
    (hchunk : reading.chunk = some chunk) : ∃ last ∈ tokens.getLast?, last.kind = .text := by
  obtain ⟨outer, items, texts, rfl, hopened, hitems, hpending⟩ := h.parts
  rw [hchunk] at hpending
  cases hpending with
  | some hmade =>
    rw [← List.append_assoc]
    exact hmade.exists_last _

/-- Comments and white space leave the parts as they are. -/
theorem skip (h : Reached source offset tokens reading) (hstop : offset ≤ stop) :
    Reached source stop tokens
      { reading with gap := reading.gap ++ source.slice offset stop } where
  parts := by
    obtain ⟨outer, items, texts, htokens, hopened, hitems, hpending⟩ := h.parts
    exact ⟨outer, items, texts, htokens, hopened, hitems, hpending.widen hstop⟩
  last := h.last

/-- A running text becomes the last of the chunk being read. -/
theorem takeText (h : Reached source offset tokens reading) (hstop : offset ≤ stop) :
    Reached source stop (tokens ++ [⟨.text, offset, stop⟩])
      (reading.takeText (Location.atOffset source offset) (source.slice offset stop)) where
  parts := by
    obtain ⟨outer, items, texts, rfl, hopened, hitems, hpending⟩ := h.parts
    exact ⟨outer, items, texts ++ [⟨.text, offset, stop⟩], by simp, hopened, hitems,
      hpending.extend hstop⟩
  last := by simp [Reading.takeText]

/-- A semicolon ends an item. -/
theorem takeSemicolon (h : Reached source offset tokens reading) :
    Reached source stop (tokens ++ [⟨.semicolon, offset, stop⟩])
      (reading.takeSemicolon (Location.atOffset source offset)) where
  parts := by
    obtain ⟨outer, items, texts, rfl, hopened, hitems, hpending⟩ := h.parts
    refine ⟨outer, items ++ (texts ++ [⟨.semicolon, offset, stop⟩]), [], by simp, hopened, ?_, .none⟩
    have hstatement : Items source (texts ++ [⟨.semicolon, offset, stop⟩]) [] :=
      .statement hpending.texts_text rfl .nil
    have hended := hitems.append hstatement
    rwa [List.append_nil] at hended
  last := by simp [Reading.takeSemicolon]

/-- An opening brace after a chunk opens its block. -/
theorem takeOpening {chunk : Chunk} (h : Reached source offset tokens reading)
    (hchunk : reading.chunk = some chunk) :
    Reached source stop (tokens ++ [⟨.opening, offset, stop⟩])
      { rules := [], blocks := ⟨chunk, reading.rules⟩ :: reading.blocks,
        last := Location.atOffset source offset } where
  parts := by
    obtain ⟨outer, items, texts, rfl, hopened, hitems, hpending⟩ := h.parts
    rw [hchunk] at hpending
    cases hpending with
    | some hmade =>
      exact ⟨outer ++ (items ++ (texts ++ [⟨.opening, offset, stop⟩])), [], [], by simp,
        .block hopened hitems hmade rfl, .nil, .none⟩
  last := by simp

/-- A closing brace makes the rule of the innermost block. -/
theorem takeClosing {block : OpenBlock} {blocks : List OpenBlock}
    (h : Reached source offset tokens reading) (hblocks : reading.blocks = block :: blocks) :
    Reached source stop (tokens ++ [⟨.closing, offset, stop⟩])
      { rules := block.before ++ [.ofChunk block.chunk reading.rules], blocks := blocks,
        last := Location.atOffset source offset } where
  parts := by
    obtain ⟨outer, items, texts, rfl, hopened, hitems, hpending⟩ := h.parts
    obtain ⟨chunk, before⟩ := block
    rw [hblocks] at hopened
    cases hopened with
    | @block outer inside chunkTexts opening _ _ _ houter hinside hchunk hopening =>
      have hrule : Items source (chunkTexts ++ opening :: (items ++ (texts ++
          [⟨.closing, offset, stop⟩]))) [.ofChunk chunk reading.rules] :=
        .rule hchunk hopening hitems hpending.texts_text rfl .nil
      exact ⟨outer, _, [], by simp, houter, hinside.append hrule, .none⟩
  last := by simp

end Reached

namespace ReadingOutcome

variable {source : Text} {offset stop : Nat} {tokens : List Token} {reading : Reading}

/-- One step: a token that is no offence leads to the state after it, an offence is reported. -/
theorem take {lexeme : Lexeme} (hsound : Sound tokens) (h : Reached source offset tokens reading)
    (hchars : source.slice offset (offset + lexeme.chars.length) = lexeme.chars) :
    ReadingOutcome source (offset + lexeme.chars.length)
      (tokens ++ (Token.ofLexeme? offset lexeme).toList)
      (reading.take (Location.atOffset source offset, lexeme)) := by
  have hstop : offset ≤ offset + lexeme.chars.length := Nat.le_add_right _ _
  obtain ⟨kind, chars⟩ := lexeme
  dsimp only at hchars hstop ⊢
  -- What a gap grows by is no token, for comments and white space alike.
  have hskipped : ReadingOutcome source (offset + chars.length) (tokens ++ [])
      (.ok { reading with gap := reading.gap ++ chars }) := by
    have hnext := h.skip hstop
    rw [hchars] at hnext
    rw [List.append_nil]
    exact .ok hsound hnext
  cases kind with
  | text =>
    have hnext := h.takeText hstop
    rw [hchars] at hnext
    refine .ok (hsound.append_texts ?_) hnext
    intro token htoken
    rw [List.mem_singleton.1 htoken]
  | semicolon => exact .ok (hsound.append_semicolon rfl) h.takeSemicolon
  | opening =>
    change ReadingOutcome source _ (tokens ++ [⟨.opening, offset, _⟩]) (reading.takeOpening _)
    unfold Reading.takeOpening
    split
    · rename_i hchunk
      exact .error rfl hsound (.opening rfl (h.getLast?_ne_text hchunk))
    · rename_i chunk hchunk
      refine .ok (Sound.concat_iff.2 ⟨hsound, ?_⟩) (h.takeOpening hchunk)
      rintro offence (⟨-, htext⟩ | ⟨hkind, -⟩)
      · obtain ⟨last, hlast, hlasttext⟩ := h.exists_last hchunk
        exact htext last hlast hlasttext
      · cases hkind
  | closing =>
    have hcount := h.count_opening
    change ReadingOutcome source _ (tokens ++ [⟨.closing, offset, _⟩]) (reading.takeClosing _)
    unfold Reading.takeClosing
    split
    · rename_i hblocks
      rw [hblocks] at hcount
      exact .error rfl hsound (.closing rfl hcount.le)
    · rename_i block blocks hblocks
      rw [hblocks, List.length_cons] at hcount
      refine .ok (Sound.concat_iff.2 ⟨hsound, ?_⟩) (h.takeClosing hblocks)
      rintro offence (⟨hkind, -⟩ | ⟨-, hblock⟩)
      · cases hkind
      · omega
  | comment => exact hskipped
  | space => exact hskipped

/-- A whole run: lexemes are read up to the first offence. -/
theorem foldlM_take {lexemes : List Lexeme} {before rest : Text} (hsound : Sound tokens)
    (h : Reached source before.length tokens reading)
    (hsource : source = before ++ (lexemes.flatMap Lexeme.chars ++ rest)) :
    ReadingOutcome source (before.length + (lexemes.flatMap Lexeme.chars).length)
      (tokens ++ Token.ofLexemes before.length lexemes)
      ((Lexeme.locate (Location.atOffset source before.length) lexemes).foldlM Reading.take
        reading) := by
  induction lexemes generalizing before tokens reading with
  | nil =>
    rw [Token.ofLexemes, List.append_nil]
    exact .ok hsound h
  | cons lexeme lexemes ih =>
    rw [List.flatMap_cons, List.append_assoc] at hsource
    have hchars : source.slice before.length (before.length + lexeme.chars.length) =
        lexeme.chars := by
      rw [hsource, ← List.append_assoc, Text.slice_append_middle]
    have hnext : (Location.atOffset source before.length).advance lexeme.chars =
        Location.atOffset source (before ++ lexeme.chars).length := by
      rw [List.length_append, ← Location.advance_slice source (Nat.le_add_right _ _), hchars]
    rw [Lexeme.locate, List.foldlM_cons, Token.ofLexemes, ← List.append_assoc, hnext,
      List.flatMap_cons, List.length_append, ← Nat.add_assoc, ← List.length_append]
    generalize hstep : reading.take (Location.atOffset source before.length, lexeme) = step
    have houtcome := take hsound h hchars
    rw [hstep] at houtcome
    cases houtcome with
    | ok hsound' hreached =>
      rw [← List.length_append] at hreached
      exact ih hsound' hreached (by rw [List.append_assoc, hsource])
    | error htokens hinit hoffends =>
      rw [htokens, List.append_assoc, List.cons_append]
      exact .error rfl hinit hoffends

/-- The run over all lexemes of a source. -/
theorem cut (source : Text) :
    ReadingOutcome source ((Lexeme.cut source).1.flatMap Lexeme.chars).length (Token.ofSource source)
      ((Lexeme.locate .start (Lexeme.cut source).1).foldlM Reading.take {}) := by
  have hsource : source = [] ++ ((Lexeme.cut source).1.flatMap Lexeme.chars ++
      (Lexeme.cut source).2) := (Lexeme.flatMap_chars_cut source).symm
  have hrun := foldlM_take .nil (Reached.initial source) hsource
  rwa [List.nil_append, List.length_nil, Nat.zero_add, Location.atOffset_zero] at hrun

end ReadingOutcome

/-- A state without open blocks has read a whole style sheet. -/
theorem Reached.sentence {source : Text} {offset : Nat} {tokens : List Token} {reading : Reading}
    (h : Reached source offset tokens reading) (hblocks : reading.blocks = []) :
    Sentence source tokens reading.rules := by
  obtain ⟨outer, items, texts, rfl, hopened, hitems, hpending⟩ := h.parts
  rw [hblocks] at hopened
  cases hopened
  exact ⟨items, texts, rfl, hitems, hpending.texts_text⟩

end ClassLint
