import ClassLint.Proofs.Stylesheet.Acceptance
import ClassLint.Proofs.Stylesheet.Delimiter
import ClassLint.Proofs.Stylesheet.Shift

/-!
# A source inside a larger one

The tokens of a source that stands in a larger one between delimiters are those of the source by
itself, further behind. A derivation of the source is then one of the larger source, with the
rules shifted, and so is the first offence. Two sources with a semicolon between them are read one
after the other: the first one must be a style sheet, and the second one decides.
-/

namespace ClassLint

/-- A delimiter and the sort of token that it is. -/
inductive Delimits : Char → TokenKind → Prop where
  | semicolon : Delimits ';' .semicolon
  | opening : Delimits '\x7b' .opening
  | closing : Delimits '\x7d' .closing

namespace Token

/-- A token that stands further behind. -/
def shift (distance : Nat) (token : Token) : Token :=
  { token with start := distance + token.start, stop := distance + token.stop }

/-- A token that stands further behind keeps its kind. -/
@[simp] theorem kind_shift (distance : Nat) (token : Token) :
    (token.shift distance).kind = token.kind := rfl

/-- A token that stands no further behind is the same. -/
theorem shift_zero : Token.shift 0 = id := by
  funext token
  simp [shift]

/-- The distances that tokens are moved add up. -/
theorem shift_shift (first second : Nat) (token : Token) :
    (token.shift second).shift first = token.shift (first + second) := by
  simp [shift, Nat.add_assoc]

/-- Tokens that stand further behind are as many of each kind. -/
@[simp] theorem count_map_shift (kind : TokenKind) (distance : Nat) (tokens : List Token) :
    count kind (tokens.map (shift distance)) = count kind tokens := by
  rw [count, count, List.countP_map]
  rfl

/-- The tokens of lexemes that start further behind stand further behind. -/
theorem ofLexemes_add (distance offset : Nat) (lexemes : List Lexeme) :
    ofLexemes (distance + offset) lexemes = (ofLexemes offset lexemes).map (shift distance) := by
  induction lexemes generalizing offset with
  | nil => rfl
  | cons lexeme rest ih =>
    rw [ofLexemes, ofLexemes, Nat.add_assoc, ih, List.map_append]
    congr 1
    simp only [ofLexeme?]
    cases lexeme.kind.token? with
    | none => rfl
    | some kind => simp [shift, Nat.add_assoc]

/-- The tokens of two rows of lexemes follow one another. -/
theorem ofLexemes_append (offset : Nat) (first second : List Lexeme) :
    ofLexemes offset (first ++ second) =
      ofLexemes offset first ++
        ofLexemes (offset + (first.flatMap Lexeme.chars).length) second := by
  induction first generalizing offset with
  | nil => simp [ofLexemes]
  | cons lexeme rest ih =>
    simp [ofLexemes, ih, Nat.add_assoc]

/-- Nothing has no tokens. -/
@[simp] theorem ofSource_nil : ofSource [] = [] := by
  rw [ofSource, Lexeme.cut_nil, ofLexemes]

/-- A delimiter at the start of a source is its first token. -/
theorem ofSource_delimiter {d : Char} {kind : TokenKind} (hd : Delimits d kind) (rest : Text) :
    (Lexeme.cut (d :: rest)).2 = (Lexeme.cut rest).2 ∧
      ofSource (d :: rest) = ⟨kind, 0, 1⟩ :: (ofSource rest).map (shift 1) := by
  cases hd with
  | semicolon | opening | closing =>
    rw [ofSource, Lexeme.cut_of_next?_eq_some rfl, ofLexemes, ofSource, ← ofLexemes_add]
    exact ⟨rfl, rfl⟩

/-- A delimiter behind a source that is cut to its end stands between the tokens before it and
those after it. -/
theorem ofSource_append_delimiter {source : Text} {d : Char} {kind : TokenKind}
    (hd : Delimits d kind) (h : (Lexeme.cut source).2 = []) (rest : Text) :
    (Lexeme.cut (source ++ d :: rest)).2 = (Lexeme.cut rest).2 ∧
      ofSource (source ++ d :: rest) =
        ofSource source ++ ⟨kind, source.length, source.length + 1⟩ ::
          (ofSource rest).map (shift (source.length + 1)) := by
  have htail : Lexeme.StartsDelimited (d :: rest) := by
    cases hd with
    | semicolon | opening | closing => exact ⟨_, rfl, rfl⟩
  have hlength : ((Lexeme.cut source).1.flatMap Lexeme.chars).length = source.length := by
    have hsource := congrArg List.length (Lexeme.flatMap_chars_cut source)
    rwa [h, List.append_nil] at hsource
  obtain ⟨hend, htokens⟩ := ofSource_delimiter hd rest
  have hbehind : ofLexemes source.length (Lexeme.cut (d :: rest)).1 =
      ⟨kind, source.length, source.length + 1⟩ ::
        (ofSource rest).map (shift (source.length + 1)) := by
    rw [← Nat.add_zero source.length, ofLexemes_add, ← ofSource, htokens, List.map_cons,
      List.map_map]
    congr 1
    apply List.map_congr_left
    intro token _
    exact shift_shift _ _ _
  rw [ofSource, Lexeme.cut_append htail h, ofLexemes_append, Nat.zero_add, hlength, hbehind]
  exact ⟨hend, rfl⟩

/-- A token whose offsets are offsets of a source. -/
structure Inside (source : Text) (token : Token) : Prop where
  start : token.start ≤ source.length
  stop : token.stop ≤ source.length

/-- The tokens of a source stand inside it. -/
theorem inside_of_mem_ofSource {source : Text} {token : Token} (h : token ∈ ofSource source) :
    token.Inside source := by
  obtain ⟨start, stop, -, hstop, hspans, hlength⟩ :=
    (inOrder_ofSource source).sublist (List.singleton_sublist.2 h)
  obtain ⟨rfl, rfl⟩ := hspans
  have hend : token.stop ≤ source.length := hlength
  exact ⟨hstop.le.trans hend, hend⟩

end Token

/-- What stands inside a source is the same in a larger one. -/
theorem Text.slice_append_append (before after : Text) {source : Text} {start stop : Nat}
    (hstart : start ≤ source.length) (hstop : stop ≤ source.length) :
    slice (before ++ (source ++ after)) (before.length + start) (before.length + stop) =
      slice source start stop := by
  have hlength : stop - start ≤ (source.drop start).length := by
    rw [List.length_drop]
    omega
  rw [slice, slice, List.drop_length_add_append, Nat.add_sub_add_left,
    List.drop_append_of_le_length hstart, List.take_append_of_le_length hlength]

section Placement

variable {source rest : Text} {tokens before : List Token} {rules : List StyleRule} {chunk : Chunk}

/-- Running texts of a source make the same chunk in a larger one, at the shifted location. -/
theorem ChunkOf.place (front back : Text) (h : ChunkOf source tokens chunk)
    (hinside : ∀ token ∈ tokens, token.Inside source) :
    ChunkOf (front ++ (source ++ back)) (tokens.map (Token.shift front.length))
      ⟨chunk.text, chunk.location.shift front⟩ where
  texts := by
    intro token htoken
    obtain ⟨inner, hinner, rfl⟩ := List.mem_map.1 htoken
    exact h.texts inner hinner
  reach := by
    obtain ⟨first, hfirst, last, hlast, rfl⟩ := h.reach
    have hstart := (hinside first (List.mem_of_mem_head? hfirst)).start
    have hstop := (hinside last (List.mem_of_mem_getLast? hlast)).stop
    refine ⟨first.shift front.length, ?_, last.shift front.length, ?_, ?_⟩
    · rw [List.head?_map, Option.mem_def.1 hfirst]
      rfl
    · rw [List.getLast?_map, Option.mem_def.1 hlast]
      rfl
    · simp only [Token.shift, Text.slice_append_append front back hstart hstop,
        Location.atOffset_append, Location.atOffset_append_of_le hstart]

/-- Running texts of a source make the same chunk in every longer one. -/
theorem ChunkOf.append_source (back : Text) (h : ChunkOf source tokens chunk)
    (hinside : ∀ token ∈ tokens, token.Inside source) : ChunkOf (source ++ back) tokens chunk := by
  have hplaced := h.place [] back hinside
  rwa [List.length_nil, Token.shift_zero, List.map_id, Location.shift_nil,
    List.nil_append] at hplaced

/-- The items of a source are items of a larger one, and their rules are shifted. -/
theorem Items.place (front back : Text) (h : Items source tokens rules)
    (hinside : ∀ token ∈ tokens, token.Inside source) :
    Items (front ++ (source ++ back)) (tokens.map (Token.shift front.length))
      (rules.map (StyleRule.shift front)) := by
  have htext {texts : List Token} (htexts : ∀ token ∈ texts, token.kind = .text) :
      ∀ token ∈ texts.map (Token.shift front.length), token.kind = .text := by
    simpa using htexts
  induction h with
  | nil => exact .nil
  | statement htexts hsemicolon _ ih =>
    simp only [List.forall_mem_append, List.forall_mem_cons] at hinside
    rw [List.map_append, List.map_cons]
    exact .statement (htext htexts) hsemicolon (ih hinside.2.2)
  | @rule texts body tail rest opening closing chunk children rules hchunk hopening hbody htail
      hclosing hrest ihbody ihrest =>
    simp only [List.forall_mem_append, List.forall_mem_cons] at hinside
    obtain ⟨hinsideTexts, -, hinsideBody, -, -, hinsideRest⟩ := hinside
    have hline : 1 ≤ chunk.location.line := by
      obtain ⟨first, -, last, -, rfl⟩ := hchunk.reach
      exact Location.one_le_line_atOffset _ _
    simp only [List.map_append, List.map_cons]
    rw [← StyleRule.ofChunk_shift front hline]
    exact .rule (hchunk.place front back hinsideTexts) hopening (ihbody hinsideBody) (htext htail)
      hclosing (ihrest hinsideRest)

/-- The items of a source are items of every longer one. -/
theorem Items.append_source (back : Text) (h : Items source tokens rules)
    (hinside : ∀ token ∈ tokens, token.Inside source) : Items (source ++ back) tokens rules := by
  have hplaced := h.place [] back hinside
  rwa [List.length_nil, Token.shift_zero, List.map_id, funext StyleRule.shift_nil, List.map_id',
    List.nil_append] at hplaced

/-- A style sheet is one between other texts as well, and its rules are shifted. -/
theorem Sentence.place (front back : Text) (h : Sentence source (Token.ofSource source) rules) :
    Sentence (front ++ (source ++ back)) ((Token.ofSource source).map (Token.shift front.length))
      (rules.map (StyleRule.shift front)) := by
  obtain ⟨items, tail, htokens, hitems, htail⟩ := h
  have hinside : ∀ token ∈ items, token.Inside source := by
    intro token htoken
    apply Token.inside_of_mem_ofSource
    rw [htokens]
    exact List.mem_append_left _ htoken
  refine ⟨_, tail.map (Token.shift front.length), ?_, hitems.place front back hinside, ?_⟩
  · rw [htokens, List.map_append]
  · simpa using htail

/-- A style sheet is one in front of another text as well. -/
theorem Sentence.append_source (back : Text) (h : Sentence source (Token.ofSource source) rules) :
    Sentence (source ++ back) (Token.ofSource source) rules := by
  have hplaced := h.place [] back
  rwa [List.length_nil, Token.shift_zero, List.map_id, funext StyleRule.shift_nil, List.map_id',
    List.nil_append] at hplaced

/-- Tokens behind which a source can start: no block is open, and no running text goes on. -/
structure Closed (tokens : List Token) : Prop where
  sound : Sound tokens
  count : Token.count .opening tokens = Token.count .closing tokens
  last : ∀ last ∈ tokens.getLast?, last.kind ≠ .text

/-- Behind closed tokens the same tokens are offences as at the start. -/
theorem Offends.place_iff {first : List Token} (hfirst : Closed first) (distance : Nat)
    {token : Token} {offence : Offence} :
    Offends (first ++ before.map (Token.shift distance)) (token.shift distance) offence ↔
      Offends before token offence := by
  have hcount := hfirst.count
  have hlast : (∀ last ∈ (first ++ before.map (Token.shift distance)).getLast?, last.kind ≠ .text) ↔
      ∀ last ∈ before.getLast?, last.kind ≠ .text := by
    rw [List.getLast?_append, List.getLast?_map]
    cases before.getLast? with
    | none => simpa using hfirst.last
    | some last => simp
  constructor
  · intro h
    cases h with
    | opening hkind htext => exact .opening hkind (hlast.1 htext)
    | closing hkind hblock =>
      simp only [Token.count_append, Token.count_map_shift] at hblock
      exact .closing hkind (by omega)
  · intro h
    cases h with
    | opening hkind htext => exact .opening hkind (hlast.2 htext)
    | closing hkind hblock =>
      refine .closing hkind ?_
      simp only [Token.count_append, Token.count_map_shift]
      omega

/-- Behind closed tokens the same tokens are sound as at the start. -/
theorem Sound.place {first : List Token} (hfirst : Closed first) (distance : Nat)
    (h : Sound before) : Sound (first ++ before.map (Token.shift distance)) := by
  induction before using List.reverseRecOn with
  | nil => simpa using hfirst.sound
  | append_singleton before token ih =>
    obtain ⟨hbefore, hoffence⟩ := Sound.concat_iff.1 h
    rw [List.map_append, ← List.append_assoc]
    refine Sound.concat_iff.2 ⟨ih hbefore, ?_⟩
    intro offence hoffends
    exact hoffence offence ((Offends.place_iff hfirst distance).1 hoffends)

/-- The first offence of a source is that of a larger one with closed tokens before the source. -/
theorem FirstOffence.place {first : List Token} {error : ParseError} (hfirst : Closed first)
    (front : Text) (hrest : rest.length ≤ source.length)
    (h : FirstOffence source tokens rest error) :
    FirstOffence (front ++ source) (first ++ tokens.map (Token.shift front.length)) rest
      (error.shift front) := by
  unfold ParseError.shift
  cases h with
  | token htokens hsound hoffends =>
    rw [← Location.atOffset_append, htokens, List.map_append, List.map_cons, ← List.append_assoc]
    exact .token rfl (hsound.place hfirst _) ((Offends.place_iff hfirst _).2 hoffends)
  | character hsound hcharacter =>
    have hoffset : front.length + (source.length - rest.length) =
        (front ++ source).length - rest.length := by
      rw [List.length_append]
      omega
    rw [← Location.atOffset_append, hoffset]
    exact .character (hsound.place hfirst _) hcharacter
  | @endOfSource last hsound hend hopen hlast =>
    have hcount := hfirst.count
    have hlast' : last.shift front.length ∈
        (first ++ tokens.map (Token.shift front.length)).getLast? := by
      rw [List.getLast?_append, List.getLast?_map, Option.mem_def.1 hlast]
      rfl
    rw [← Location.atOffset_append]
    refine .endOfSource (hsound.place hfirst _) hend ?_ hlast'
    simp only [Token.count_append, Token.count_map_shift]
    omega

end Placement

namespace Stylesheet

variable {first second : Text} {sheet other : Stylesheet}

/-- The tokens of a style sheet and a semicolon are closed. -/
theorem closed_semicolon (h : parse first = .ok sheet) (semicolon : Token)
    (hkind : semicolon.kind = .semicolon) : Closed (Token.ofSource first ++ [semicolon]) := by
  obtain ⟨hsound, hcount⟩ := (sentence_of_parse h).2.sound
  refine ⟨hsound.append_semicolon hkind, ?_, ?_⟩
  · simp [hkind, hcount]
  · simp [hkind]

/-- Two style sheets with a semicolon between them are one: the rules of the second follow those
of the first. -/
theorem parse_append_semicolon (hfirst : parse first = .ok sheet)
    (hsecond : parse second = .ok other) :
    parse (first ++ ';' :: second) =
      .ok ⟨sheet.rules ++ other.rules.map (StyleRule.shift (first ++ [';']))⟩ := by
  obtain ⟨hfirstEnd, hfirstSentence⟩ := sentence_of_parse hfirst
  obtain ⟨hsecondEnd, hsecondSentence⟩ := sentence_of_parse hsecond
  obtain ⟨hend, hjoined⟩ := Token.ofSource_append_delimiter .semicolon hfirstEnd second
  obtain ⟨items, tail, htokens, hitems, htail⟩ := hfirstSentence.append_source (';' :: second)
  have hplaced := hsecondSentence.place (first ++ [';']) []
  rw [List.append_nil, List.length_append, List.length_singleton, List.append_assoc,
    List.singleton_append] at hplaced
  obtain ⟨items', tail', htokens', hitems', htail'⟩ := hplaced
  have hsemicolon : Token.kind ⟨.semicolon, first.length, first.length + 1⟩ = .semicolon := rfl
  refine parse_eq_ok_iff.2 ⟨hend.trans hsecondEnd, ?_⟩
  refine ⟨_, tail', ?_, hitems.append (.statement htail hsemicolon hitems'), htail'⟩
  rw [hjoined, htokens, htokens']
  simp

/-- What is wrong with a second source behind a style sheet and a semicolon is wrong with both. -/
theorem parse_append_semicolon_error {error : ParseError} (hfirst : parse first = .ok sheet)
    (hsecond : parse second = .error error) :
    parse (first ++ ';' :: second) = .error (error.shift (first ++ [';'])) := by
  obtain ⟨hend, hjoined⟩ :=
    Token.ofSource_append_delimiter .semicolon (sentence_of_parse hfirst).1 second
  have hclosed := closed_semicolon hfirst ⟨.semicolon, first.length, first.length + 1⟩ rfl
  have hlength : (Lexeme.cut second).2.length ≤ second.length := by
    have hsource := congrArg List.length (Lexeme.flatMap_chars_cut second)
    rw [List.length_append] at hsource
    omega
  have hoffence := (parse_eq_error_iff.1 hsecond).place hclosed (first ++ [';']) hlength
  rw [parse_eq_error_iff, hend, hjoined]
  simpa using hoffence

end Stylesheet

end ClassLint
