import ClassLint.Proofs.Stylesheet.Reading

/-!
# Which sources are style sheets

A source is read exactly if the terminals cut all of it and its tokens are a sentence of the
grammar; that is, if every opening brace comes right after a running text, no closing brace comes
too early, and none is missing at the end. Any other source is refused with its first offence in
reading order and the place where that stands.
-/

namespace ClassLint

/-- The first offence of a source with the given tokens, of which `rest` starts with no lexeme:
a token after sound ones; else the character where the cut ends; else, when a block is still open
at the end of the source, the last token. -/
inductive FirstOffence (source : Text) (tokens : List Token) (rest : Text) : ParseError → Prop where
  | token {before after : List Token} {token : Token} {offence : Offence}
      (htokens : tokens = before ++ token :: after) (hsound : Sound before)
      (hoffends : Offends before token offence) :
      FirstOffence source tokens rest ⟨offence, Location.atOffset source token.start⟩
  | character {c : Char} {after : Text} (hsound : Sound tokens) (hrest : rest = c :: after) :
      FirstOffence source tokens rest
        ⟨.character c, Location.atOffset source (source.length - rest.length)⟩
  | endOfSource {last : Token} (hsound : Sound tokens) (hrest : rest = [])
      (hopen : Token.count .closing tokens < Token.count .opening tokens)
      (hlast : last ∈ tokens.getLast?) :
      FirstOffence source tokens rest ⟨.endOfSource, Location.atOffset source last.start⟩

/-- Sound tokens hold no offence. -/
theorem Sound.not_offends {tokens before after : List Token} {token : Token} {offence : Offence}
    (h : Sound tokens) (htokens : tokens = before ++ token :: after) :
    ¬ Offends before token offence := by
  rw [List.append_cons] at htokens
  have hbefore := h.of_beginning (htokens ▸ List.prefix_append (before ++ [token]) after)
  exact (concat_iff.1 hbefore).2 offence

namespace FirstOffence

variable {source rest : Text} {tokens : List Token} {error other : ParseError}

/-- A source with an offence is not all sound, cut and closed. -/
theorem not_accepted (h : FirstOffence source tokens rest error) :
    ¬ (rest = [] ∧ Sound tokens ∧ Token.count .opening tokens = Token.count .closing tokens) := by
  rintro ⟨hrest, hsound, hcount⟩
  cases h with
  | token htokens _ hoffends => exact hsound.not_offends htokens hoffends
  | character _ hcharacter =>
    rw [hrest] at hcharacter
    cases hcharacter
  | endOfSource _ _ hopen _ => omega

/-- A token has one offence at most. -/
theorem offence_unique {before : List Token} {token : Token} {first second : Offence}
    (hfirst : Offends before token first) (hsecond : Offends before token second) :
    first = second := by
  cases hfirst with
  | opening hkind _ =>
    cases hsecond with
    | opening => rfl
    | closing hother _ =>
      rw [hkind] at hother
      cases hother
  | closing hkind _ =>
    cases hsecond with
    | opening hother _ =>
      rw [hkind] at hother
      cases hother
    | closing => rfl

/-- Of two tokens that offend after sound ones, none comes before the other. -/
theorem before_unique {before after before' after' : List Token} {token token' : Token}
    {offence : Offence} (hsame : before ++ token :: after = before' ++ token' :: after')
    (hoffends : Offends before token offence) (hsound : Sound before') :
    before'.length ≤ before.length := by
  by_contra hlonger
  have hbeginning : before ++ [token] <+: before' := by
    refine List.prefix_of_prefix_length_le ⟨after, (List.append_cons _ _ _).symm⟩
      (hsame ▸ List.prefix_append _ _) ?_
    rw [List.length_append, List.length_singleton]
    omega
  exact (Sound.concat_iff.1 (hsound.of_beginning hbeginning)).2 _ hoffends

/-- A source has one first offence. -/
theorem unique (h : FirstOffence source tokens rest error)
    (hother : FirstOffence source tokens rest other) : error = other := by
  cases h with
  | token htokens hsound hoffends =>
    cases hother with
    | token htokens' hsound' hoffends' =>
      have hsame := htokens.symm.trans htokens'
      have hlength := Nat.le_antisymm (before_unique hsame.symm hoffends' hsound)
        (before_unique hsame hoffends hsound')
      obtain ⟨rfl, hrest⟩ := List.append_inj hsame hlength
      cases hrest
      rw [offence_unique hoffends hoffends']
    | character hsound' _ => exact absurd hoffends (hsound'.not_offends htokens)
    | endOfSource hsound' _ _ _ => exact absurd hoffends (hsound'.not_offends htokens)
  | character hsound hrest =>
    cases hother with
    | token htokens' _ hoffends' => exact absurd hoffends' (hsound.not_offends htokens')
    | character _ hrest' =>
      rw [hrest] at hrest'
      cases hrest'
      rfl
    | endOfSource _ hrest' _ _ =>
      rw [hrest] at hrest'
      cases hrest'
  | endOfSource hsound hrest _ hlast =>
    cases hother with
    | token htokens' _ hoffends' => exact absurd hoffends' (hsound.not_offends htokens')
    | character _ hrest' =>
      rw [hrest] at hrest'
      cases hrest'
    | endOfSource _ _ _ hlast' => rw [Option.mem_unique hlast hlast']

end FirstOffence

namespace Stylesheet

/-- A source is read as the style sheet that its tokens derive, or its first offence is reported. -/
theorem parse_cases (source : Text) :
    (∃ sheet, parse source = .ok sheet ∧ (Lexeme.cut source).2 = [] ∧
      Sentence source (Token.ofSource source) sheet.rules) ∨
    ∃ error, parse source = .error error ∧
      FirstOffence source (Token.ofSource source) (Lexeme.cut source).2 error := by
  have houtcome := ReadingOutcome.cut source
  unfold parse
  dsimp only
  generalize (Lexeme.locate .start (Lexeme.cut source).1).foldlM Reading.take {} = result at houtcome ⊢
  cases houtcome with
  | error htokens hsound hoffends => exact Or.inr ⟨_, rfl, .token htokens hsound hoffends⟩
  | @ok reading hsound hreached =>
    cases hrest : (Lexeme.cut source).2 with
    | nil =>
      have hcount := hreached.count_opening
      cases hblocks : reading.blocks with
      | nil =>
        refine Or.inl ⟨⟨reading.rules⟩, ?_, rfl, hreached.sentence hblocks⟩
        change reading.finish = _
        rw [Reading.finish, hblocks]
      | cons block blocks =>
        rw [hblocks, List.length_cons] at hcount
        obtain ⟨last, hlast⟩ : ∃ last, (Token.ofSource source).getLast? = some last := by
          rw [← Option.isSome_iff_exists, List.getLast?_isSome]
          intro hempty
          rw [hempty] at hcount
          simp at hcount
        refine Or.inr ⟨⟨.endOfSource, reading.last⟩, ?_, ?_⟩
        · change reading.finish = _
          rw [Reading.finish, hblocks]
        · rw [hreached.last last hlast]
          exact .endOfSource hsound rfl (by omega) hlast
    | cons c after =>
      refine Or.inr ⟨_, rfl, ?_⟩
      have hbefore : (Lexeme.cut source).1.flatMap Lexeme.chars =
          source.take (source.length - (c :: after).length) := by
        have hsource := Lexeme.flatMap_chars_cut source
        rw [hrest] at hsource
        conv_rhs => rw [← hsource]
        rw [List.take_left' (by rw [List.length_append, Nat.add_sub_cancel])]
      rw [hbefore, Location.advance_take]
      exact .character hsound rfl

/-- A source that is read is cut to its end, and its tokens derive the rules. -/
theorem sentence_of_parse {source : Text} {sheet : Stylesheet} (h : parse source = .ok sheet) :
    (Lexeme.cut source).2 = [] ∧ Sentence source (Token.ofSource source) sheet.rules := by
  rcases parse_cases source with ⟨sheet', hparse, hrest, hsentence⟩ | ⟨error, hparse, -⟩
  · rw [h] at hparse
    cases hparse
    exact ⟨hrest, hsentence⟩
  · rw [h] at hparse
    cases hparse

/-- A source that is cut to its end and whose braces match is read. -/
theorem exists_parse_of_sound {source : Text} (hrest : (Lexeme.cut source).2 = [])
    (hsound : Sound (Token.ofSource source))
    (hcount : Token.count .opening (Token.ofSource source) =
      Token.count .closing (Token.ofSource source)) :
    ∃ sheet, parse source = .ok sheet := by
  rcases parse_cases source with ⟨sheet, hparse, -⟩ | ⟨error, -, hoffence⟩
  · exact ⟨sheet, hparse⟩
  · exact absurd ⟨hrest, hsound, hcount⟩ hoffence.not_accepted

/-- Reading accepts exactly the sentences of the grammar, with their rules. -/
theorem parse_eq_ok_iff {source : Text} {sheet : Stylesheet} :
    parse source = .ok sheet ↔
      (Lexeme.cut source).2 = [] ∧ Sentence source (Token.ofSource source) sheet.rules := by
  constructor
  · exact sentence_of_parse
  · rintro ⟨hrest, hsentence⟩
    obtain ⟨hsound, hcount⟩ := hsentence.sound
    obtain ⟨sheet', hparse⟩ := exists_parse_of_sound hrest hsound hcount
    have hsame := (sentence_of_parse hparse).2.unique hsentence
    obtain ⟨rules⟩ := sheet
    obtain ⟨rules'⟩ := sheet'
    cases hsame
    exact hparse

/-- A source is refused exactly with its first offence. -/
theorem parse_eq_error_iff {source : Text} {error : ParseError} :
    parse source = .error error ↔
      FirstOffence source (Token.ofSource source) (Lexeme.cut source).2 error := by
  rcases parse_cases source with ⟨sheet, hparse, hrest, hsentence⟩ | ⟨other, hparse, hfirst⟩
  · rw [hparse]
    constructor
    · intro h
      cases h
    · intro h
      exact absurd ⟨hrest, hsentence.sound⟩ h.not_accepted
  · rw [hparse]
    constructor
    · intro h
      cases h
      exact hfirst
    · intro h
      rw [hfirst.unique h]

/-- The terminals cut a source in one way. The grammar's sentences are the sources that are cut to
the end and whose braces match: each opening one comes right after a running text, each closing
one closes a block, and no block stays open. Every other source is refused with its first offence
in reading order. -/
theorem parse_accepts_exactly (source : Text) :
    ∃ lexemes rest, Cut source lexemes rest ∧
      (∀ others ending, Cut source others ending → others = lexemes ∧ ending = rest) ∧
      ((∃ sheet, parse source = .ok sheet) ↔
        rest = [] ∧ Sound (Token.ofLexemes 0 lexemes) ∧
          Token.count .opening (Token.ofLexemes 0 lexemes) =
            Token.count .closing (Token.ofLexemes 0 lexemes)) ∧
      (∀ sheet, parse source = .ok sheet ↔
        rest = [] ∧ Sentence source (Token.ofLexemes 0 lexemes) sheet.rules) ∧
      ∀ error, parse source = .error error ↔
        FirstOffence source (Token.ofLexemes 0 lexemes) rest error := by
  refine ⟨_, _, Lexeme.cut_cut source, ?_, ?_, fun _ => parse_eq_ok_iff,
    fun _ => parse_eq_error_iff⟩
  · intro others ending hcut
    rw [Lexeme.cut_eq_of_cut hcut]
    exact ⟨rfl, rfl⟩
  · constructor
    · rintro ⟨sheet, hparse⟩
      obtain ⟨hrest, hsentence⟩ := sentence_of_parse hparse
      exact ⟨hrest, hsentence.sound⟩
    · rintro ⟨hrest, hsound, hcount⟩
      exact exists_parse_of_sound hrest hsound hcount

end Stylesheet

end ClassLint
