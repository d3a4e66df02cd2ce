import ClassLint.Stylesheet.Parse
import ClassLint.Proofs.Stylesheet.Token

/-!
# The grammar of style sheets

A style sheet is a row of rules, statements and single semicolons, then perhaps a chunk; a block
holds the same between its braces. The derivations below carry the rules that they make. Beside
them stands a condition on brace counts and neighbours: a brace opens a block only right after a
running text, and closes one only while one is open. Every derivation meets this condition and has
as many closing as opening braces.
-/

namespace ClassLint

/-- Running texts and the chunk that they make: the source from the start of the first to the
stop of the last, with the comments and the white space between them. -/
structure ChunkOf (source : Text) (tokens : List Token) (chunk : Chunk) : Prop where
  texts : ∀ token ∈ tokens, token.kind = .text
  reach : ∃ first ∈ tokens.head?, ∃ last ∈ tokens.getLast?,
    chunk = ⟨source.slice first.start last.stop, Location.atOffset source first.start⟩

/-- A row of items and the rules among them. An item is a rule, or a semicolon that ends a chunk or
stands alone. -/
inductive Items (source : Text) : List Token → List StyleRule → Prop where
  | nil : Items source [] []
  | statement {texts rest : List Token} {semicolon : Token} {rules : List StyleRule}
      (htexts : ∀ token ∈ texts, token.kind = .text) (hsemicolon : semicolon.kind = .semicolon)
      (hrest : Items source rest rules) : Items source (texts ++ semicolon :: rest) rules
  | rule {texts body tail rest : List Token} {opening closing : Token} {chunk : Chunk}
      {children rules : List StyleRule} (hchunk : ChunkOf source texts chunk)
      (hopening : opening.kind = .opening) (hbody : Items source body children)
      (htail : ∀ token ∈ tail, token.kind = .text) (hclosing : closing.kind = .closing)
      (hrest : Items source rest rules) :
      Items source (texts ++ opening :: (body ++ (tail ++ closing :: rest)))
        (.ofChunk chunk children :: rules)

/-- A whole style sheet and its top-level rules: items, and running texts at the end. -/
def Sentence (source : Text) (tokens : List Token) (rules : List StyleRule) : Prop :=
  ∃ items tail, tokens = items ++ tail ∧ Items source items rules ∧
    ∀ token ∈ tail, token.kind = .text

/-- The offence that a token is after the tokens before it: an opening brace without a running
text right before it, or a closing brace while no block is open. -/
inductive Offends (before : List Token) (token : Token) : Offence → Prop where
  | opening (hkind : token.kind = .opening)
      (htext : ∀ last ∈ before.getLast?, last.kind ≠ .text) : Offends before token .opening
  | closing (hkind : token.kind = .closing)
      (hblock : Token.count .opening before ≤ Token.count .closing before) :
      Offends before token .closing

/-- Tokens without an offence: every opening brace comes right after a running text, and no
beginning of them has more closing than opening braces. -/
structure Sound (tokens : List Token) : Prop where
  opening : ∀ before brace after, tokens = before ++ brace :: after → brace.kind = .opening →
    ∃ last ∈ before.getLast?, last.kind = .text
  closing : ∀ before, before <+: tokens →
    Token.count .closing before ≤ Token.count .opening before

namespace Sound

/-- No tokens, no offence. -/
theorem nil : Sound [] where
  opening before brace after h := by simp at h
  closing before h := by rw [List.prefix_nil.1 h]; exact le_rfl

/-- A beginning of tokens without an offence has none. -/
theorem of_beginning {before tokens : List Token} (h : Sound tokens) (hbefore : before <+: tokens) :
    Sound before where
  opening init brace after heq hkind := by
    obtain ⟨rest, rfl⟩ := hbefore
    exact h.opening init brace (after ++ rest) (by rw [heq]; simp) hkind
  closing init hinit := h.closing init (hinit.trans hbefore)

/-- One more token keeps tokens sound exactly if it is no offence after them. -/
theorem concat_iff {tokens : List Token} {token : Token} :
    Sound (tokens ++ [token]) ↔ Sound tokens ∧ ∀ offence, ¬ Offends tokens token offence := by
  constructor
  · intro h
    refine ⟨h.of_beginning (List.prefix_append _ _), ?_⟩
    rintro offence (⟨hkind, htext⟩ | ⟨hkind, hblock⟩)
    · obtain ⟨last, hlast, hlasttext⟩ := h.opening tokens token [] rfl hkind
      exact htext last hlast hlasttext
    · have hcount := h.closing _ List.prefix_rfl
      simp only [Token.count_append, Token.count_cons, Token.count_nil, hkind] at hcount
      simp at hcount
      omega
  · rintro ⟨h, hoffence⟩
    refine ⟨?_, ?_⟩
    · intro before brace after heq hkind
      rcases List.eq_nil_or_concat after with rfl | ⟨after, last, rfl⟩
      · obtain ⟨rfl, hbrace⟩ := List.append_inj' heq rfl
        cases hbrace
        by_contra hnone
        refine hoffence _ (.opening hkind fun last hlast hlasttext => ?_)
        exact hnone ⟨last, hlast, hlasttext⟩
      · rw [List.concat_eq_append, ← List.cons_append, ← List.append_assoc] at heq
        exact h.opening before brace after (List.append_inj' heq rfl).1 hkind
    · intro before hbefore
      rcases List.prefix_concat_iff.1 hbefore with rfl | hbefore
      · have hcount := h.closing tokens List.prefix_rfl
        have hclosing : token.kind = .closing →
            Token.count .closing tokens < Token.count .opening tokens := by
          intro hkind
          by_contra hle
          exact hoffence _ (.closing hkind (Nat.not_lt.1 hle))
        simp only [Token.count_append, Token.count_cons, Token.count_nil]
        split
        · rename_i hkind
          have := hclosing hkind
          omega
        · omega
      · exact h.closing before hbefore

/-- Running texts are no offence. -/
theorem append_texts {tokens texts : List Token} (h : Sound tokens)
    (htexts : ∀ token ∈ texts, token.kind = .text) : Sound (tokens ++ texts) := by
  induction texts generalizing tokens with
  | nil => rwa [List.append_nil]
  | cons text rest ih =>
    rw [List.append_cons]
    refine ih (concat_iff.2 ⟨h, ?_⟩) fun token htoken => htexts token (List.mem_cons_of_mem _ htoken)
    rintro offence (⟨hkind, -⟩ | ⟨hkind, -⟩) <;>
      rw [htexts text List.mem_cons_self] at hkind <;> cases hkind

/-- A semicolon is no offence. -/
theorem append_semicolon {tokens : List Token} {semicolon : Token} (h : Sound tokens)
    (hkind : semicolon.kind = .semicolon) : Sound (tokens ++ [semicolon]) := by
  refine concat_iff.2 ⟨h, ?_⟩
  rintro offence (⟨hother, -⟩ | ⟨hother, -⟩) <;> rw [hkind] at hother <;> cases hother

end Sound

namespace ChunkOf

variable {source : Text} {tokens : List Token} {chunk : Chunk}

/-- A chunk is made of at least one running text, and the last of them ends its tokens. -/
theorem exists_last (h : ChunkOf source tokens chunk) (before : List Token) :
    ∃ last ∈ (before ++ tokens).getLast?, last.kind = .text := by
  obtain ⟨first, hfirst, last, hlast, -⟩ := h.reach
  refine ⟨last, ?_, h.texts last (List.mem_of_mem_getLast? hlast)⟩
  rw [List.getLast?_append]
  simp [Option.mem_def.1 hlast]

/-- Running texts make one chunk only. -/
theorem unique {other : Chunk} (h : ChunkOf source tokens chunk)
    (hother : ChunkOf source tokens other) : chunk = other := by
  obtain ⟨first, hfirst, last, hlast, rfl⟩ := h.reach
  obtain ⟨first', hfirst', last', hlast', rfl⟩ := hother.reach
  rw [Option.mem_unique hfirst hfirst', Option.mem_unique hlast hlast']

end ChunkOf

namespace Items

variable {source : Text} {tokens : List Token} {rules : List StyleRule}

/-- Two rows of items make one. -/
theorem append {others : List Token} {otherRules : List StyleRule}
    (h : Items source tokens rules) (hothers : Items source others otherRules) :
    Items source (tokens ++ others) (rules ++ otherRules) := by
  induction h with
  | nil => exact hothers
  | statement htexts hsemicolon _ ih =>
    rw [List.append_assoc, List.cons_append]
    exact .statement htexts hsemicolon ih
  | rule hchunk hopening hbody htail hclosing _ _ ih =>
    simp only [List.append_assoc, List.cons_append]
    exact .rule hchunk hopening hbody htail hclosing ih

/-- Items close every block that they open. -/
theorem count_opening (h : Items source tokens rules) :
    Token.count .opening tokens = Token.count .closing tokens := by
  induction h with
  | nil => rfl
  | statement htexts hsemicolon _ ih =>
    simp [hsemicolon, ih, Token.count_eq_zero_of_texts htexts]
  | rule hchunk hopening _ htail hclosing _ ihbody ihrest =>
    simp only [Token.count_append, Token.count_cons, hopening, hclosing, ihbody, ihrest]
    simp [Token.count_eq_zero_of_texts hchunk.texts, Token.count_eq_zero_of_texts htail]
    omega

/-- Items do not end with a running text. -/
theorem getLast?_ne_text (h : Items source tokens rules) :
    ∀ last ∈ tokens.getLast?, last.kind ≠ .text := by
  have hended (before : List Token) {rest : List Token} {token : Token}
      (hkind : token.kind ≠ .text) (hrest : ∀ last ∈ rest.getLast?, last.kind ≠ .text) :
      ∀ last ∈ (before ++ token :: rest).getLast?, last.kind ≠ .text := by
    intro last hlast
    rw [List.getLast?_append_cons] at hlast
    cases rest with
    | nil =>
      cases hlast
      exact hkind
    | cons next rest =>
      rw [List.getLast?_cons_cons] at hlast
      exact hrest last hlast
  induction h with
  | nil => simp
  | statement _ hsemicolon _ ih => exact hended _ (by rw [hsemicolon]; decide) ih
  | @rule texts body tail rest opening closing _ _ _ _ _ _ _ hclosing _ _ ih =>
    have hsame : texts ++ opening :: (body ++ (tail ++ closing :: rest)) =
        (texts ++ opening :: (body ++ tail)) ++ closing :: rest := by simp
    rw [hsame]
    exact hended _ (by rw [hclosing]; decide) ih

/-- Items are no offence after tokens that are none. -/
theorem sound {before : List Token} (h : Items source tokens rules) (hbefore : Sound before) :
    Sound (before ++ tokens) := by
  induction h generalizing before with
  | nil => rwa [List.append_nil]
  | statement htexts hsemicolon _ ih =>
    rw [← List.append_assoc, List.append_cons]
    exact ih ((hbefore.append_texts htexts).append_semicolon hsemicolon)
  | @rule texts body tail rest opening closing _ _ _ hchunk hopening hbody htail hclosing _
      ihbody ihrest =>
    have hopened : Sound (before ++ texts ++ [opening]) := by
      refine Sound.concat_iff.2 ⟨hbefore.append_texts hchunk.texts, ?_⟩
      rintro offence (⟨-, htext⟩ | ⟨hkind, -⟩)
      · obtain ⟨last, hlast, hlasttext⟩ := hchunk.exists_last before
        exact htext last hlast hlasttext
      · rw [hopening] at hkind
        cases hkind
    have hinside : Sound (before ++ texts ++ [opening] ++ body ++ tail) :=
      (ihbody hopened).append_texts htail
    have hclosed : Sound (before ++ texts ++ [opening] ++ body ++ tail ++ [closing]) := by
      refine Sound.concat_iff.2 ⟨hinside, ?_⟩
      rintro offence (⟨hkind, -⟩ | ⟨-, hblock⟩)
      · rw [hclosing] at hkind
        cases hkind
      · have hcount := hbefore.closing before List.prefix_rfl
        have hbalanced := hbody.count_opening
        simp [hopening, Token.count_eq_zero_of_texts hchunk.texts,
          Token.count_eq_zero_of_texts htail] at hblock
        omega
    simpa using ihrest hclosed

end Items

/-- Running texts before a token of another sort, or before the end, are determined. -/
theorem texts_append_inj {first second firstRest secondRest : List Token}
    (hfirst : ∀ token ∈ first, token.kind = .text)
    (hsecond : ∀ token ∈ second, token.kind = .text)
    (hfirstRest : ∀ token ∈ firstRest.head?, token.kind ≠ .text)
    (hsecondRest : ∀ token ∈ secondRest.head?, token.kind ≠ .text)
    (h : first ++ firstRest = second ++ secondRest) : first = second ∧ firstRest = secondRest := by
  induction first generalizing second with
  | nil =>
    cases second with
    | nil => exact ⟨rfl, h⟩
    | cons token second =>
      rw [List.nil_append] at h
      exact absurd (hsecond token List.mem_cons_self) (hfirstRest token (by rw [h]; rfl))
  | cons token first ih =>
    cases second with
    | nil =>
      rw [List.nil_append] at h
      exact absurd (hfirst token List.mem_cons_self) (hsecondRest token (by rw [← h]; rfl))
    | cons other second =>
      obtain ⟨rfl, hrest⟩ := List.cons.inj h
      obtain ⟨rfl, rfl⟩ := ih (fun t ht => hfirst t (List.mem_cons_of_mem _ ht))
        (fun t ht => hsecond t (List.mem_cons_of_mem _ ht)) hrest
      exact ⟨rfl, rfl⟩

/-- Running texts before a token of another sort are determined, and so is that token. -/
theorem texts_append_cons_inj {first second firstRest secondRest : List Token}
    {firstToken secondToken : Token} (hfirst : ∀ token ∈ first, token.kind = .text)
    (hsecond : ∀ token ∈ second, token.kind = .text) (hfirstToken : firstToken.kind ≠ .text)
    (hsecondToken : secondToken.kind ≠ .text)
    (h : first ++ firstToken :: firstRest = second ++ secondToken :: secondRest) :
    first = second ∧ firstToken = secondToken ∧ firstRest = secondRest := by
  have hhead {token : Token} {rest : List Token} (hkind : token.kind ≠ .text) :
      ∀ other ∈ (token :: rest).head?, other.kind ≠ .text := by
    rintro other ⟨⟩
    exact hkind
  obtain ⟨hsame, hrest⟩ :=
    texts_append_inj hfirst hsecond (hhead hfirstToken) (hhead hsecondToken) h
  exact ⟨hsame, List.cons.inj hrest⟩

/-- A whole style sheet has no offence and closes every block. -/
theorem Sentence.sound {source : Text} {tokens : List Token} {rules : List StyleRule}
    (h : Sentence source tokens rules) :
    Sound tokens ∧ Token.count .opening tokens = Token.count .closing tokens := by
  obtain ⟨items, tail, rfl, hitems, htail⟩ := h
  constructor
  · exact (hitems.sound Sound.nil).append_texts htail
  · simp [hitems.count_opening, Token.count_eq_zero_of_texts htail]

/-- What stands behind the items of a block: running texts, then the closing brace of the block or
the end of the source. -/
def Behind (tokens : List Token) : Prop :=
  ∃ texts rest, tokens = texts ++ rest ∧ (∀ token ∈ texts, token.kind = .text) ∧
    ∀ token ∈ rest.head?, token.kind = .closing

/-- Behind the items of a block stands its closing brace. -/
theorem Behind.closing {texts after : List Token} {token : Token}
    (htexts : ∀ other ∈ texts, other.kind = .text) (hkind : token.kind = .closing) :
    Behind (texts ++ token :: after) := by
  refine ⟨texts, token :: after, rfl, htexts, ?_⟩
  rintro other ⟨⟩
  exact hkind

/-- Behind the items of a source stand running texts. -/
theorem Behind.texts {texts : List Token} (htexts : ∀ other ∈ texts, other.kind = .text) :
    Behind texts :=
  ⟨texts, [], (List.append_nil _).symm, htexts, by simp⟩

/-- Behind items no item follows. -/
theorem Behind.ne_append {tokens others after : List Token} {token : Token} (h : Behind tokens)
    (hothers : ∀ other ∈ others, other.kind = .text)
    (hkind : token.kind = .semicolon ∨ token.kind = .opening) :
    tokens ≠ others ++ token :: after := by
  rintro rfl
  obtain ⟨texts, rest, heq, htexts, hclosing⟩ := h
  have hrest : ∀ other ∈ rest.head?, other.kind ≠ .text := by
    intro other hother
    rw [hclosing other hother]
    decide
  have hafter : ∀ other ∈ (token :: after).head?, other.kind ≠ .text := by
    rintro other ⟨⟩ htext
    rw [htext] at hkind
    simp at hkind
  obtain ⟨-, hsame⟩ := texts_append_inj hothers htexts hafter hrest heq
  have htoken := hclosing token (by rw [← hsame]; rfl)
  rw [htoken] at hkind
  simp at hkind

/-- The grammar is unambiguous: the tokens determine the items and their rules. -/
theorem Items.unique {source : Text} {tokens others behind otherBehind : List Token}
    {rules otherRules : List StyleRule} (h : Items source tokens rules)
    (hothers : Items source others otherRules) (hbehind : Behind behind)
    (hotherBehind : Behind otherBehind) (heq : tokens ++ behind = others ++ otherBehind) :
    tokens = others ∧ rules = otherRules := by
  -- A body is followed by its own closing brace, so what stands behind varies in the induction.
  induction h generalizing others otherRules behind otherBehind with
  | nil =>
    cases hothers with
    | nil => exact ⟨rfl, rfl⟩
    | statement htexts hsemicolon _ =>
      rw [List.append_assoc] at heq
      exact absurd heq (hbehind.ne_append htexts (Or.inl hsemicolon))
    | rule hchunk hopening _ _ _ _ =>
      rw [List.append_assoc] at heq
      exact absurd heq (hbehind.ne_append hchunk.texts (Or.inr hopening))
  | statement htexts hsemicolon _ ih =>
    rw [List.append_assoc] at heq
    cases hothers with
    | nil => exact absurd heq.symm (hotherBehind.ne_append htexts (Or.inl hsemicolon))
    | statement htexts' hsemicolon' hrest' =>
      rw [List.append_assoc] at heq
      obtain ⟨rfl, rfl, hsame⟩ := texts_append_cons_inj htexts htexts'
        (by rw [hsemicolon]; decide) (by rw [hsemicolon']; decide) heq
      obtain ⟨rfl, rfl⟩ := ih hrest' hbehind hotherBehind hsame
      exact ⟨rfl, rfl⟩
    | rule hchunk' hopening' _ _ _ _ =>
      rw [List.append_assoc] at heq
      obtain ⟨-, rfl, -⟩ := texts_append_cons_inj htexts hchunk'.texts
        (by rw [hsemicolon]; decide) (by rw [hopening']; decide) heq
      rw [hsemicolon] at hopening'
      cases hopening'
  | rule hchunk hopening _ htail hclosing _ ihbody ihrest =>
    simp only [List.append_assoc, List.cons_append] at heq
    cases hothers with
    | nil => exact absurd heq.symm (hotherBehind.ne_append hchunk.texts (Or.inr hopening))
    | statement htexts' hsemicolon' _ =>
      rw [List.append_assoc] at heq
      obtain ⟨-, rfl, -⟩ := texts_append_cons_inj hchunk.texts htexts'
        (by rw [hopening]; decide) (by rw [hsemicolon']; decide) heq
      rw [hopening] at hsemicolon'
      cases hsemicolon'
    | rule hchunk' hopening' hbody' htail' hclosing' hrest' =>
      simp only [List.append_assoc, List.cons_append] at heq
      obtain ⟨rfl, rfl, hinside⟩ := texts_append_cons_inj hchunk.texts hchunk'.texts
        (by rw [hopening]; decide) (by rw [hopening']; decide) heq
      obtain ⟨rfl, rfl⟩ := ihbody hbody' (.closing htail hclosing) (.closing htail' hclosing') hinside
      obtain ⟨rfl, rfl, hafter⟩ := texts_append_cons_inj htail htail'
        (by rw [hclosing]; decide) (by rw [hclosing']; decide) (List.append_cancel_left hinside)
      obtain ⟨rfl, rfl⟩ := ihrest hrest' hbehind hotherBehind hafter
      rw [hchunk.unique hchunk']
      exact ⟨rfl, rfl⟩

/-- Tokens are a style sheet with one list of rules at most. -/
theorem Sentence.unique {source : Text} {tokens : List Token} {rules others : List StyleRule}
    (h : Sentence source tokens rules) (hothers : Sentence source tokens others) :
    rules = others := by
  obtain ⟨items, tail, rfl, hitems, htail⟩ := h
  obtain ⟨items', tail', heq, hitems', htail'⟩ := hothers
  exact (hitems.unique hitems' (.texts htail) (.texts htail') heq).2

end ClassLint
