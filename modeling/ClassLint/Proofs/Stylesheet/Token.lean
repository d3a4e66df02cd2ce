import ClassLint.Proofs.Stylesheet.Terminal
import ClassLint.Proofs.Text.Offset

/-!
# Tokens of a source

The grammar of style sheets sees the lexemes of a source without comments and white space. A token
is known by its sort and by the two offsets of the source between which it stands, so that
everything a rule is made of can be read off the source. Tokens follow one another without
overlap.
-/

namespace ClassLint

/-- The sorts of tokens. -/
inductive TokenKind where
  | text
  | semicolon
  | opening
  | closing
  deriving DecidableEq, Repr

/-- The sort of token that a lexeme is; comments and white space are none. -/
def LexemeKind.token? : LexemeKind → Option TokenKind
  | .text => some .text
  | .semicolon => some .semicolon
  | .opening => some .opening
  | .closing => some .closing
  | .comment => none
  | .space => none

/-- A token: its sort, and the offsets where it starts and where it stops. -/
structure Token where
  kind : TokenKind
  start : Nat
  stop : Nat
  deriving DecidableEq, Repr

namespace Token

/-- The token that a lexeme at an offset is; comments and white space are none. -/
def ofLexeme? (offset : Nat) (lexeme : Lexeme) : Option Token :=
  lexeme.kind.token?.map (⟨·, offset, offset + lexeme.chars.length⟩)

/-- The tokens among lexemes of which the first starts at `offset`. -/
def ofLexemes (offset : Nat) : List Lexeme → List Token
  | [] => []
  | lexeme :: rest =>
    (ofLexeme? offset lexeme).toList ++ ofLexemes (offset + lexeme.chars.length) rest

/-- The tokens of a source, as far as it can be cut. -/
def ofSource (source : Text) : List Token := ofLexemes 0 (Lexeme.cut source).1

/-- The number of tokens of a sort. -/
def count (kind : TokenKind) (tokens : List Token) : Nat :=
  tokens.countP fun token => token.kind = kind

/-- The offsets between which a token stands. -/
def Spans (start stop : Nat) (token : Token) : Prop := token.start = start ∧ token.stop = stop

/-- An empty row has no tokens of any kind. -/
@[simp] theorem count_nil (kind : TokenKind) : count kind [] = 0 := rfl

/-- The tokens of a kind in two rows add up. -/
@[simp] theorem count_append (kind : TokenKind) (first second : List Token) :
    count kind (first ++ second) = count kind first + count kind second :=
  List.countP_append

/-- A token in front adds one to the number of its kind. -/
@[simp] theorem count_cons (kind : TokenKind) (token : Token) (rest : List Token) :
    count kind (token :: rest) = count kind rest + if token.kind = kind then 1 else 0 := by
  simp [count, List.countP_cons]

/-- Texts hold no tokens of another sort. -/
theorem count_eq_zero_of_texts {kind : TokenKind} {tokens : List Token}
    (htexts : ∀ token ∈ tokens, token.kind = .text) (hkind : kind ≠ .text) :
    count kind tokens = 0 := by
  refine List.countP_eq_zero.2 fun token htoken => ?_
  rw [htexts token htoken, decide_eq_true_eq]
  exact hkind.symm

/-- A run of tokens reaches from the start of its first to the stop of its last. -/
theorem first_last_of_inOrder {low high : Nat} {tokens : List Token} {first last : Token}
    (h : InOrder Spans low tokens high) (hfirst : first ∈ tokens.head?)
    (hlast : last ∈ tokens.getLast?) :
    low ≤ first.start ∧ first.start ≤ last.stop ∧ last.stop ≤ high := by
  obtain ⟨rest, rfl⟩ := List.head?_eq_some_iff.1 hfirst
  obtain ⟨start, stop, hlow, hstop, ⟨rfl, rfl⟩, hrest⟩ := h
  refine ⟨hlow, ?_⟩
  cases rest with
  | nil =>
    cases hlast
    exact ⟨hstop.le, hrest⟩
  | cons next rest =>
    rw [List.getLast?_cons_cons] at hlast
    obtain ⟨init, heq⟩ := List.getLast?_eq_some_iff.1 hlast
    rw [heq] at hrest
    obtain ⟨middle, hinit, start', stop', hmiddle, hlaststop, ⟨rfl, rfl⟩, hhigh⟩ :=
      hrest.exists_middle
    have hbetween := hinit.low_le_high
    exact ⟨by omega, hhigh⟩

/-- Tokens of lexemes that are not empty stand in order. -/
theorem inOrder_ofLexemes (offset : Nat) {lexemes : List Lexeme}
    (h : ∀ lexeme ∈ lexemes, lexeme.chars ≠ []) :
    InOrder Spans offset (ofLexemes offset lexemes)
      (offset + (lexemes.flatMap Lexeme.chars).length) := by
  induction lexemes generalizing offset with
  | nil => exact Nat.le_refl offset
  | cons lexeme rest ih =>
    have hpositive := List.length_pos_iff.2 (h lexeme List.mem_cons_self)
    have hrest := ih (offset + lexeme.chars.length) fun other hother =>
      h other (List.mem_cons_of_mem _ hother)
    rw [List.flatMap_cons, List.length_append, ← Nat.add_assoc, ofLexemes, ofLexeme?]
    cases lexeme.kind.token? with
    | none => exact hrest.of_le (Nat.le_add_right _ _)
    | some kind =>
      exact ⟨_, _, le_rfl, Nat.lt_add_of_pos_right hpositive, ⟨rfl, rfl⟩, hrest⟩

/-- The tokens of a source stand in order inside it. -/
theorem inOrder_ofSource (source : Text) : InOrder Spans 0 (ofSource source) source.length := by
  refine (inOrder_ofLexemes 0 (Lexeme.ne_nil_of_mem_cut source)).le_of ?_
  have hlength := congrArg List.length (Lexeme.flatMap_chars_cut source)
  rw [List.length_append] at hlength
  omega

end Token

end ClassLint
