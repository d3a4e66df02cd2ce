import ClassLint.Proofs.Pattern.Written
import Mathlib.Data.List.TakeWhile

/-!
# Reading pieces

What the reader finds at the start of pieces that are given as texts: characters of a kind, names,
and the bounds of a repeat. What could go on a piece is told by the margin of the pieces after it,
and no pieces start with bounds unless their margin does.
-/

namespace ClassLint

open PatternToken (bare bareText)

namespace PatternToken

/-- A character that stands alone is of its own kinds. -/
@[simp] theorem isOf_bare (c : Char) (kind : Char → Bool) : (bare c).isOf kind = kind c := rfl

/-- A character that stands alone is only itself. -/
@[simp] theorem is_bare (c d : Char) : (bare c).is d = (c == d) := rfl

/-- No character stands alone and after a backslash at once. -/
theorem bare_ne_behindBackslash (c d : Char) : bare c ≠ behindBackslash d := by
  rintro ⟨⟩

/-- A piece of some kind is a character of this kind that stands alone. -/
theorem eq_bare_of_isOf {token : PatternToken} {kind : Char → Bool} (h : token.isOf kind = true) :
    token = bare token.char ∧ kind token.char = true := by
  obtain ⟨escaped, c⟩ := token
  cases escaped with
  | false => exact ⟨rfl, h⟩
  | true => cases h

/-- A piece that is a given character is this character, standing alone. -/
theorem eq_bare_of_is {token : PatternToken} {c : Char} (h : token.is c = true) :
    token = bare c := by
  have hkind : token.isOf (· == c) = true := h
  obtain ⟨htoken, hc⟩ := eq_bare_of_isOf hkind
  rw [htoken, eq_of_beq hc]

/-- No characters are no pieces. -/
@[simp] theorem bareText_nil : bareText [] = [] := rfl

/-- The first character of a text is its first piece. -/
@[simp] theorem bareText_cons (c : Char) (text : Text) :
    bareText (c :: text) = bare c :: bareText text := rfl

/-- The pieces of two texts in a row are those of the first and those of the second. -/
@[simp] theorem bareText_append (text rest : Text) :
    bareText (text ++ rest) = bareText text ++ bareText rest := List.map_append

end PatternToken

/-! ## Taking pieces -/

/-- Pieces do not start with a character of a kind that stands alone. -/
def Stops (kind : Char → Bool) (tokens : List PatternToken) : Prop :=
  ∀ token ∈ tokens.head?, token.isOf kind = false

namespace Pieces

variable {position : Nat} {next : List PatternToken} {kind : Char → Bool}

/-- A character that comes next is skipped. -/
theorem skip?_bare (c : Char) :
    skip? ⟨position, bare c :: next⟩ c = some ⟨position + 1, next⟩ := by
  simp [skip?, next?, PatternToken.width, bare, PatternToken.is]

/-- A character that does not come next is not skipped. -/
theorem skip?_of_stops {c : Char} (h : Stops (· == c) next) : skip? ⟨position, next⟩ c = none := by
  cases next with
  | nil => rfl
  | cons token next =>
    have htoken : token.is c = false := h token rfl
    simp [skip?, next?, htoken]

/-- A character stands at the start of pieces, or it does not. -/
theorem exists_cons_or_stops (c : Char) (tokens : List PatternToken) :
    (∃ rest, tokens = bare c :: rest) ∨ Stops (· == c) tokens := by
  cases tokens with
  | nil => exact .inr nofun
  | cons token rest =>
    cases htoken : token.is c with
    | false => exact .inr (by rintro _ ⟨⟩; exact htoken)
    | true => exact .inl ⟨rest, by rw [PatternToken.eq_bare_of_is htoken]⟩

/-- The characters of a kind are read, if there are as many as can be read or others follow. -/
theorem span_bareText {text : Text} {most : Nat} (htext : ∀ c ∈ text, kind c = true)
    (hmost : text.length = most ∨ text.length ≤ most ∧ Stops kind next) :
    span ⟨position, bareText text ++ next⟩ most kind = (text, ⟨position + text.length, next⟩) := by
  have htake : ((bareText text ++ next).take most).takeWhile (fun token => token.isOf kind) =
      bareText text := by
    have hall : ∀ token ∈ bareText text, token.isOf kind = true := by
      simpa [bareText, bare, PatternToken.isOf] using htext
    have hlength : (bareText text).length = text.length := List.length_map _
    obtain hmost | ⟨hmost, hstops⟩ := hmost
    · rw [← hmost, ← hlength, List.take_left, List.takeWhile_eq_self_iff.2 hall]
    · rw [List.take_append, List.take_of_length_le (by omega), List.takeWhile_append_of_pos hall]
      cases next with
      | nil => simp
      | cons token next =>
        have htoken : token.isOf kind = false := hstops token rfl
        cases most - (bareText text).length <;> simp [htoken]
  have hchars : (bareText text).map (·.char) = text := by
    rw [bareText, List.map_map]
    exact List.map_id text
  rw [span]
  simp only [htake, hchars, drop, Prod.mk.injEq, true_and, Pieces.mk.injEq]
  exact List.drop_left' (List.length_map _)

/-- Pieces are characters of a kind followed by others. -/
theorem exists_bareText (kind : Char → Bool) (tokens : List PatternToken) :
    ∃ text rest, tokens = bareText text ++ rest ∧ (∀ c ∈ text, kind c = true) ∧
      Stops kind rest := by
  induction tokens with
  | nil => exact ⟨[], [], rfl, nofun, nofun⟩
  | cons token tokens ih =>
    cases htoken : token.isOf kind with
    | false =>
      refine ⟨[], token :: tokens, rfl, nofun, ?_⟩
      rintro _ ⟨⟩
      exact htoken
    | true =>
      obtain ⟨text, rest, rfl, htext, hrest⟩ := ih
      obtain ⟨hbare, hc⟩ := PatternToken.eq_bare_of_isOf htoken
      refine ⟨token.char :: text, rest, ?_, List.forall_mem_cons.2 ⟨hc, htext⟩, hrest⟩
      rw [PatternToken.bareText_cons, ← hbare, List.cons_append]

/-- A run of characters of a kind is read to its end, where another kind of piece comes. -/
theorem spanAll_bareText {text : Text} (htext : ∀ c ∈ text, kind c = true)
    (hstops : Stops kind next) : spanAll ⟨position, bareText text ++ next⟩ kind =
      (text, ⟨position + text.length, next⟩) := by
  refine span_bareText htext (.inr ⟨?_, hstops⟩)
  simp [bareText]

/-- The characters before a closer are read, and the closer is taken. -/
theorem spanTo_bareText {text : Text} {closer : Char} (htext : ∀ c ∈ text, c ≠ closer) :
    spanTo ⟨position, bareText text ++ bare closer :: next⟩ closer =
      (text, some ⟨position + text.length + 1, next⟩) := by
  have hbefore : (bareText text ++ bare closer :: next).takeWhile (fun token => !token.is closer) =
      bareText text := by
    rw [List.takeWhile_append_of_pos]
    · simp
    · simpa [bareText, bare, PatternToken.is] using htext
  have hchars : (bareText text).flatMap PatternToken.text = text := by
    rw [bareText, List.flatMap_map]
    exact List.flatMap_singleton' text
  rw [spanTo]
  simp only [hbefore, hchars, List.drop_left, skip?_bare]

end Pieces

namespace Regex

variable {next : List PatternToken} {kind : Char → Bool}

/-- Pieces that have no margin add nothing to that of the pieces before them. -/
theorem margin_append_of_margin_eq_nil {tokens : List PatternToken} (h : margin next = []) :
    margin (tokens ++ next) = margin tokens := by
  rw [margin, List.map_eq_nil_iff] at h
  rw [margin, margin, List.takeWhile_append, h]
  split
  next hall =>
    rw [List.append_nil, (List.takeWhile_prefix _).eq_of_length hall]
  next => rfl

/-- A character that belongs to no margin ends the margin. -/
theorem margin_bare_cons_of_not_isMargin {c : Char} (h : isMargin c = false) :
    margin (bare c :: next) = [] := by
  simp [margin, h]

/-- A character of a margin belongs to it, and the margin goes on after it. -/
theorem margin_bare_cons_of_isMargin {c : Char} (h : isMargin c = true) :
    margin (bare c :: next) = c :: margin next := by
  rw [margin, List.takeWhile_cons, PatternToken.isOf_bare, if_pos h]
  rfl

/-- A text of margin characters belongs to the margin, which goes on after it. -/
theorem margin_bareText_append {text : Text} (h : ∀ c ∈ text, isMargin c = true) :
    margin (bareText text ++ next) = text ++ margin next := by
  induction text with
  | nil => rfl
  | cons c text ih =>
    obtain ⟨hc, htext⟩ := List.forall_mem_cons.1 h
    rw [PatternToken.bareText_cons, List.cons_append, margin_bare_cons_of_isMargin hc, ih htext,
      List.cons_append]

/-- What could go on a piece can be told from the margin. -/
theorem stops_of_margin (hkind : ∀ c, kind c = true → isMargin c = true)
    (h : ∀ c ∈ (margin next).head?, kind c = false) : Stops kind next := by
  intro token htoken
  obtain ⟨rest, rfl⟩ := List.head?_eq_some_iff.1 htoken
  by_contra hne
  obtain ⟨hbare, hc⟩ := PatternToken.eq_bare_of_isOf (Bool.not_eq_false _ ▸ hne)
  have hhead : (margin (token :: rest)).head? = some token.char := by
    rw [hbare, margin_bare_cons_of_isMargin (hkind _ hc)]
    rfl
  exact absurd hc (Bool.not_eq_true _ ▸ h _ hhead)

end Regex

namespace PatternReader

open Regex (Bounds StartsBounds isMargin margin margin_bareText_append)

/-- Reading gives a value and leaves some pieces, at whichever position. -/
def Gives {α : Type} (result : Except PatternFault (α × Pieces)) (value : α)
    (next : List PatternToken) : Prop :=
  ∃ position, result = .ok (value, ⟨position, next⟩)

variable {next : List PatternToken} {position : Nat}

/-- A function of the value that is read leaves the same pieces. -/
theorem Gives.map {α β : Type} {result : Except PatternFault (α × Pieces)} {value : α}
    (h : Gives result value next) (f : α → β) :
    Gives (result.map fun (value, rest) => (f value, rest)) (f value) next := by
  obtain ⟨position, rfl⟩ := h
  exact ⟨position, rfl⟩

/-! ## Bounds -/

/-- Digits belong to margins. -/
theorem isMargin_of_isDigit {c : Char} (h : c.isDigit = true) : isMargin c = true := by
  rw [isMargin, h, Bool.true_or, Bool.true_or]

/-- The margin of pieces that start with bounds and a closing brace starts with them too. -/
theorem startsBounds_margin {bounds : Bounds} (h : bounds.IsDigits) (next : List PatternToken) :
    StartsBounds (margin (bareText (bounds.text ++ ['\x7d']) ++ next)) := by
  refine ⟨bounds, h, margin next, (margin_bareText_append ?_).symm⟩
  have hdigits {digits : Text} (hdigits : ∀ c ∈ digits, c.isDigit = true) :
      ∀ c ∈ digits, isMargin c = true :=
    fun c hc => isMargin_of_isDigit (hdigits c hc)
  cases bounds with
  | exactly digits =>
    rw [Bounds.text, List.forall_mem_append]
    exact ⟨hdigits h.2, List.forall_mem_singleton.2 rfl⟩
  | between low high =>
    rw [Bounds.text, List.forall_mem_append, List.forall_mem_append, List.forall_mem_cons]
    exact ⟨⟨hdigits h.1, rfl, hdigits h.2⟩, List.forall_mem_singleton.2 rfl⟩

/-- Bounds and the brace that closes them are read as the digits of the bounds. -/
theorem gives_bounds {bounds : Bounds} (h : bounds.IsDigits) (position : Nat)
    (next : List PatternToken) :
    ∃ after, bounds? ⟨position, bareText (bounds.text ++ ['\x7d']) ++ next⟩ =
      some ((bounds.low, bounds.high), ⟨after, next⟩) := by
  have hbrace (kind : Char → Bool) (hkind : kind '\x7d' = false) (rest : List PatternToken) :
      Stops kind (bare '\x7d' :: rest) := by
    rintro _ ⟨⟩
    exact hkind
  cases bounds with
  | exactly digits =>
    have htokens : bareText ((Bounds.exactly digits).text ++ ['\x7d']) ++ next =
        bareText digits ++ bare '\x7d' :: next := by simp [Bounds.text]
    have hdigits : digits.isEmpty = false := List.isEmpty_eq_false_iff.2 h.1
    refine ⟨position + digits.length + 1, ?_⟩
    rw [htokens, bounds?, Pieces.spanAll_bareText h.2 (hbrace _ rfl _)]
    simp only [Pieces.skip?_of_stops (hbrace (· == ',') rfl _), hdigits, Bool.false_eq_true,
      ↓reduceIte, Pieces.skip?_bare, Option.map_some, Bounds.low, Bounds.high]
  | between low high =>
    have htokens : bareText ((Bounds.between low high).text ++ ['\x7d']) ++ next =
        bareText low ++ bare ',' :: (bareText high ++ bare '\x7d' :: next) := by simp [Bounds.text]
    have hcomma : Stops Char.isDigit (bare ',' :: (bareText high ++ bare '\x7d' :: next)) := by
      rintro _ ⟨⟩
      rfl
    refine ⟨position + low.length + 1 + high.length + 1, ?_⟩
    rw [htokens, bounds?, Pieces.spanAll_bareText h.1 hcomma]
    simp only [Pieces.skip?_bare, Pieces.spanAll_bareText h.2 (hbrace _ rfl _), Option.map_some,
      Bounds.low, Bounds.high]

/-- A brace before pieces whose margin starts with no bounds starts no repeat. -/
theorem bounds?_eq_none (h : ¬ StartsBounds (margin next)) : bounds? ⟨position, next⟩ = none := by
  -- the pieces are cut after the digits; what comes next there decides whether they are bounds
  obtain ⟨low, afterLow, rfl, hlow, hstops⟩ := Pieces.exists_bareText Char.isDigit next
  rw [bounds?, Pieces.spanAll_bareText hlow hstops]
  obtain ⟨afterComma, rfl⟩ | hcomma := Pieces.exists_cons_or_stops ',' afterLow
  · obtain ⟨high, afterHigh, rfl, hhigh, hstops⟩ := Pieces.exists_bareText Char.isDigit afterComma
    simp only [Pieces.skip?_bare, Pieces.spanAll_bareText hhigh hstops, Option.map_eq_none_iff]
    obtain ⟨rest, rfl⟩ | hbrace := Pieces.exists_cons_or_stops '\x7d' afterHigh
    · refine absurd ?_ h
      have hdigits : (Bounds.between low high).IsDigits := ⟨hlow, hhigh⟩
      have hbounds := startsBounds_margin hdigits rest
      simpa [Bounds.text] using hbounds
    · exact Pieces.skip?_of_stops hbrace
  · simp only [Pieces.skip?_of_stops hcomma]
    split
    next => rfl
    next hne =>
      rw [Option.map_eq_none_iff]
      obtain ⟨rest, rfl⟩ | hbrace := Pieces.exists_cons_or_stops '\x7d' afterLow
      · refine absurd ?_ h
        have hdigits : (Bounds.exactly low).IsDigits := ⟨fun hnil => hne (by rw [hnil]; rfl), hlow⟩
        have hbounds := startsBounds_margin hdigits rest
        simpa [Bounds.text] using hbounds
      · exact Pieces.skip?_of_stops hbrace

end PatternReader

end ClassLint
