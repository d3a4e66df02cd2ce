import ClassLint.Text.Blank
import ClassLint.Text.Location
import ClassLint.Scan.Nesting

/-!
# Lexemes of a style sheet

A style sheet is cut into running text, semicolons, braces, comments and white space. Running
text starts with a character that is not blank and goes on to the next brace, semicolon or
comment; white space after it belongs to it. A string inside running text is taken whole: it ends
at its quote, on its own line, with a backslash taking the next character along. A quote that
starts no complete string, a comment that is never closed, and a blank that is not white space of
style sheets where a lexeme must start, all end the cut.
-/

namespace ClassLint

/-- The sorts of lexemes. -/
inductive LexemeKind where
  | text
  | semicolon
  | opening
  | closing
  | comment
  | space
  deriving DecidableEq, Repr

/-- A lexeme: its sort and its characters. -/
structure Lexeme where
  kind : LexemeKind
  chars : Text
  deriving DecidableEq, Repr

namespace Lexeme

/-- Whether a string opened by `quote` is closed in the text after it, before its line ends. -/
def closesString (quote : Char) : Text → Bool
  | [] => false
  | '\\' :: _ :: rest => closesString quote rest
  | c :: rest =>
    if c = quote then true
    else if c = '\n' || c = '\\' then false
    else closesString quote rest

/-- A character that ends running text wherever it stands outside a string. -/
def isDelimiter (c : Char) : Bool := c == '\x7b' || c == '\x7d' || c == ';'

/-- Put a character before the first of two texts. -/
def pushFirst (c : Char) (texts : Text × Text) : Text × Text := (c :: texts.1, texts.2)

/-- Running text up to the first character that ends it, and what follows; `quote` is open. -/
def spanText : Option Char → Text → Text × Text
  | _, [] => ([], [])
  | none, '/' :: '*' :: rest => ([], '/' :: '*' :: rest)
  | none, c :: rest =>
    if isDelimiter c then ([], c :: rest)
    else if Nesting.isQuote c then
      if closesString c rest then pushFirst c (spanText (some c) rest) else ([], c :: rest)
    else pushFirst c (spanText none rest)
  | some quote, '\\' :: c :: rest => pushFirst '\\' (pushFirst c (spanText (some quote) rest))
  | some quote, c :: rest =>
    pushFirst c (spanText (if c = quote then none else some quote) rest)

/-- The rest of a comment with the marker that closes it, and what follows. -/
def spanComment? : Text → Option (Text × Text)
  | [] => none
  | '*' :: '/' :: rest => some (['*', '/'], rest)
  | c :: rest => (spanComment? rest).map (pushFirst c)

/-- The white space that starts a text, and what follows. -/
def spanSpace (text : Text) : Text × Text :=
  (text.takeWhile Text.isSheetSpace, text.dropWhile Text.isSheetSpace)

/-- The running text that starts a text, and what follows. -/
def text? (text : Text) : Option (Lexeme × Text) :=
  match spanText none text with
  | ([], _) => none
  | (first :: body, after) => some (⟨.text, first :: body⟩, after)

/-- The comment after whose opening marker `rest` stands, and what follows. -/
def comment? (rest : Text) : Option (Lexeme × Text) :=
  (spanComment? rest).map fun (body, after) => (⟨.comment, '/' :: '*' :: body⟩, after)

/-- The lexeme that starts a text, and what follows; none where no lexeme starts. -/
def next? : Text → Option (Lexeme × Text)
  | [] => none
  | '/' :: '*' :: rest => comment? rest
  | c :: rest =>
    if c = ';' then some (⟨.semicolon, [c]⟩, rest)
    else if c = '\x7b' then some (⟨.opening, [c]⟩, rest)
    else if c = '\x7d' then some (⟨.closing, [c]⟩, rest)
    else if Text.isSheetSpace c then some (⟨.space, c :: (spanSpace rest).1⟩, (spanSpace rest).2)
    else if Text.isBlank c then none
    else text? (c :: rest)

/-- Running text and what follows it make up the text. -/
theorem spanText_append (quote : Option Char) (text : Text) :
    (spanText quote text).1 ++ (spanText quote text).2 = text := by
  fun_induction spanText quote text <;> simp_all [pushFirst]

/-- The rest of a comment and what follows it make up the text. -/
theorem spanComment?_append {text body after : Text} (h : spanComment? text = some (body, after)) :
    body ++ after = text := by
  fun_induction spanComment? text generalizing body with
  | case1 => simp at h
  | case2 rest =>
    simp only [Option.some.injEq, Prod.mk.injEq] at h
    simp [← h.1, ← h.2]
  | case3 c rest _ ih =>
    obtain ⟨⟨body', after'⟩, hrest, heq⟩ := Option.map_eq_some_iff.1 h
    simp only [pushFirst, Prod.mk.injEq] at heq
    obtain ⟨rfl, rfl⟩ := heq
    simp [ih hrest]

/-- A running text is not empty, and with what follows it makes up the text. -/
theorem text?_append {text after : Text} {lexeme : Lexeme} (h : text? text = some (lexeme, after)) :
    lexeme.chars ≠ [] ∧ lexeme.chars ++ after = text := by
  have happend := spanText_append none text
  unfold text? at h
  split at h
  · simp at h
  · rename_i first body rest heq
    simp only [Option.some.injEq, Prod.mk.injEq] at h
    obtain ⟨rfl, rfl⟩ := h
    simpa [heq] using happend

/-- A comment is not empty, and with what follows it makes up the text. -/
theorem comment?_append {rest after : Text} {lexeme : Lexeme}
    (h : comment? rest = some (lexeme, after)) :
    lexeme.chars ≠ [] ∧ lexeme.chars ++ after = '/' :: '*' :: rest := by
  obtain ⟨⟨body, after'⟩, hspan, heq⟩ := Option.map_eq_some_iff.1 h
  simp only [Prod.mk.injEq] at heq
  obtain ⟨rfl, rfl⟩ := heq
  simp [spanComment?_append hspan]

/-- A lexeme is not empty, and with what follows it makes up the text. -/
theorem next?_append {text after : Text} {lexeme : Lexeme} (h : next? text = some (lexeme, after)) :
    lexeme.chars ≠ [] ∧ lexeme.chars ++ after = text := by
  unfold next? at h
  split at h
  · simp at h
  · exact comment?_append h
  · rename_i c rest _
    have known {kind : LexemeKind} {chars tail : Text}
        (heq : some ((⟨kind, chars⟩ : Lexeme), tail) = some (lexeme, after)) (hne : chars ≠ [])
        (happend : chars ++ tail = c :: rest) :
        lexeme.chars ≠ [] ∧ lexeme.chars ++ after = c :: rest := by
      simp only [Option.some.injEq, Prod.mk.injEq] at heq
      obtain ⟨rfl, rfl⟩ := heq
      exact ⟨hne, happend⟩
    split at h
    · exact known h (by simp) rfl
    split at h
    · exact known h (by simp) rfl
    split at h
    · exact known h (by simp) rfl
    split at h
    · exact known h (by simp) (by simp [spanSpace])
    split at h
    · simp at h
    · exact text?_append h

/-- What follows a lexeme is shorter than the text. -/
theorem length_lt_of_next? {text after : Text} {lexeme : Lexeme}
    (h : next? text = some (lexeme, after)) : after.length < text.length := by
  have hpositive := List.length_pos_iff.2 (next?_append h).1
  have := congrArg List.length (next?_append h).2
  simp only [List.length_append] at this
  omega

/-- The lexemes of a text in order, and the rest of it that starts with no lexeme. -/
def cut (text : Text) : List Lexeme × Text :=
  match _h : next? text with
  | none => ([], text)
  | some (lexeme, after) =>
    let (lexemes, rest) := cut after
    (lexeme :: lexemes, rest)
termination_by text.length
decreasing_by exact length_lt_of_next? ‹_›

/-- The lexemes and the rest make up the text. -/
theorem flatMap_chars_cut (text : Text) :
    (cut text).1.flatMap Lexeme.chars ++ (cut text).2 = text := by
  fun_induction cut text with
  | case1 text h => simp
  | case2 text lexeme after h lexemes rest heq ih =>
    rw [heq] at ih
    simp only [List.flatMap_cons, List.append_assoc, ih]
    exact (next?_append h).2

/-- The lexemes of a source that starts at `location`, each with its own location. -/
def locate (location : Location) : List Lexeme → List (Location × Lexeme)
  | [] => []
  | lexeme :: rest => (location, lexeme) :: locate (location.advance lexeme.chars) rest

end Lexeme

end ClassLint
