import ClassLint.Scan.Mark
import Mathlib.Data.List.Basic

/-!
# What a text leaves open

The rules of strings, brackets and escapes, stated without a scan. A text is read in units: a
backslash with the character after it, or a single character. An escape opens and closes nothing;
inside a string only its own quote counts; a closer counts only where it is the innermost one that
is awaited. A text that ends with a lone backslash does not consist of whole units.

The scan without comments follows these rules: it marks a character as plain exactly where a unit
of one character starts, with what the text before it leaves open.
-/

namespace ClassLint

namespace Nesting

/-- What one character that is not part of an escape makes of an open nesting. -/
inductive Turns : Nesting → Char → Nesting → Prop where
  | openString {quote : Char} {closers : List Char} (hquote : quote = '"' ∨ quote = '\'') :
      Turns ⟨none, closers⟩ quote ⟨some quote, closers⟩
  | inString {quote c : Char} {closers : List Char} (hquote : c ≠ quote) :
      Turns ⟨some quote, closers⟩ c ⟨some quote, closers⟩
  | closeString {quote : Char} {closers : List Char} :
      Turns ⟨some quote, closers⟩ quote ⟨none, closers⟩
  | openBracket {closers : List Char} : Turns ⟨none, closers⟩ '[' ⟨none, ']' :: closers⟩
  | openParenthesis {closers : List Char} : Turns ⟨none, closers⟩ '(' ⟨none, ')' :: closers⟩
  | close {closer : Char} {closers : List Char}
      (hcloser : closer ≠ '"' ∧ closer ≠ '\'' ∧ closer ≠ '[' ∧ closer ≠ '(') :
      Turns ⟨none, closer :: closers⟩ closer ⟨none, closers⟩
  | other {c : Char} {closers : List Char}
      (hc : c ≠ '"' ∧ c ≠ '\'' ∧ c ≠ '[' ∧ c ≠ '(') (hcloser : closers.head? ≠ some c) :
      Turns ⟨none, closers⟩ c ⟨none, closers⟩

/-- Reading a text in whole units leads from what is open before it to what is open after it. -/
inductive LeadsTo : Nesting → Text → Nesting → Prop where
  | nil {nesting : Nesting} : LeadsTo nesting [] nesting
  | escape {nesting after : Nesting} {c : Char} {rest : Text}
      (hrest : LeadsTo nesting rest after) : LeadsTo nesting ('\\' :: c :: rest) after
  | char {nesting next after : Nesting} {c : Char} {rest : Text} (hc : c ≠ '\\')
      (hturns : Turns nesting c next) (hrest : LeadsTo next rest after) :
      LeadsTo nesting (c :: rest) after

/-- A step does what the rules say, and the rules allow nothing else. -/
theorem turns_iff {nesting next : Nesting} {c : Char} :
    Turns nesting c next ↔ nesting.step c = next := by
  constructor
  · intro h
    cases h with
    | openString hquote => rcases hquote with rfl | rfl <;> rfl
    | inString hquote => simp [step, hquote]
    | closeString => simp [step]
    | openBracket => rfl
    | openParenthesis => rfl
    | close hcloser => simp [step, isQuote, closerOf?, hcloser]
    | @other c closers hc hcloser =>
      cases closers with
      | nil => simp [step, isQuote, closerOf?, hc]
      | cons closer outer =>
        have hne : c ≠ closer := by simpa [eq_comm] using hcloser
        simp [step, isQuote, closerOf?, hc, hne]
  · rintro rfl
    obtain ⟨quote, closers⟩ := nesting
    cases quote with
    | some quote =>
      by_cases hc : c = quote
      · subst hc
        simpa [step] using Turns.closeString
      · simpa [step, hc] using Turns.inString hc
    | none =>
      by_cases hquote : c = '"' ∨ c = '\''
      · have hstep : step ⟨none, closers⟩ c = ⟨some c, closers⟩ := by simp [step, isQuote, hquote]
        exact hstep ▸ .openString hquote
      by_cases hbracket : c = '['
      · subst hbracket
        exact .openBracket
      by_cases hparenthesis : c = '('
      · subst hparenthesis
        exact .openParenthesis
      obtain ⟨hdouble, hsingle⟩ := not_or.1 hquote
      have hc : c ≠ '"' ∧ c ≠ '\'' ∧ c ≠ '[' ∧ c ≠ '(' :=
        ⟨hdouble, hsingle, hbracket, hparenthesis⟩
      cases closers with
      | nil => simpa [step, isQuote, closerOf?, hc] using Turns.other hc (by simp)
      | cons closer outer =>
        by_cases hcloser : c = closer
        · subst hcloser
          simpa [step, isQuote, closerOf?, hc] using Turns.close hc
        · have hhead : (closer :: outer).head? ≠ some c := by simpa [eq_comm] using hcloser
          simpa [step, isQuote, closerOf?, hc, hcloser] using Turns.other hc hhead

namespace LeadsTo

variable {nesting middle after other : Nesting} {c : Char} {text rest : Text}

/-- A character that is not a backslash is a unit of its own. -/
theorem cons_iff (hc : c ≠ '\\') :
    LeadsTo nesting (c :: rest) after ↔ LeadsTo (nesting.step c) rest after := by
  constructor
  · intro h
    cases h with
    | escape => exact absurd rfl hc
    | char _ hturns hrest => exact turns_iff.1 hturns ▸ hrest
  · exact fun h => .char hc (turns_iff.2 rfl) h

/-- A backslash takes the next character along. -/
theorem escape_iff :
    LeadsTo nesting ('\\' :: c :: rest) after ↔ LeadsTo nesting rest after := by
  constructor
  · intro h
    cases h with
    | escape hrest => exact hrest
    | char hc => exact absurd rfl hc
  · exact .escape

/-- A lone backslash is not a whole unit. -/
theorem not_backslash : ¬ LeadsTo nesting ['\\'] after := by
  intro h
  cases h with
  | char hc => exact hc rfl

/-- Behind whole units reading goes on from what they leave open. -/
theorem append_iff (h : LeadsTo nesting text middle) :
    LeadsTo nesting (text ++ rest) after ↔ LeadsTo middle rest after := by
  induction h with
  | nil => rfl
  | escape _ ih => exact escape_iff.trans ih
  | char hc hturns _ ih => rw [List.cons_append, cons_iff hc, turns_iff.1 hturns, ih]

/-- What a text leaves open is determined. -/
theorem unique (h : LeadsTo nesting text after) (hother : LeadsTo nesting text other) :
    after = other := by
  rw [← List.append_nil text, h.append_iff] at hother
  cases hother
  rfl

/-- Whole units before a lone backslash do not make whole units with it. -/
theorem not_append_backslash (h : LeadsTo nesting text middle) :
    ¬ LeadsTo nesting (text ++ ['\\']) after :=
  fun hwhole => not_backslash (h.append_iff.1 hwhole)

end LeadsTo

end Nesting

namespace Text

/-- Induction over the units of a text, with a lone backslash at the end as a case of its own. -/
@[elab_as_elim]
theorem unitInduction {motive : Text → Prop} (nil : motive []) (dangling : motive ['\\'])
    (escape : ∀ c rest, motive rest → motive ('\\' :: c :: rest))
    (char : ∀ c rest, c ≠ '\\' → motive rest → motive (c :: rest)) : ∀ text, motive text
  | [] => nil
  | [c] => if hc : c = '\\' then hc ▸ dangling else char c [] hc nil
  | c :: d :: rest =>
    if hc : c = '\\' then hc ▸ escape d rest (unitInduction nil dangling escape char rest)
    else char c (d :: rest) hc (unitInduction nil dangling escape char (d :: rest))

end Text

/-- A text consists of whole units, or a lone backslash follows them. -/
theorem Nesting.leadsTo_or_dangling (nesting : Nesting) (text : Text) :
    (∃ after, nesting.LeadsTo text after) ∨
      ∃ before after, text = before ++ ['\\'] ∧ nesting.LeadsTo before after := by
  induction text using Text.unitInduction generalizing nesting with
  | nil => exact Or.inl ⟨nesting, .nil⟩
  | dangling => exact Or.inr ⟨[], nesting, rfl, .nil⟩
  | escape c rest ih =>
    rcases ih nesting with ⟨after, hrest⟩ | ⟨before, after, rfl, hbefore⟩
    · exact Or.inl ⟨after, .escape hrest⟩
    · exact Or.inr ⟨'\\' :: c :: before, after, rfl, .escape hbefore⟩
  | char c rest hc ih =>
    rcases ih (nesting.step c) with ⟨after, hrest⟩ | ⟨before, after, rfl, hbefore⟩
    · exact Or.inl ⟨after, (LeadsTo.cons_iff hc).2 hrest⟩
    · exact Or.inr ⟨c :: before, after, rfl, (LeadsTo.cons_iff hc).2 hbefore⟩

namespace Place

/-- What is open at a place. -/
def nesting : Place → Nesting
  | .code nesting => nesting
  | .comment nesting => nesting

/-- A place is at top level exactly if nothing is open there. -/
theorem isTop_eq (place : Place) : place.isTop = place.nesting.isTop := by
  cases place <;> rfl

end Place

section Scan

variable {comments : Bool} {nesting after : Nesting} {c : Char} {text before rest : Text}

/-- Every character has one mark. -/
@[simp] theorem length_marks (comments : Bool) (place : Place) (text : Text) :
    (scan comments place text).1.length = text.length := by
  rw [← List.length_map Mark.char, map_char_scan]

/-- A text that is not empty has marks. -/
theorem scan_ne_nil {place : Place} (h : text ≠ []) : (scan comments place text).1 ≠ [] := by
  intro hempty
  rw [← map_char_scan comments place text, hempty] at h
  exact h rfl

/-- A scan marks both characters of an escape and goes on with what was open. -/
theorem scan_escape :
    scan comments (.code nesting) ('\\' :: c :: rest) =
      (⟨'\\', .escape, nesting⟩ :: ⟨c, .escape, nesting⟩ :: (scan comments (.code nesting) rest).1,
        (scan comments (.code nesting) rest).2) := by
  rw [scan]

/-- A scan marks a lone backslash as a character of an escape. -/
theorem scan_backslash :
    scan comments (.code nesting) ['\\'] = ([⟨'\\', .escape, nesting⟩], .code nesting) := by
  rw [scan]

/-- A scan marks a character that starts neither an escape nor a comment as plain. -/
theorem scan_char (hc : c ≠ '\\')
    (hcomment : comments = true → nesting.quote = none → c = '/' → rest.head? ≠ some '*') :
    scan comments (.code nesting) (c :: rest) =
      (⟨c, .plain, nesting⟩ :: (scan comments (.code (nesting.step c)) rest).1,
        (scan comments (.code (nesting.step c)) rest).2) := by
  by_cases hslash : c = '/' ∧ rest.head? = some '*'
  · -- Both characters are scanned at once, which is the same as one after the other.
    obtain ⟨rfl, hstar⟩ := hslash
    obtain ⟨tail, rfl⟩ := List.head?_eq_some_iff.1 hstar
    have hcode : ¬ (comments && nesting.quote.isNone) = true := by
      intro hboth
      rw [Bool.and_eq_true, Option.isNone_iff_eq_none] at hboth
      exact hcomment hboth.1 hboth.2 rfl rfl
    rw [scan, if_neg hcode, scan]
    · simp
    · simp
    · simp
  · rw [scan]
    · exact fun hfirst _ => hc hfirst
    · exact fun _ _ hfirst _ => hc hfirst
    · exact fun _ hfirst hrest => hslash ⟨hfirst, by rw [hrest]; rfl⟩

/-- Without comments every character but a backslash is plain. -/
theorem scan_false_char (hc : c ≠ '\\') :
    scan false (.code nesting) (c :: rest) =
      (⟨c, .plain, nesting⟩ :: (scan false (.code (nesting.step c)) rest).1,
        (scan false (.code (nesting.step c)) rest).2) :=
  scan_char hc (by simp)

/-- Behind whole units a scan goes on from what they leave open. -/
theorem scan_append (h : nesting.LeadsTo text after) (rest : Text) :
    scan false (.code nesting) (text ++ rest) =
      ((scan false (.code nesting) text).1 ++ (scan false (.code after) rest).1,
        (scan false (.code after) rest).2) := by
  induction h with
  | nil => simp [scan]
  | escape _ ih =>
    rw [List.cons_append, List.cons_append, scan_escape, scan_escape, ih]
    rfl
  | char hc hturns _ ih =>
    rw [List.cons_append, scan_false_char hc, scan_false_char hc, Nesting.turns_iff.1 hturns, ih]
    rfl

/-- A scan of whole units ends with what they leave open. -/
theorem scan_place (h : nesting.LeadsTo text after) :
    (scan false (.code nesting) text).2 = .code after := by
  have happend := congrArg Prod.snd (scan_append h [])
  rwa [List.append_nil, scan] at happend

/-- A text that does not end with a backslash consists of whole units. -/
theorem Nesting.leadsTo_of_getLast?_ne (h : text.getLast? ≠ some '\\') :
    nesting.LeadsTo text (scan false (.code nesting) text).2.nesting := by
  rcases nesting.leadsTo_or_dangling text with ⟨after, hleads⟩ | ⟨before, after, rfl, -⟩
  · rw [scan_place hleads]
    exact hleads
  · exact absurd List.getLast?_concat h

/-- The first mark of a scan is an escape exactly if the text starts with a backslash. -/
theorem head?_scan (nesting : Nesting) (text : Text) :
    (scan false (.code nesting) text).1.head? =
      text.head?.map fun c => ⟨c, if c = '\\' then .escape else .plain, nesting⟩ := by
  cases text using Text.unitInduction with
  | nil => rfl
  | dangling => rfl
  | escape c rest => rw [scan_escape]; rfl
  | char c rest hc => rw [scan_false_char hc]; simp [hc]

/-- What holds of the nestings that a scan marks and ends with holds of all that it goes through. -/
theorem Nesting.of_leadsTo_beginning {motive : Nesting → Prop}
    (hmarks : ∀ mark ∈ (scan false (.code nesting) text).1, motive mark.nesting)
    (hend : motive (scan false (.code nesting) text).2.nesting) (htext : text = before ++ rest)
    (h : nesting.LeadsTo before after) : motive after := by
  rw [htext, scan_append h] at hmarks hend
  cases rest with
  | nil => exact hend
  | cons c rest =>
    have hhead := head?_scan after (c :: rest)
    exact hmarks _ (List.mem_append_right _ (List.mem_of_mem_head? hhead))

/-- Where a scan finds a plain character, the text before it consists of whole units and leaves
open what the mark says. -/
theorem leadsTo_of_scan_plain {first last : List Mark} {mark : Mark}
    (h : (scan false (.code nesting) text).1 = first ++ mark :: last)
    (hplain : mark.part = .plain) : nesting.LeadsTo (first.map Mark.char) mark.nesting := by
  induction text using Text.unitInduction generalizing nesting first with
  | nil => simp [scan] at h
  | dangling =>
    rw [scan_backslash, List.singleton_eq_append_iff] at h
    rcases h with ⟨-, hmark⟩ | ⟨-, hmark⟩
    · cases hmark
      cases hplain
    · cases hmark
  | escape c rest ih =>
    rw [scan_escape] at h
    match first, h with
    | [], h =>
      cases h
      cases hplain
    | [_], h =>
      cases h
      cases hplain
    | _ :: _ :: first, h =>
      simp only [List.cons_append, List.cons.injEq] at h
      obtain ⟨rfl, rfl, hrest⟩ := h
      exact .escape (ih hrest)
  | char c rest hc ih =>
    rw [scan_false_char hc] at h
    match first, h with
    | [], h =>
      cases h
      exact .nil
    | _ :: first, h =>
      simp only [List.cons_append, List.cons.injEq] at h
      obtain ⟨rfl, hrest⟩ := h
      exact (Nesting.LeadsTo.cons_iff hc).2 (ih hrest)

/-- A scan is cut before a plain mark: both parts are scans of their own. -/
theorem scan_cut {first last : List Mark} {mark : Mark}
    (h : (scan false (.code nesting) text).1 = first ++ mark :: last)
    (hplain : mark.part = .plain) :
    scan false (.code nesting) (first.map Mark.char) = (first, .code mark.nesting) ∧
      scan false (.code mark.nesting) ((mark :: last).map Mark.char) =
        (mark :: last, (scan false (.code nesting) text).2) := by
  have hleads := leadsTo_of_scan_plain h hplain
  have htext : text = first.map Mark.char ++ (mark :: last).map Mark.char := by
    rw [← List.map_append, ← h, map_char_scan]
  have happend := scan_append hleads ((mark :: last).map Mark.char)
  rw [← htext] at happend
  have hmarks := congrArg Prod.fst happend
  rw [h] at hmarks
  have hlength : first.length = (scan false (.code nesting) (first.map Mark.char)).1.length := by
    have hchars := congrArg List.length (map_char_scan false (.code nesting) (first.map Mark.char))
    rwa [List.length_map, List.length_map, eq_comm] at hchars
  obtain ⟨hfirst, hlast⟩ := List.append_inj hmarks hlength
  exact ⟨Prod.ext hfirst.symm (scan_place hleads), Prod.ext hlast.symm (by rw [happend])⟩

end Scan

end ClassLint
