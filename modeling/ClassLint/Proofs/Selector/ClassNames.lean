import ClassLint.Proofs.Scan.Nesting
import ClassLint.Selector.Tokens
import Mathlib.Data.List.Forall2
import Mathlib.Data.List.Infix
import Mathlib.Data.List.TakeWhile

/-!
# The names behind the dots of a compound

Where the class tokens of a compound stand, said by offsets of its text and without marks. A dot
announces a token if it is no part of an escape, if nothing is open before it, and if a character
follows that can start a name. The name is the longest row of name characters and escapes behind
the dot. A compound that leaves something open has no tokens, and any other has one token for each
such dot, in order.
-/

namespace ClassLint

/-- A row of name characters and escapes. A backslash at the end is an escape of nothing. -/
inductive NameUnits : Text → Prop where
  | nil : NameUnits []
  | dangling : NameUnits ['\\']
  | char {c : Char} {rest : Text} (hc : c.isAlpha ∨ c.isDigit ∨ c = '_' ∨ c = '-')
      (hrest : NameUnits rest) : NameUnits (c :: rest)
  | escape {c : Char} {rest : Text} (hrest : NameUnits rest) : NameUnits ('\\' :: c :: rest)

/-- The dot at an offset of a text announces a class name: it is a unit of its own with nothing open
before it, and a letter, an underscore, a hyphen or an escape follows. -/
def Announces (text : Text) (offset : Nat) : Prop :=
  ∃ before c rest, text = before ++ '.' :: c :: rest ∧ before.length = offset ∧
    Nesting.top.LeadsTo before .top ∧ (c.isAlpha ∨ c = '_' ∨ c = '-' ∨ c = '\\')

/-- The token of a dot: its name starts behind the dot, and no longer row of name characters and
escapes does. -/
structure NamedAt (text : Text) (offset : Nat) (token : ClassToken) : Prop where
  behind : token.name <+: text.drop (offset + 1)
  units : NameUnits token.name
  longest : ∀ other, other <+: text.drop (offset + 1) → NameUnits other →
    other.length ≤ token.name.length

/-- A text that leaves a string, a bracket or a parenthesis open, whether or not a lone backslash
ends it. -/
def LeavesOpen (text : Text) : Prop :=
  ∃ whole nesting, (text = whole ∨ text = whole ++ ['\\']) ∧ Nesting.top.LeadsTo whole nesting ∧
    nesting ≠ .top

/-- What a text leaves open is what its scan ends with. -/
theorem leavesOpen_iff {text : Text} :
    LeavesOpen text ↔ (scan false .start text).2.isTop = false := by
  have hend {whole : Text} {nesting : Nesting} (hwhole : Nesting.top.LeadsTo whole nesting) :
      (scan false .start whole).2 = .code nesting ∧
        (scan false .start (whole ++ ['\\'])).2 = .code nesting := by
    rw [Place.start]
    refine ⟨scan_place hwhole, ?_⟩
    rw [scan_append hwhole, scan_backslash]
  have hopen {nesting : Nesting} : nesting.isTop = false ↔ nesting ≠ .top := by
    rw [← Bool.not_eq_true, Nesting.isTop_iff]
  constructor
  · rintro ⟨whole, nesting, rfl | rfl, hwhole, hne⟩
    · rw [(hend hwhole).1]
      exact hopen.2 hne
    · rw [(hend hwhole).2]
      exact hopen.2 hne
  · intro h
    rcases Nesting.leadsTo_or_dangling .top text with
      ⟨nesting, htext⟩ | ⟨whole, nesting, rfl, hwhole⟩
    · rw [(hend htext).1] at h
      exact ⟨text, nesting, Or.inl rfl, htext, hopen.1 h⟩
    · rw [(hend hwhole).2] at h
      exact ⟨whole, nesting, Or.inr rfl, hwhole, hopen.1 h⟩

/-- The characters of names without an escape. -/
theorem isNameChar_iff {c : Char} :
    isNameChar c = true ↔ c.isAlpha ∨ c.isDigit ∨ c = '_' ∨ c = '-' := by
  simp [isNameChar, Char.isAlphanum, or_assoc]

/-- A name character starts no escape, and it opens and closes nothing at top level. -/
theorem step_top_of_isNameChar {c : Char} (h : isNameChar c = true) :
    c ≠ '\\' ∧ Nesting.top.step c = .top := by
  have hrole : c ∉ ['\\', '"', '\'', '[', '('] := by
    intro hrole
    simp only [List.mem_cons, List.not_mem_nil, or_false] at hrole
    rcases hrole with rfl | rfl | rfl | rfl | rfl <;> exact absurd h (by decide)
  simp only [List.mem_cons, List.not_mem_nil, or_false, not_or] at hrole
  exact ⟨hrole.1, Nesting.turns_iff.1 (.other hrole.2 (by simp))⟩

namespace NameUnits

/-- Name characters and escapes open nothing. They are whole units, unless the row ends with a
backslash to which any further character belongs. -/
theorem leadsTo_or_extend {name : Text} (h : NameUnits name) :
    Nesting.top.LeadsTo name .top ∨ ∀ d, NameUnits (name ++ [d]) := by
  induction h with
  | nil => exact Or.inl .nil
  | dangling => exact Or.inr fun d => .escape .nil
  | char hc _ ih =>
    obtain ⟨hbackslash, hstep⟩ := step_top_of_isNameChar (isNameChar_iff.2 hc)
    rw [Nesting.LeadsTo.cons_iff hbackslash, hstep]
    exact ih.imp_right fun hextend d => .char hc (hextend d)
  | escape _ ih =>
    rw [Nesting.LeadsTo.escape_iff]
    exact ih.imp_right fun hextend d => .escape (hextend d)

/-- A name character at the start of a row of units is one of them. -/
theorem tail {c : Char} {rest : Text} (hc : c ≠ '\\') (h : NameUnits (c :: rest)) :
    isNameChar c = true ∧ NameUnits rest := by
  cases h with
  | dangling => exact absurd rfl hc
  | char hchar hrest => exact ⟨isNameChar_iff.2 hchar, hrest⟩
  | escape => exact absurd rfl hc

end NameUnits

/-- The name that starts a text, as the marks of the text tell. -/
def nameAtStart (text : Text) : Text :=
  ((scan false .start text).1.takeWhile Mark.continuesName).map Mark.char

section NameAtStart

variable {c : Char} {rest : Text}

/-- An escape is part of a name. -/
theorem nameAtStart_escape :
    nameAtStart ('\\' :: c :: rest) = '\\' :: c :: nameAtStart rest := by
  rw [nameAtStart, Place.start, scan_escape]
  rfl

/-- A name goes on with a name character and ends before any other character. -/
theorem nameAtStart_char (hc : c ≠ '\\') :
    nameAtStart (c :: rest) = if isNameChar c then c :: nameAtStart rest else [] := by
  rw [nameAtStart, Place.start, scan_false_char hc]
  by_cases hname : isNameChar c = true
  · rw [(step_top_of_isNameChar hname).2]
    simp [Mark.continuesName, Mark.isTopPlain, hname, nameAtStart, Place.start]
  · simp [Mark.continuesName, Mark.isTopEscape, hname]

/-- A text starts with its name. -/
theorem nameAtStart_isPrefix (text : Text) : nameAtStart text <+: text := by
  have hmarks := (List.takeWhile_prefix Mark.continuesName (l := (scan false .start text).1)).map
    Mark.char
  rwa [map_char_scan] at hmarks

/-- A name consists of name characters and escapes. -/
theorem nameUnits_nameAtStart (text : Text) : NameUnits (nameAtStart text) := by
  induction text using Text.unitInduction with
  | nil => exact .nil
  | dangling => exact .dangling
  | escape c rest ih =>
    rw [nameAtStart_escape]
    exact .escape ih
  | char c rest hc ih =>
    rw [nameAtStart_char hc]
    split
    · rename_i hname
      exact .char (isNameChar_iff.1 hname) ih
    · exact .nil

/-- No longer row of name characters and escapes starts a text. -/
theorem length_le_nameAtStart {text other : Text} (hother : other <+: text)
    (h : NameUnits other) : other.length ≤ (nameAtStart text).length := by
  induction text using Text.unitInduction generalizing other with
  | nil => rw [List.prefix_nil.1 hother]; exact Nat.zero_le _
  | dangling => exact hother.length_le
  | escape c rest ih =>
    rw [nameAtStart_escape]
    cases h with
    | nil => exact Nat.zero_le _
    | dangling => simp
    | char hc =>
      obtain ⟨rfl, -⟩ := List.cons_prefix_cons.1 hother
      exact absurd hc (by decide)
    | escape hrest =>
      simp only [List.cons_prefix_cons, true_and] at hother
      simpa using ih hother.2 hrest
  | char c rest hc ih =>
    rw [nameAtStart_char hc]
    cases other with
    | nil => exact Nat.zero_le _
    | cons d other =>
      obtain ⟨rfl, hbehind⟩ := List.cons_prefix_cons.1 hother
      obtain ⟨hname, hunits⟩ := h.tail hc
      rw [if_pos hname]
      simpa using ih hbehind hunits

end NameAtStart

namespace ClassToken

/-- Whether the mark at an offset is a dot before the start of a name. -/
def announces (marks : List Mark) (offset : Nat) : Bool :=
  marks[offset]?.any Mark.isDot && marks[offset + 1]?.any Mark.startsName

/-- The name that stands behind the mark at an offset. -/
def nameBehind (marks : List Mark) (offset : Nat) : ClassToken :=
  ⟨((marks.drop (offset + 1)).takeWhile Mark.continuesName).map Mark.char⟩

/-- The first mark gives a token if it is a dot before the start of a name. -/
theorem ofMarks_cons (mark : Mark) (rest : List Mark) :
    ofMarks (mark :: rest) =
      if announces (mark :: rest) 0 then nameBehind (mark :: rest) 0 :: ofMarks rest
      else ofMarks rest := by
  cases rest with
  | nil => cases hdot : mark.isDot <;> simp [ofMarks, announces, atStart?, hdot]
  | cons next rest =>
    cases hdot : mark.isDot <;> cases hstart : next.startsName <;>
      simp [ofMarks, announces, atStart?, nameBehind, hdot, hstart]

/-- The tokens of marks are the names behind the dots that announce them, in order. -/
theorem ofMarks_eq_map (marks : List Mark) :
    ofMarks marks =
      ((List.range marks.length).filter (announces marks)).map (nameBehind marks) := by
  induction marks with
  | nil => rfl
  | cons mark rest ih =>
    have hannounces : announces (mark :: rest) ∘ Nat.succ = announces rest := by
      funext offset
      simp [announces]
    have hname : nameBehind (mark :: rest) ∘ Nat.succ = nameBehind rest := by
      funext offset
      simp [nameBehind]
    rw [ofMarks_cons, ih, List.length_cons, List.range_succ_eq_map, List.filter_cons,
      List.filter_map, hannounces]
    split
    · rw [List.map_cons, List.map_map, hname]
    · rw [List.map_map, hname]

/-- A scan is cut at a dot with nothing open before it. -/
theorem scan_dot {before rest : Text} (h : Nesting.top.LeadsTo before .top) :
    (scan false .start (before ++ '.' :: rest)).1 =
      (scan false .start before).1 ++ ⟨'.', .plain, .top⟩ :: (scan false .start rest).1 := by
  rw [Place.start, scan_append h, scan_false_char (by decide)]
  rfl

/-- A mark with nothing open before it starts a name by its character alone. -/
theorem startsName_iff {c : Char} :
    Mark.startsName ⟨c, if c = '\\' then .escape else .plain, .top⟩ = true ↔
      c.isAlpha ∨ c = '_' ∨ c = '-' ∨ c = '\\' := by
  have hletter : c.isAlpha = true → c.isDigit = false := by
    delta Char.isAlpha Char.isUpper Char.isLower Char.isDigit
    grind
  have hunderscore : c = '_' → c.isDigit = false := fun hc => hc ▸ rfl
  have hhyphen : c = '-' → c.isDigit = false := fun hc => hc ▸ rfl
  by_cases hc : c = '\\'
  · simp [hc, Mark.startsName, Mark.isTopEscape]
  · simp only [Mark.startsName, Mark.isTopEscape, Mark.isTopPlain, hc, if_false,
      Nesting.isTop_top, Bool.and_true, Bool.or_eq_true, Bool.and_eq_true, isNameChar_iff,
      Bool.not_eq_true']
    grind

/-- Whether a dot with nothing open before it announces a token depends on the next character. -/
theorem announces_dot {before rest : Text} (h : Nesting.top.LeadsTo before .top) :
    announces (scan false .start (before ++ '.' :: rest)).1 before.length = true ↔
      ∃ c ∈ rest.head?, c.isAlpha ∨ c = '_' ∨ c = '-' ∨ c = '\\' := by
  have hhere (marks : List Mark) : ((scan false .start before).1 ++ marks)[before.length]? =
      marks.head? := by
    rw [List.getElem?_append_right (by simp), length_marks, Nat.sub_self, List.head?_eq_getElem?]
  have hnext (mark : Mark) (marks : List Mark) :
      ((scan false .start before).1 ++ mark :: marks)[before.length + 1]? = marks.head? := by
    rw [List.getElem?_append_right (by simp), length_marks, Nat.add_sub_cancel_left,
      List.getElem?_cons_succ, List.head?_eq_getElem?]
  have hdot : Mark.isDot ⟨'.', .plain, .top⟩ = true := rfl
  rw [announces, scan_dot h, hhere, hnext, Place.start, head?_scan, List.head?_cons,
    Option.any_some, hdot, Bool.true_and]
  cases rest with
  | nil => simp
  | cons c rest => simp [startsName_iff]

/-- The name behind a dot with nothing open before it starts what follows the dot. -/
theorem nameBehind_dot {before rest : Text} (h : Nesting.top.LeadsTo before .top) :
    nameBehind (scan false .start (before ++ '.' :: rest)).1 before.length =
      ⟨nameAtStart rest⟩ := by
  have hlength : before.length + 1 =
      ((scan false .start before).1 ++ [(⟨'.', .plain, .top⟩ : Mark)]).length := by simp
  rw [nameBehind, scan_dot h, List.append_cons, hlength, List.drop_left, nameAtStart]

/-- Where a scan has a dot at top level, the text before it leaves nothing open. -/
theorem exists_dot {text : Text} {offset : Nat}
    (h : announces (scan false .start text).1 offset = true) :
    ∃ before rest, text = before ++ '.' :: rest ∧ before.length = offset ∧
      Nesting.top.LeadsTo before .top := by
  rw [announces, Bool.and_eq_true, Option.any_eq_true] at h
  obtain ⟨⟨mark, hmark, hdot⟩, -⟩ := h
  obtain ⟨hoffset, rfl⟩ := List.getElem?_eq_some_iff.1 hmark
  generalize hscan : (scan false .start text).1 = marks at hoffset hdot
  have hmarks : marks = marks.take offset ++ marks[offset] :: marks.drop (offset + 1) := by
    rw [List.getElem_cons_drop, List.take_append_drop]
  obtain ⟨hplain, hchar⟩ := Bool.and_eq_true_iff.1 hdot
  obtain ⟨hpart, htop⟩ := Bool.and_eq_true_iff.1 hplain
  have hleads := leadsTo_of_scan_plain (hscan.trans hmarks) (by simpa using hpart)
  rw [(Nesting.isTop_iff _).1 htop] at hleads
  refine ⟨_, (marks.drop (offset + 1)).map Mark.char, ?_, ?_, hleads⟩
  · rw [← beq_iff_eq.1 hchar, ← List.map_cons, ← List.map_append, ← hmarks, ← hscan, map_char_scan]
  · simp [hoffset.le]

/-- The marks of a text announce a token exactly where the text does. -/
theorem announces_iff {text : Text} {offset : Nat} :
    announces (scan false .start text).1 offset = true ↔ Announces text offset := by
  constructor
  · intro h
    obtain ⟨before, rest, rfl, rfl, hbefore⟩ := exists_dot h
    obtain ⟨c, hc, hstart⟩ := (announces_dot hbefore).1 h
    obtain ⟨rest, rfl⟩ := List.head?_eq_some_iff.1 hc
    exact ⟨before, c, rest, rfl, rfl, hbefore, hstart⟩
  · rintro ⟨before, c, rest, rfl, rfl, hbefore, hstart⟩
    exact (announces_dot hbefore).2 ⟨c, rfl, hstart⟩

/-- The name behind a dot that announces it is the one that the text has there. -/
theorem namedAt_nameBehind {text : Text} {offset : Nat} (h : Announces text offset) :
    NamedAt text offset (nameBehind (scan false .start text).1 offset) := by
  obtain ⟨before, c, rest, rfl, rfl, hbefore, -⟩ := h
  have hdrop : (before ++ '.' :: c :: rest).drop (before.length + 1) = c :: rest := by simp
  rw [nameBehind_dot hbefore]
  refine ⟨?_, nameUnits_nameAtStart _, fun other hother hunits => ?_⟩
  · rw [hdrop]
    exact nameAtStart_isPrefix _
  · rw [hdrop] at hother
    exact length_le_nameAtStart hother hunits

/-- A token of a dot stands in the text as it is written: the name is not cut inside an escape, and
nothing is open before or behind it. Only at the end of the text may a lone backslash end it. -/
theorem exists_around_of_namedAt {text : Text} {offset : Nat} {token : ClassToken}
    (h : Announces text offset) (hnamed : NamedAt text offset token) :
    ∃ before after, text = before ++ (token.text ++ after) ∧ before.length = offset ∧
      Nesting.top.LeadsTo before .top ∧
      (after ≠ [] → Nesting.top.LeadsTo (before ++ token.text) .top) := by
  obtain ⟨before, c, rest, rfl, rfl, hbefore, -⟩ := h
  obtain ⟨after, hafter⟩ := hnamed.behind
  have hrest : token.name ++ after = c :: rest := by simpa using hafter
  refine ⟨before, after, by simp [ClassToken.text, hrest], rfl, hbefore, fun hne => ?_⟩
  have hdot : Nesting.top.step '.' = .top := rfl
  rw [hbefore.append_iff, ClassToken.text, Nesting.LeadsTo.cons_iff (by decide), hdot]
  refine hnamed.units.leadsTo_or_extend.resolve_right fun hextend => ?_
  -- A row that a further character extends would not be the longest.
  obtain ⟨d, after, rfl⟩ := List.exists_cons_of_ne_nil hne
  have hlonger := hnamed.longest (token.name ++ [d]) ⟨after, by simpa using hafter⟩ (hextend d)
  rw [List.length_append, List.length_singleton] at hlonger
  omega

/-- The class tokens of a compound, read off its text. A compound that leaves a string, a bracket or
a parenthesis open has none. Any other has one token for each dot that announces a name, in order,
and the token's name is the longest row of name characters and escapes behind its dot; every token
stands in the text as it is written, and its name is cut neither inside an escape nor at something
open. -/
theorem ofCompound_reads_every_name (text : Text) :
    LeavesOpen text ∧ ofCompound text = [] ∨
      ¬ LeavesOpen text ∧ ∃ offsets : List Nat, offsets.Pairwise (· < ·) ∧
        (∀ offset, offset ∈ offsets ↔ Announces text offset) ∧
        List.Forall₂ (NamedAt text) offsets (ofCompound text) ∧
        List.Forall₂ (fun offset token => ∃ before after,
          text = before ++ (token.text ++ after) ∧ before.length = offset ∧
            Nesting.top.LeadsTo before .top ∧
            (after ≠ [] → Nesting.top.LeadsTo (before ++ token.text) .top))
          offsets (ofCompound text) := by
  by_cases hopen : LeavesOpen text
  · refine Or.inl ⟨hopen, ?_⟩
    rw [ofCompound]
    exact if_neg (by simpa using leavesOpen_iff.1 hopen)
  · have htop : (scan false .start text).2.isTop = true := by simpa [leavesOpen_iff] using hopen
    have htokens : ofCompound text =
        ((List.range text.length).filter (announces (scan false .start text).1)).map
          (nameBehind (scan false .start text).1) := by
      rw [ofCompound, ← length_marks false .start text, ← ofMarks_eq_map]
      exact if_pos htop
    have hmem (offset : Nat) : offset ∈
        (List.range text.length).filter (announces (scan false .start text).1) ↔
          Announces text offset := by
      rw [List.mem_filter, announces_iff, List.mem_range, and_iff_right_iff_imp]
      rintro ⟨before, c, rest, rfl, rfl, -⟩
      simp
    refine Or.inr ⟨hopen, _, List.pairwise_lt_range.filter _, hmem, ?_, ?_⟩
    · rw [htokens, List.forall₂_map_right_iff, List.forall₂_same]
      intro offset hoffset
      exact namedAt_nameBehind ((hmem offset).1 hoffset)
    · rw [htokens, List.forall₂_map_right_iff, List.forall₂_same]
      intro offset hoffset
      have hannounces := (hmem offset).1 hoffset
      exact exists_around_of_namedAt hannounces (namedAt_nameBehind hannounces)

end ClassToken

end ClassLint
