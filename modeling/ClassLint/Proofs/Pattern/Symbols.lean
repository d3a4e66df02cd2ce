import ClassLint.Proofs.Pattern.Parts
import ClassLint.Proofs.Pattern.Pieces

/-!
# Reading symbols

A written symbol is read as one part, which stands for the characters of the symbol, and everything
after it is left. The escapes are the same in and outside of sets but for those in base eight, which
end where no further digit follows.
-/

namespace ClassLint

open PatternToken (bare behindBackslash bareText)

namespace PatternReader

open Regex (margin Literal SetItem Symbol itemTokens)

variable {next : List PatternToken} {start position : Nat}

/-! ## Escapes -/

/-- A name is read to its closer. -/
theorem gives_readName {closer : Char} {name : Text} (hname : name ≠ [])
    (hcloser : ∀ c ∈ name, c ≠ closer) (what : Text) (position : Nat) (next : List PatternToken) :
    Gives (readName closer what ⟨position, bareText name ++ bare closer :: next⟩) name next := by
  rw [readName, Pieces.spanTo_bareText hcloser]
  cases name with
  | nil => exact absurd rfl hname
  | cons c name => exact ⟨_, rfl⟩

/-- As many digits in base sixteen as the letter asks for are read as a code point within the
limit. -/
theorem gives_readHexadecimal {letter : Char} {count : Nat} {digits : Text}
    (hlength : digits.length = count) (hdigits : ∀ c ∈ digits, isHexDigit c = true)
    (hcode : Text.ofDigits 16 digits ≤ 0x10FFFF) :
    Gives (readHexadecimal letter count start ⟨position, bareText digits ++ next⟩)
      (Text.ofDigits 16 digits) next := by
  rw [readHexadecimal, Pieces.span_bareText hdigits (.inl hlength)]
  simp only [hlength, Nat.lt_irrefl, ↓reduceIte, Nat.not_lt.2 hcode]
  exact ⟨_, rfl⟩

/-- The name of a character in braces is read as the code point of the character. -/
theorem gives_readNamed {name : Text} {code : Nat} (hname : name ≠ [])
    (hcloser : ∀ c ∈ name, c ≠ '\x7d') (hcode : Text.characterNamed? name = some code) :
    Gives (readNamed start ⟨position, bareText ('\x7b' :: name ++ ['\x7d']) ++ next⟩) code
      next := by
  obtain ⟨after, hread⟩ := gives_readName hname hcloser "character name" (position + 1) next
  have hinside : bareText ('\x7b' :: name ++ ['\x7d']) ++ next =
      bare '\x7b' :: (bareText name ++ bare '\x7d' :: next) := by simp
  rw [hinside, readNamed, Pieces.skip?_bare]
  refine ⟨after, ?_⟩
  simp only [hread, bind, Except.bind, hcode]

/-- A character that is no letter stands for nothing else after a backslash. -/
theorem escapes_of_not_isAlpha {c : Char} (hc : c.isAlpha = false) (alphabet : Alphabet)
    (start : Nat) (pieces : Pieces) :
    anchorEscape? alphabet c = none ∧ classEscape? alphabet c = none ∧ controlEscape? c = none ∧
      readCode? c start pieces = none := by
  have hne (letter : Char) (hletter : letter.isAlpha = true) : (c = letter) = False := by
    refine eq_false ?_
    rintro rfl
    rw [hc] at hletter
    cases hletter
  simp only [anchorEscape?, classEscape?, controlEscape?, readCode?,
    hne 'A' rfl, hne 'Z' rfl, hne 'b' rfl, hne 'B' rfl, hne 'd' rfl, hne 'D' rfl, hne 's' rfl,
    hne 'S' rfl, hne 'w' rfl, hne 'W' rfl, hne 'a' rfl, hne 'f' rfl, hne 'n' rfl, hne 'r' rfl,
    hne 't' rfl, hne 'v' rfl, hne 'x' rfl, hne 'u' rfl, hne 'U' rfl, hne 'N' rfl, ↓reduceIte,
    and_self]

/-- The octal digits are those with the codes of `0` to `7`. -/
theorem isOctalDigit_iff {c : Char} : isOctalDigit c = true ↔ 48 ≤ c.toNat ∧ c.toNat ≤ 55 := by
  simp [isOctalDigit, Char.le_def, UInt32.le_iff_toNat_le]

/-- An octal digit is a digit. -/
theorem isDigit_of_isOctalDigit {c : Char} (hc : isOctalDigit c = true) : c.isDigit = true := by
  have hoctal := isOctalDigit_iff.1 hc
  exact Char.isDigit_iff_toNat.2 ⟨hoctal.1, hoctal.2.trans (by decide)⟩

/-- An octal digit is no letter. -/
theorem not_isAlpha_of_isOctalDigit {c : Char} (hc : isOctalDigit c = true) :
    c.isAlpha = false := by
  have hoctal := isOctalDigit_iff.1 hc
  simp only [Text.isAlpha_eq, Text.isUpper_eq, Text.isLower_eq, Bool.or_eq_false_iff,
    Bool.and_eq_false_iff, decide_eq_false_iff_not]
  omega

/-- What is no digit is no octal digit. -/
theorem not_isOctalDigit_of_not_isDigit {c : Char} (hc : c.isDigit = false) :
    isOctalDigit c = false := by
  by_contra hne
  rw [isDigit_of_isOctalDigit (Bool.not_eq_false _ ▸ hne)] at hc
  cases hc

/-- A read code point in base eight: the digits after the first. -/
theorem span_octal {most : Nat} {digits : Text} (hdigits : ∀ c ∈ digits, isOctalDigit c = true)
    (hmost : digits.length = most ∨ digits.length < most ∧
      ∀ c ∈ (margin next).head?, isOctalDigit c = false) (position : Nat) :
    Pieces.span ⟨position, bareText digits ++ next⟩ most isOctalDigit =
      (digits, ⟨position + digits.length, next⟩) := by
  refine Pieces.span_bareText hdigits (hmost.imp_right fun ⟨hlength, hnext⟩ => ⟨hlength.le, ?_⟩)
  refine Regex.stops_of_margin (fun c hc => ?_) hnext
  rw [Regex.isMargin, isDigit_of_isOctalDigit hc, Bool.true_or, Bool.true_or]

/-- A character in a set is read as its code point. -/
theorem gives_readSetEntry {literal : Literal} (h : literal.IsWritten true (margin next))
    (alphabet : Alphabet) (start position : Nat) :
    Gives (readSetEntry alphabet literal.first start ⟨position, bareText literal.more ++ next⟩)
      (.char literal.code) next := by
  cases literal with
  | bare c => exact ⟨_, rfl⟩
  | escaped c =>
    obtain ⟨halpha, hdigit⟩ := Bool.or_eq_false_iff.1 h
    obtain ⟨-, hclass, hcontrol, hcode⟩ :=
      escapes_of_not_isAlpha halpha alphabet start ⟨position, next⟩
    have hb : c ≠ 'b' := by
      rintro rfl
      cases halpha
    refine ⟨position, ?_⟩
    change readSetEscape alphabet c start ⟨position, next⟩ = _
    simp only [readSetEscape, hb, ↓reduceIte, hcontrol, hclass, hcode,
      not_isOctalDigit_of_not_isDigit hdigit, Bool.false_eq_true, Char.isAlphanum, halpha, hdigit,
      Bool.or_self]
    rfl
  | control letter value =>
    obtain h | ⟨-, rfl, rfl⟩ := h
    · simp only [Literal.controls, List.mem_cons, Prod.mk.injEq, List.not_mem_nil, or_false] at h
      obtain ⟨rfl, rfl⟩ | ⟨rfl, rfl⟩ | ⟨rfl, rfl⟩ | ⟨rfl, rfl⟩ | ⟨rfl, rfl⟩ | ⟨rfl, rfl⟩ := h
      all_goals exact ⟨_, rfl⟩
    · exact ⟨_, rfl⟩
  | hexadecimal letter digits =>
    obtain ⟨hletter, hdigits, hlimit⟩ := h
    simp only [List.mem_cons, Prod.mk.injEq, List.not_mem_nil, or_false] at hletter
    obtain ⟨rfl, hlength⟩ | ⟨rfl, hlength⟩ | ⟨rfl, hlength⟩ := hletter
    all_goals exact (gives_readHexadecimal hlength hdigits hlimit).map _
  | octal digit digits =>
    obtain ⟨hoctal, hlimit, hnext⟩ := h
    obtain ⟨hdigit, hdigits⟩ := List.forall_mem_cons.1 hoctal
    obtain ⟨-, hclass, hcontrol, hcode⟩ := escapes_of_not_isAlpha
      (not_isAlpha_of_isOctalDigit hdigit) alphabet start ⟨position, bareText digits ++ next⟩
    have hb : digit ≠ 'b' := by
      rintro rfl
      cases hdigit
    have hspan := span_octal hdigits
      (hnext.imp_right fun ⟨hlength, _, hhead⟩ => ⟨hlength, hhead⟩) position
    refine ⟨position + digits.length, ?_⟩
    change readSetEscape alphabet digit start ⟨position, bareText digits ++ next⟩ = _
    simp only [readSetEscape, hb, ↓reduceIte, hcontrol, hclass, hcode, hdigit, hspan,
      Nat.not_lt.2 hlimit]
    rfl
  | named name code =>
    obtain ⟨hname, hchars, hcode⟩ := h
    exact (gives_readNamed hname (fun c hc => (hchars c hc).1) hcode).map _

/-! ## Sets -/

/-- The entry that a written entry of a set is read as. -/
def entryOf : SetItem → SetEntry
  | .one literal => .char literal.code
  | .range low high => .range low.code high.code
  | .named charClass negated => .named charClass .unicode negated

/-- The letter of a class after a backslash is read as the class, or its complement, in a set. -/
theorem readSetEntry_class (charClass : CharClass) (negated : Bool) (pieces : Pieces) :
    readSetEntry .unicode (behindBackslash (Regex.classLetter charClass negated)) start pieces =
      .ok (.named charClass .unicode negated, pieces) := by
  cases charClass <;> cases negated <;> rfl

/-- An entry that is no range is read as it is. -/
theorem gives_readSetEntry_of_isRange {item : SetItem} (h : item.IsWritten (margin next))
    (hrange : item.isRange = false) (start position : Nat) :
    Gives (readSetEntry .unicode item.first start ⟨position, item.more ++ next⟩) (entryOf item)
      next := by
  cases item with
  | one literal => exact gives_readSetEntry h .unicode start position
  | range low high => cases hrange
  | named charClass negated => exact ⟨position, readSetEntry_class charClass negated _⟩

/-- Two characters in order are the ends of a range. -/
theorem rangeEntry_of_le {first last : PatternToken} {low high : Nat} (pieces : Pieces)
    (h : low ≤ high) :
    rangeEntry first last (.char low) (.char high) pieces = .ok (.range low high) := by
  simp only [rangeEntry, Nat.not_lt.2 h, ↓reduceIte]

/-- Entries do not start with a character unless the first of them does. -/
theorem stops_items {items : List SetItem} {c : Char} {tokens : List PatternToken}
    (h : (itemTokens items).head? ≠ some (bare c)) (hend : items = [] → Stops (· == c) tokens) :
    Stops (· == c) (itemTokens items ++ tokens) := by
  cases items with
  | nil => exact hend rfl
  | cons item items =>
    intro token htoken
    cases htoken
    by_contra hne
    refine h (congrArg some (PatternToken.eq_bare_of_is ?_))
    exact Bool.not_eq_false _ ▸ hne

/-- A closing bracket does not end a set as its first piece. -/
theorem not_closes_of_first {token : PatternToken} {isFirst : Bool}
    (h : token = bare ']' → isFirst = true) : (token.is ']' && !isFirst) = false := by
  cases hfirst : token.is ']' with
  | false => rfl
  | true => rw [h (PatternToken.eq_bare_of_is hfirst)]; rfl

/-- The first and the last of a range are read, and then the other entries. -/
theorem readSetEntries_range {low high : Literal} {isFirst : Bool} {rest : List PatternToken}
    (h : (SetItem.range low high).IsWritten (margin rest))
    (hfirst : low.first = bare ']' → isFirst = true) (fuel position : Nat) :
    ∃ after, readSetEntries .unicode start (fuel + 1) isFirst
        ⟨position, (SetItem.range low high).tokens ++ rest⟩ =
      (readSetEntries .unicode start fuel false ⟨after, rest⟩).map fun (entries, pieces) =>
        (.range low.code high.code :: entries, pieces) := by
  obtain ⟨hlow, hhigh, hend, horder⟩ := h
  have htokens : (SetItem.range low high).tokens ++ rest = low.first ::
      (bareText low.more ++ bare '-' :: high.first :: (bareText high.more ++ rest)) := by
    simp [SetItem.tokens, SetItem.first, SetItem.more, Literal.tokens]
  have hlowBefore : low.IsWritten true
      (margin (bare '-' :: high.first :: (bareText high.more ++ rest))) := by
    rwa [Regex.margin_bare_cons_of_not_isMargin rfl]
  have hclose : high.first.is ']' = false := by
    by_contra hne
    exact hend (PatternToken.eq_bare_of_is (Bool.not_eq_false _ ▸ hne))
  obtain ⟨middle, hreadLow⟩ := gives_readSetEntry hlowBefore .unicode position
    (position + low.first.width)
  obtain ⟨after, hreadHigh⟩ := gives_readSetEntry hhigh .unicode (middle + 1)
    (middle + 1 + high.first.width)
  refine ⟨after, ?_⟩
  rw [htokens, readSetEntries]
  simp only [Pieces.next?, not_closes_of_first hfirst, hreadLow, Pieces.skip?_bare, hclose,
    hreadHigh, rangeEntry_of_le _ horder, bind, Except.bind, Bool.false_eq_true, ↓reduceIte]
  cases readSetEntries .unicode start fuel false ⟨after, rest⟩ <;> rfl

/-- An entry that is no range and that no hyphen follows is read, and then the other entries. -/
theorem readSetEntries_one {item : SetItem} {isFirst : Bool} {rest : List PatternToken}
    (h : item.IsWritten (margin rest)) (hfirst : item.first = bare ']' → isFirst = true)
    (hrange : item.isRange = false) (hstops : Stops (· == '-') rest) (fuel position : Nat) :
    ∃ after, readSetEntries .unicode start (fuel + 1) isFirst ⟨position, item.tokens ++ rest⟩ =
      (readSetEntries .unicode start fuel false ⟨after, rest⟩).map fun (entries, pieces) =>
        (entryOf item :: entries, pieces) := by
  obtain ⟨after, hread⟩ := gives_readSetEntry_of_isRange h hrange position
    (position + item.first.width)
  refine ⟨after, ?_⟩
  rw [SetItem.tokens, List.cons_append, readSetEntries]
  simp only [Pieces.next?, not_closes_of_first hfirst, hread, Pieces.skip?_of_stops hstops, bind,
    Except.bind, Bool.false_eq_true, ↓reduceIte]
  cases readSetEntries .unicode start fuel false ⟨after, rest⟩ <;> rfl

/-- A hyphen behind an entry that is no range is the last entry if the set ends after it. -/
theorem gives_readSetEntries_hyphen {item : SetItem} {isFirst : Bool}
    (h : item.IsWritten (margin (bare '-' :: bare ']' :: next)))
    (hfirst : item.first = bare ']' → isFirst = true) (hrange : item.isRange = false)
    (fuel position : Nat) :
    Gives (readSetEntries .unicode start (fuel + 1) isFirst
      ⟨position, item.tokens ++ bare '-' :: bare ']' :: next⟩) [entryOf item, .char '-'.toNat]
        next := by
  obtain ⟨after, hread⟩ := gives_readSetEntry_of_isRange h hrange position
    (position + item.first.width)
  refine ⟨after + 1 + 1, ?_⟩
  rw [SetItem.tokens, List.cons_append, readSetEntries]
  simp only [Pieces.next?, not_closes_of_first hfirst, hread, Pieces.skip?_bare, bind, Except.bind,
    Bool.false_eq_true, ↓reduceIte]
  rfl

/-- The entries of a set are read up to the bracket that closes it. -/
theorem gives_readSetEntries {items : List SetItem} {isFirst : Bool} {fuel : Nat}
    (h : Regex.AreWritten isFirst items) (hfuel : items.length < fuel) (position : Nat) :
    Gives (readSetEntries .unicode start fuel isFirst
      ⟨position, itemTokens items ++ bare ']' :: next⟩) (items.map entryOf) next := by
  induction items generalizing isFirst fuel position with
  | nil =>
    obtain ⟨fuel, rfl⟩ := Nat.exists_eq_succ_of_ne_zero (Nat.ne_zero_of_lt hfuel)
    cases h
    exact ⟨_, rfl⟩
  | cons item items ih =>
    obtain ⟨fuel, rfl⟩ := Nat.exists_eq_succ_of_ne_zero (Nat.ne_zero_of_lt hfuel)
    obtain ⟨hitem, hbracket, hhyphen, hitems⟩ := h
    have htokens : itemTokens (item :: items) ++ bare ']' :: next =
        item.tokens ++ (itemTokens items ++ bare ']' :: next) := by
      simp [itemTokens]
    have hmargin : margin (itemTokens items ++ bare ']' :: next) = margin (itemTokens items) :=
      Regex.margin_append_of_margin_eq_nil (Regex.margin_bare_cons_of_not_isMargin rfl)
    have hothers (position : Nat) := ih hitems (Nat.lt_of_succ_lt_succ hfuel) position
    rw [← hmargin] at hitem
    rw [htokens, List.map_cons]
    cases hrange : item.isRange with
    | true =>
      cases item with
      | one literal | named charClass negated => cases hrange
      | range low high =>
        obtain ⟨after, hread⟩ := readSetEntries_range hitem hbracket fuel position
        rw [hread]
        exact (hothers after).map _
    | false =>
      by_cases hhead : (itemTokens items).head? = some (bare '-')
      · obtain rfl := hhyphen hrange hhead
        exact gives_readSetEntries_hyphen hitem hbracket hrange fuel position
      · have hstops : Stops (· == '-') (itemTokens items ++ bare ']' :: next) :=
          stops_items hhead fun _ => by rintro _ ⟨⟩; rfl
        obtain ⟨after, hread⟩ := readSetEntries_one hitem hbracket hrange hstops fuel position
        rw [hread]
        exact (hothers after).map _

/-- A set is read as its entries without repetitions. -/
theorem gives_readSet {negated : Bool} {items : List SetItem}
    (h : (Symbol.set negated items).IsWritten (margin next)) (start position : Nat) :
    Gives (readSet .unicode start ⟨position, (Symbol.set negated items).more ++ next⟩)
      ((items.map entryOf).eraseDups, negated) next := by
  obtain ⟨hitems, hcaret⟩ := h
  have hne : items ≠ [] := by
    rintro rfl
    cases hitems
  have hbody (position : Nat) : Gives (readSetEntries .unicode start
      ((itemTokens items ++ bare ']' :: next).length + 1) true
      ⟨position, itemTokens items ++ bare ']' :: next⟩) (items.map entryOf) next := by
    refine gives_readSetEntries hitems ?_ position
    have hlength : items.length ≤ (itemTokens items).length := by
      rw [itemTokens, List.length_flatMap]
      refine (List.length_le_sum_of_one_le _ ?_).trans' (by rw [List.length_map])
      simp [SetItem.tokens]
    rw [List.length_append]
    omega
  cases negated with
  | false =>
    have hmore : (Symbol.set false items).more ++ next = itemTokens items ++ bare ']' :: next := by
      simp [Symbol.more]
    obtain ⟨after, hread⟩ := hbody position
    have hstops : Stops (· == '^') (itemTokens items ++ bare ']' :: next) :=
      stops_items (hcaret rfl) fun hnil => absurd hnil hne
    rw [hmore, readSet, Pieces.skip?_of_stops hstops]
    refine ⟨after, ?_⟩
    simp only [hread, bind, Except.bind]
  | true =>
    have hmore : (Symbol.set true items).more ++ next =
        bare '^' :: (itemTokens items ++ bare ']' :: next) := by
      simp [Symbol.more]
    obtain ⟨after, hread⟩ := hbody (position + 1)
    rw [hmore, readSet, Pieces.skip?_bare]
    refine ⟨after, ?_⟩
    simp only [hread, bind, Except.bind]

/-! ## Symbols -/

/-- The part that a symbol is read as. -/
def partOf : Symbol → PatternPart
  | .any => .any
  | .char literal => .char literal.code false
  | .named charClass negated => .set [.named charClass .unicode negated] false
  | .set negated items => .ofSet (items.map entryOf).eraseDups negated

variable {state : State}

/-- Three digits in base eight are read as a code point, and so are fewer after a zero. -/
theorem gives_octal {digit : Char} {digits : Text}
    (h : (Literal.octal digit digits).IsWritten false (margin next)) :
    Gives (takeEscape state digit start ⟨position, bareText digits ++ next⟩)
      (state.push start (.char (Text.ofDigits 8 (digit :: digits)) false)) next := by
  obtain ⟨hoctal, hlimit, hnext⟩ := h
  obtain ⟨hdigit, hdigits⟩ := List.forall_mem_cons.1 hoctal
  obtain ⟨hanchor, hclass, hcontrol, hcode⟩ := escapes_of_not_isAlpha
    (not_isAlpha_of_isOctalDigit hdigit) state.flags.alphabet start
    ⟨position, bareText digits ++ next⟩
  refine ⟨position + digits.length, ?_⟩
  by_cases hzero : digit = '0'
  · subst hzero
    have hspan := span_octal hdigits
      (hnext.imp_right fun ⟨hlength, _, hhead⟩ => ⟨hlength, hhead⟩) position
    simp only [takeEscape, hanchor, hclass, hcontrol, hcode, ↓reduceIte, hspan]
    rfl
  · -- another digit would be a reference to a group, but for three digits of base eight
    have hlength : digits.length = 2 := hnext.resolve_right fun ⟨_, hfirst, _⟩ => hzero (hfirst rfl)
    obtain ⟨second, third, rfl⟩ := List.length_eq_two.1 hlength
    obtain ⟨hsecond, hthird⟩ := List.forall_mem_cons.1 hdigits
    have hspanSecond : Pieces.span ⟨position, bareText [second] ++ (bareText [third] ++ next)⟩ 1
        Char.isDigit = ([second], ⟨position + 1, bareText [third] ++ next⟩) :=
      Pieces.span_bareText (by simpa using isDigit_of_isOctalDigit hsecond) (.inl rfl)
    have hspanThird : Pieces.span ⟨position + 1, bareText [third] ++ next⟩ 1 isOctalDigit =
        ([third], ⟨position + 1 + 1, next⟩) := span_octal hthird (.inl rfl) (position + 1)
    have hall : (digit :: [second] ++ [third]).all isOctalDigit = true := List.all_eq_true.2 hoctal
    have hnumber : takeNumber state digit start ⟨position, bareText [second, third] ++ next⟩ =
        .ok (state.push start (.char (Text.ofDigits 8 [digit, second, third]) false),
          ⟨position + [second, third].length, next⟩) := by
      have hsplit : bareText [second, third] ++ next =
          bareText [second] ++ (bareText [third] ++ next) := rfl
      rw [takeNumber, hsplit, hspanSecond]
      simp only [hspanThird, hall, List.length_singleton, decide_true, Bool.and_self, ↓reduceIte]
      exact if_neg (Nat.not_lt.2 hlimit)
    simp only [takeEscape, hanchor, hclass, hcontrol, hcode, hzero, ↓reduceIte,
      isDigit_of_isOctalDigit hdigit, hnumber]

/-- A character behind a backslash outside of sets is read as its code point. -/
theorem gives_takeEscape {literal : Literal} (h : literal.IsWritten false (margin next))
    (hbare : ∀ c, literal ≠ .bare c) :
    Gives (takeEscape state literal.first.char start ⟨position, bareText literal.more ++ next⟩)
      (state.push start (.char literal.code false)) next := by
  cases literal with
  | bare c => exact absurd rfl (hbare c)
  | escaped c =>
    obtain ⟨halpha, hdigit⟩ := Bool.or_eq_false_iff.1 h
    obtain ⟨hanchor, hclass, hcontrol, hcode⟩ :=
      escapes_of_not_isAlpha halpha state.flags.alphabet start ⟨position, next⟩
    have hzero : c ≠ '0' := by
      rintro rfl
      cases hdigit
    refine ⟨position, ?_⟩
    change takeEscape state c start ⟨position, next⟩ = _
    simp only [takeEscape, hanchor, hclass, hcontrol, hcode, hzero, hdigit, halpha, ↓reduceIte,
      Bool.false_eq_true]
    rfl
  | control letter value =>
    obtain h | ⟨hset, -, -⟩ := h
    · simp only [Literal.controls, List.mem_cons, Prod.mk.injEq, List.not_mem_nil, or_false] at h
      obtain ⟨rfl, rfl⟩ | ⟨rfl, rfl⟩ | ⟨rfl, rfl⟩ | ⟨rfl, rfl⟩ | ⟨rfl, rfl⟩ | ⟨rfl, rfl⟩ := h
      all_goals exact ⟨_, rfl⟩
    · cases hset
  | hexadecimal letter digits =>
    obtain ⟨hletter, hdigits, hlimit⟩ := h
    simp only [List.mem_cons, Prod.mk.injEq, List.not_mem_nil, or_false] at hletter
    obtain ⟨rfl, hlength⟩ | ⟨rfl, hlength⟩ | ⟨rfl, hlength⟩ := hletter
    all_goals
      exact (gives_readHexadecimal hlength hdigits hlimit).map fun code =>
        state.push start (.char code false)
  | octal digit digits => exact gives_octal h
  | named name code =>
    obtain ⟨hname, hchars, hcode⟩ := h
    exact (gives_readNamed hname (fun c hc => (hchars c hc).1) hcode).map fun code =>
      state.push start (.char code false)

/-- A piece is no sign of a repeat if it is none by itself and opens no bounds. -/
theorem repeatSign?_eq_none {token : PatternToken} {pieces : Pieces}
    (hsigns : token.is '*' = false ∧ token.is '+' = false ∧ token.is '?' = false)
    (hbrace : token.is '\x7b' = true → bounds? pieces = none) :
    repeatSign? token pieces = .ok none := by
  obtain ⟨hstar, hplus, hoptional⟩ := hsigns
  rw [repeatSign?, hstar, hplus, hoptional]
  cases hopen : token.is '\x7b' with
  | false => rfl
  | true => simp only [hbrace hopen, Bool.false_eq_true, ↓reduceIte]

/-- Without flags, a piece that starts no repeat is taken as it is. -/
theorem take_eq_takePlain {token : PatternToken} {pieces : Pieces} (hflags : state.flags = {})
    (h : repeatSign? token pieces = .ok none) :
    take state token start pieces = takePlain state token start pieces := by
  simp only [take, hflags, Bool.false_and, Bool.false_eq_true, ↓reduceIte, h, bind, Except.bind]

/-- Without flags, a piece that can start no sign of a repeat is taken as it is. -/
theorem take_of_not_sign {token : PatternToken} {pieces : Pieces} (hflags : state.flags = {})
    (h : ['*', '+', '?', '\x7b'].any token.is = false) :
    take state token start pieces = takePlain state token start pieces := by
  have hne : ∀ sign ∈ ['*', '+', '?', '\x7b'], token.is sign = false := fun sign hsign =>
    Bool.eq_false_iff.2 (List.any_eq_false.1 h sign hsign)
  refine take_eq_takePlain hflags (repeatSign?_eq_none ⟨hne _ (by decide), hne _ (by decide),
    hne _ (by decide)⟩ fun hopen => ?_)
  rw [hne _ (by decide)] at hopen
  cases hopen

/-- Without flags, a character after a backslash is taken as an escape. -/
theorem take_behindBackslash {c : Char} {pieces : Pieces} (hflags : state.flags = {}) :
    take state (behindBackslash c) start pieces = takeEscape state c start pieces := by
  rw [take_of_not_sign hflags rfl]
  rfl

/-- A character that is no sign differs from every sign. -/
theorem beq_sign_eq_false {c sign : Char} (hc : c ∉ Literal.signs) (hsign : sign ∈ Literal.signs) :
    (c == sign) = false :=
  beq_eq_false_iff_ne.2 fun heq => hc (heq ▸ hsign)

/-- A character that is no sign is taken as it is; a brace is no sign if it starts no bounds. -/
theorem take_bare {c : Char} {pieces : Pieces} (hflags : state.flags = {})
    (hc : c ∉ Literal.signs) (hbrace : c = '\x7b' → bounds? pieces = none) :
    take state (bare c) start pieces = .ok (state.push start (.char c.toNat false), pieces) := by
  have hne (sign : Char) (hsign : sign ∈ Literal.signs) : (c == sign) = false :=
    beq_sign_eq_false hc hsign
  have hrepeat : repeatSign? (bare c) pieces = .ok none := by
    refine repeatSign?_eq_none ⟨hne _ (by decide), hne _ (by decide), hne _ (by decide)⟩ ?_
    exact fun hopen => hbrace (eq_of_beq hopen)
  rw [take_eq_takePlain hflags hrepeat]
  simp only [takePlain, PatternToken.is_bare, hne '[' (by decide), hne '(' (by decide),
    hne ')' (by decide), hne '|' (by decide), hne '.' (by decide), hne '^' (by decide),
    hne '$' (by decide), Bool.false_eq_true, ↓reduceIte]
  rfl

/-- A symbol is taken as its part. -/
theorem gives_take {symbol : Symbol} (hflags : state.flags = {})
    (h : symbol.IsWritten (margin next)) (start position : Nat) :
    Gives (take state symbol.first start ⟨position, symbol.more ++ next⟩)
      (state.push start (partOf symbol)) next := by
  cases symbol with
  | any =>
    refine ⟨position, ?_⟩
    rw [Symbol.first, take_of_not_sign hflags (by decide)]
    rfl
  | char literal =>
    by_cases hbare : ∃ c, literal = .bare c
    · obtain ⟨c, rfl⟩ := hbare
      obtain ⟨hc, hbrace⟩ := h
      refine ⟨position, take_bare hflags hc fun hopen => ?_⟩
      exact bounds?_eq_none (hbrace hopen)
    · have hfirst : literal.first = behindBackslash literal.first.char := by
        cases literal with
        | bare c => exact absurd ⟨c, rfl⟩ hbare
        | escaped _ | control _ _ | hexadecimal _ _ | octal _ _ | named _ _ => rfl
      rw [Symbol.first, hfirst, take_behindBackslash hflags]
      exact gives_takeEscape h fun c hc => hbare ⟨c, hc⟩
  | named charClass negated =>
    refine ⟨position, ?_⟩
    rw [Symbol.first, take_behindBackslash hflags]
    have halphabet : state.flags.alphabet = .unicode := by rw [hflags]
    cases charClass <;> cases negated <;>
      simp only [Regex.classLetter, takeEscape, halphabet] <;> rfl
  | set negated items =>
    rw [Symbol.first, take_of_not_sign hflags (by decide)]
    have halphabet : state.flags.alphabet = .unicode := by rw [hflags]
    have hread := (gives_readSet h start position).map fun (entries, negated) =>
      state.push start (.ofSet entries negated)
    rw [← halphabet] at hread
    exact hread

/-! ## The characters of a symbol -/

/-- The part of a set is the one character in it, or the set. -/
theorem ofSet_cases (entries : List SetEntry) (negated : Bool) :
    (∃ code, entries = [.char code] ∧ PatternPart.ofSet entries negated = .char code negated) ∨
      PatternPart.ofSet entries negated = .set entries negated := by
  unfold PatternPart.ofSet
  split
  next code => exact .inl ⟨code, rfl, rfl⟩
  next => exact .inr rfl

/-- The part of a set has the pattern of its entries, or of their complement. -/
theorem plainPattern_ofSet (entries : List SetEntry) (negated : Bool) :
    (PatternPart.ofSet entries negated).plainPattern {} = .set ⟨entries, negated, none⟩ := by
  obtain ⟨code, rfl, hpart⟩ | hpart := ofSet_cases entries negated <;> rw [hpart] <;> rfl

/-- The entry that a written one is read as has the same characters. -/
theorem holds_entryOf {item : SetItem} {c : Char} :
    (entryOf item).holds none c = true ↔ item.Holds c := by
  cases item with
  | one literal => exact beq_iff_eq.trans eq_comm
  | range low high => simp [entryOf, SetEntry.holds, SetEntry.hasCode, SetItem.Holds]
  | named charClass negated => simp [entryOf, SetEntry.holds, SetItem.Holds]

/-- The part of a symbol stands for the characters of the symbol. -/
theorem plainPattern_partOf (symbol : Symbol) : ∃ chars,
    (partOf symbol).plainPattern {} = .set chars ∧ ∀ c, chars.holds c = true ↔ symbol.Holds c := by
  cases symbol with
  | any =>
    refine ⟨.anyButNewline, rfl, fun c => ?_⟩
    rw [Symbol.Holds, ne_eq, ← Char.toNat_inj]
    simp [CharSet.holds, CharSet.anyButNewline, SetEntry.holds, SetEntry.hasCode,
      @eq_comm _ c.toNat]
  | char literal =>
    refine ⟨.single none literal.code false, rfl, fun c => ?_⟩
    simp [CharSet.holds, CharSet.single, SetEntry.holds, SetEntry.hasCode, Symbol.Holds,
      @eq_comm _ c.toNat]
  | named charClass negated =>
    refine ⟨_, rfl, fun c => ?_⟩
    simp [CharSet.holds, SetEntry.holds, Symbol.Holds]
  | set negated items =>
    refine ⟨_, plainPattern_ofSet _ _, fun c => ?_⟩
    rw [Pattern.holds_eraseDups, CharSet.holds, Symbol.Holds, List.any_map, bne_iff_ne]
    have hany : (items.any ((fun entry => entry.holds none c) ∘ entryOf)) = true ↔
        ∃ item ∈ items, item.Holds c := by
      rw [List.any_eq_true]
      simp only [Function.comp_apply, holds_entryOf]
    rw [← hany]
    cases items.any ((fun entry => entry.holds none c) ∘ entryOf) <;> cases negated <;> simp

/-- A symbol spreads to itself. -/
theorem spread_partOf (symbol : Symbol) : (partOf symbol).spread = [partOf symbol] := by
  cases symbol with
  | any | char _ | named _ _ => rfl
  | set negated items =>
    rw [partOf]
    obtain ⟨code, -, hpart⟩ | hpart := ofSet_cases (items.map entryOf).eraseDups negated <;>
      rw [hpart] <;> rfl

end PatternReader

end ClassLint
