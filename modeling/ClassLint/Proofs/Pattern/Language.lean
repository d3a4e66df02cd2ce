import ClassLint.Pattern.Matcher
import Mathlib.Computability.Language

/-!
# The language of a pattern

A pattern of character sets, sequences, choices, repeats and groups stands for a language, and a
text as a whole matches it exactly if it is in the language. Following such a pattern never looks at
what groups have read or at the text before the place, so what a continuation accepts is a language
too, and following a pattern puts the pattern's language in front of it.
-/

namespace ClassLint

/-! ## Letters by their code points -/

namespace Text

/-- The small letters are those with the codes of `a` to `z`. -/
theorem isLower_eq (c : Char) : c.isLower = (decide (97 ≤ c.toNat) && decide (c.toNat ≤ 122)) := rfl

/-- The capitals are those with the codes of `A` to `Z`. -/
theorem isUpper_eq (c : Char) : c.isUpper = (decide (65 ≤ c.toNat) && decide (c.toNat ≤ 90)) :=
  Bool.decide_and (65 ≤ c.toNat) (c.toNat ≤ 90)

/-- The letters are the capitals and the small letters. -/
theorem isAlpha_eq (c : Char) : c.isAlpha = (c.isUpper || c.isLower) := rfl

end Text

/-! ## Languages -/

namespace Pattern

/-- The texts made of at least `least` and at most `most` texts of a language. -/
def repeated (least : Nat) (most : Option Nat) (language : Language Char) : Language Char :=
  {text | ∃ count, least ≤ count ∧ (∀ limit ∈ most, count ≤ limit) ∧ text ∈ language ^ count}

/-- The texts of one character of a set. -/
def ofSet (chars : CharSet) : Language Char := {text | ∃ c, chars.holds c = true ∧ text = [c]}

/-- A pattern without references, conditions, anchors, looking around and settled parts, whose
repeats have their bounds in order. -/
def IsRegular : Pattern → Prop
  | .empty | .set _ => True
  | .sequence first second | .choice first second => first.IsRegular ∧ second.IsRegular
  | .loop least most greed body =>
    greed ≠ .possessive ∧ (∀ limit ∈ most, least ≤ limit) ∧ body.IsRegular
  | .group _ body => body.IsRegular
  | .reference _ _ | .condition _ _ _ | .look _ _ _ | .atomic _ | .anchor _ => False

/-- The language of a pattern, as far as it has one. -/
def language : Pattern → Language Char
  | .empty => 1
  | .set chars => ofSet chars
  | .sequence first second => first.language * second.language
  | .choice first second => first.language + second.language
  | .loop least most _ body => repeated least most body.language
  | .group _ body => body.language
  | .reference _ _ | .condition _ _ _ | .look _ _ _ | .atomic _ | .anchor _ => 0

/-- A continuation accepts a place exactly if the text after it is in a language. -/
def Judges (accept : Continuation) (accepted : Language Char) : Prop :=
  ∀ cursor, (accept cursor).isSome = true ↔ cursor.rest ∈ accepted

/-- Following a part puts a language in front of the one that the continuation accepts. -/
def Reads (step : Follower) (part : Language Char) : Prop :=
  ∀ accept accepted, Judges accept accepted → Judges (step accept) (part * accepted)

variable {step : Follower} {accept : Continuation} {part accepted : Language Char} {text : Text}
  {chars : CharSet}

/-! ## Sets -/

/-- The texts of some number of characters of a set have this length and no other characters. -/
theorem mem_ofSet_pow {count : Nat} :
    text ∈ ofSet chars ^ count ↔ text.length = count ∧ ∀ c ∈ text, chars.holds c = true := by
  induction count generalizing text with
  | zero => rw [pow_zero, Language.mem_one, List.length_eq_zero_iff]; simp +contextual
  | succ count ih =>
    simp only [pow_succ', Language.mem_mul, ih]
    constructor
    · rintro ⟨_, ⟨c, hc, rfl⟩, rest, ⟨hlength, hrest⟩, rfl⟩
      exact ⟨congrArg (· + 1) hlength, List.forall_mem_cons.2 ⟨hc, hrest⟩⟩
    · rintro ⟨hlength, hall⟩
      obtain ⟨c, rest, rfl⟩ := List.exists_cons_of_length_eq_add_one hlength
      obtain ⟨hc, hrest⟩ := List.forall_mem_cons.1 hall
      exact ⟨[c], ⟨c, hc, rfl⟩, rest, ⟨Nat.succ.inj hlength, hrest⟩, rfl⟩

/-- Repeats of a set of characters are the rows of its characters of an allowed length. -/
theorem mem_repeated_ofSet {least : Nat} :
    text ∈ repeated least none (ofSet chars) ↔
      least ≤ text.length ∧ ∀ c ∈ text, chars.holds c = true := by
  constructor
  · rintro ⟨count, hleast, -, hmem⟩
    obtain ⟨rfl, hall⟩ := mem_ofSet_pow.1 hmem
    exact ⟨hleast, hall⟩
  · rintro ⟨hleast, hall⟩
    exact ⟨text.length, hleast, nofun, mem_ofSet_pow.2 ⟨rfl, hall⟩⟩

/-- A text that starts in a set has a first character of the set and goes on with the rest. -/
theorem mem_ofSet_mul :
    text ∈ ofSet chars * accepted ↔
      ∃ c rest, text = c :: rest ∧ chars.holds c = true ∧ rest ∈ accepted := by
  rw [Language.mem_mul]
  constructor
  · rintro ⟨_, ⟨c, hc, rfl⟩, rest, hrest, rfl⟩
    exact ⟨c, rest, rfl, hc, hrest⟩
  · rintro ⟨c, rest, rfl, hc, hrest⟩
    exact ⟨[c], ⟨c, hc, rfl⟩, rest, hrest, rfl⟩

/-- A text that starts with the pattern of a character starts with this character. -/
theorem mem_char_mul {marker : Char} :
    text ∈ (Pattern.char marker).language * accepted ↔
      ∃ rest, text = marker :: rest ∧ rest ∈ accepted := by
  have hholds (c : Char) :
      (CharSet.single none marker.toNat false).holds c = true ↔ marker = c := by
    rw [← Char.toNat_inj]
    simp [CharSet.holds, CharSet.single, SetEntry.holds, SetEntry.hasCode]
  rw [Pattern.char, language, mem_ofSet_mul]
  simp only [hholds]
  constructor
  · rintro ⟨_, rest, rfl, rfl, hrest⟩
    exact ⟨rest, rfl, hrest⟩
  · rintro ⟨rest, rfl, hrest⟩
    exact ⟨marker, rest, rfl, rfl, hrest⟩

/-! ## Rounds -/

/-- A number of rounds puts as many texts of the part in front of what is accepted. -/
theorem Reads.judges_times (h : Reads step part) (haccept : Judges accept accepted) (count : Nat) :
    Judges (times step count accept) (part ^ count * accepted) := by
  induction count with
  | zero => rwa [pow_zero, one_mul]
  | succ count ih =>
    rw [pow_succ', mul_assoc]
    exact h _ _ ih

/-- What up to `count` further rounds accept, if the last round started at `last` characters from
the end. -/
def within (part accepted : Language Char) : Nat → Option Nat → Language Char
  | 0, _ => accepted
  | count + 1, last =>
    {text | text ∈ accepted ∨
      last ≠ some text.length ∧ text ∈ part * within part accepted count (some text.length)}

/-- Up to a number of further rounds accept what these rounds can read, lazy or not. -/
theorem Reads.judges_upTo (h : Reads step part) (haccept : Judges accept accepted) (isLazy : Bool)
    (count : Nat) (last : Option Nat) :
    Judges (upTo step isLazy count last accept) (within part accepted count last) := by
  induction count generalizing last with
  | zero => exact haccept
  | succ count ih =>
    intro cursor
    have hagain := h _ _ (ih (some cursor.rest.length)) cursor
    have hmem : cursor.rest ∈ within part accepted (count + 1) last ↔ cursor.rest ∈ accepted ∨
        last ≠ some cursor.rest.length ∧
          cursor.rest ∈ part * within part accepted count (some cursor.rest.length) := Iff.rfl
    rw [hmem, ← haccept cursor, ← hagain, Pattern.upTo]
    by_cases hlast : last = some cursor.rest.length
    · cases isLazy <;> simp [hlast]
    · cases isLazy <;> simp [hlast, or_comm]

/-- Every further round that is made is one of the language. -/
theorem exists_rounds_of_mem_within {count : Nat} {last : Option Nat}
    (h : text ∈ within part accepted count last) :
    ∃ rounds ≤ count, text ∈ part ^ rounds * accepted := by
  induction count generalizing last text with
  | zero => exact ⟨0, Nat.le_refl 0, by rwa [pow_zero, one_mul]⟩
  | succ count ih =>
    obtain h | ⟨-, h⟩ := h
    · exact ⟨0, Nat.zero_le _, by rwa [pow_zero, one_mul]⟩
    · obtain ⟨first, hfirst, rest, hrest, rfl⟩ := Language.mem_mul.1 h
      obtain ⟨rounds, hrounds, hmem⟩ := ih hrest
      refine ⟨rounds + 1, Nat.succ_le_succ hrounds, ?_⟩
      rw [pow_succ', mul_assoc]
      exact Language.append_mem_mul hfirst hmem

/-- Rounds that all read something are made as long as there may be further ones. -/
theorem mem_within_of_flatten {factors : List Text} {rest : Text} {count : Nat} {last : Option Nat}
    (hfactors : ∀ factor ∈ factors, factor ∈ part ∧ factor ≠ []) (hrest : rest ∈ accepted)
    (hcount : factors.length ≤ count)
    (hlast : factors ≠ [] → last ≠ some (factors.flatten ++ rest).length) :
    factors.flatten ++ rest ∈ within part accepted count last := by
  induction factors generalizing count last with
  | nil =>
    cases count with
    | zero => exact hrest
    | succ count => exact .inl hrest
  | cons first factors ih =>
    obtain ⟨⟨hfirst, hne⟩, hfactors⟩ := List.forall_mem_cons.1 hfactors
    cases count with
    | zero => simp at hcount
    | succ count =>
      refine .inr ⟨hlast (List.cons_ne_nil _ _), ?_⟩
      rw [List.flatten_cons, List.append_assoc]
      refine Language.append_mem_mul hfirst
        (ih hfactors (Nat.le_of_succ_le_succ hcount) fun _ => ?_)
      have hpositive := List.length_pos_of_ne_nil hne
      simp only [List.length_append, ne_eq, Option.some.injEq]
      omega

/-- A row of texts of a language is one of no more texts, none of them empty. -/
theorem exists_factors_of_mem_pow {count : Nat} (h : text ∈ part ^ count) :
    ∃ factors : List Text, text = factors.flatten ∧ factors.length ≤ count ∧
      factors.length ≤ text.length ∧ ∀ factor ∈ factors, factor ∈ part ∧ factor ≠ [] := by
  induction count generalizing text with
  | zero =>
    rw [pow_zero, Language.mem_one] at h
    exact ⟨[], h, Nat.le_refl 0, Nat.zero_le _, List.forall_mem_nil _⟩
  | succ count ih =>
    rw [pow_succ', Language.mem_mul] at h
    obtain ⟨first, hfirst, rest, hrest, rfl⟩ := h
    obtain ⟨factors, rfl, hcount, hlength, hfactors⟩ := ih hrest
    by_cases hempty : first = []
    · subst hempty
      exact ⟨factors, rfl, Nat.le_succ_of_le hcount, hlength, hfactors⟩
    · have hpositive := List.length_pos_of_ne_nil hempty
      refine ⟨first :: factors, rfl, Nat.succ_le_succ hcount, ?_,
        List.forall_mem_cons.2 ⟨⟨hfirst, hempty⟩, hfactors⟩⟩
      rw [List.length_cons, List.length_append]
      omega

/-- With a bound on further rounds, or one that the text sets, the further rounds that are made are
all that there can be. -/
theorem mem_within_iff {more : Option Nat} :
    text ∈ within part accepted (more.getD (text.length + 2)) none ↔
      ∃ rounds, (∀ limit ∈ more, rounds ≤ limit) ∧ text ∈ part ^ rounds * accepted := by
  constructor
  · intro h
    obtain ⟨rounds, hrounds, hmem⟩ := exists_rounds_of_mem_within h
    refine ⟨rounds, fun limit hlimit => ?_, hmem⟩
    rwa [Option.mem_def.1 hlimit] at hrounds
  · rintro ⟨rounds, hrounds, hmem⟩
    obtain ⟨made, hmade, rest, hrest, rfl⟩ := Language.mem_mul.1 hmem
    obtain ⟨factors, rfl, hcount, hlength, hfactors⟩ := exists_factors_of_mem_pow hmade
    refine mem_within_of_flatten hfactors hrest ?_ fun _ => nofun
    cases more with
    | none =>
      rw [Option.getD_none, List.length_append]
      omega
    | some limit => exact hcount.trans (hrounds limit rfl)

/-- A repeat and what follows it split a text after some number of rounds within the bounds. -/
theorem mem_repeated_mul_iff {least : Nat} {most : Option Nat} :
    text ∈ repeated least most part * accepted ↔ ∃ count,
      least ≤ count ∧ (∀ limit ∈ most, count ≤ limit) ∧ text ∈ part ^ count * accepted := by
  simp only [Language.mem_mul]
  constructor
  · rintro ⟨made, ⟨count, hleast, hmost, hmade⟩, rest, hrest, htext⟩
    exact ⟨count, hleast, hmost, made, hmade, rest, hrest, htext⟩
  · rintro ⟨count, hleast, hmost, made, hmade, rest, hrest, htext⟩
    exact ⟨made, ⟨count, hleast, hmost, hmade⟩, rest, hrest, htext⟩

/-- What the further rounds accept that a repeat can make after those that it must. -/
def further (part accepted : Language Char) (least : Nat) (most : Option Nat) : Language Char :=
  {text | text ∈ within part accepted ((most.map (· - least)).getD (text.length + 2)) none}

/-- A repeat makes the rounds that it must, and then further ones. -/
theorem repeated_mul {least : Nat} {most : Option Nat} (hbounds : ∀ limit ∈ most, least ≤ limit) :
    repeated least most part * accepted = part ^ least * further part accepted least most := by
  ext text
  rw [mem_repeated_mul_iff, Language.mem_mul]
  constructor
  · rintro ⟨count, hleast, hmost, hmem⟩
    obtain ⟨more, rfl⟩ := Nat.exists_eq_add_of_le hleast
    rw [pow_add, mul_assoc] at hmem
    obtain ⟨made, hmade, rest, hrest, rfl⟩ := Language.mem_mul.1 hmem
    refine ⟨made, hmade, rest, mem_within_iff.2 ⟨more, ?_, hrest⟩, rfl⟩
    intro limit hlimit
    obtain ⟨bound, hbound, rfl⟩ := Option.map_eq_some_iff.1 hlimit
    have hcount := hmost bound hbound
    omega
  · rintro ⟨made, hmade, rest, hrest, rfl⟩
    obtain ⟨more, hmore, hmem⟩ := mem_within_iff.1 hrest
    refine ⟨least + more, Nat.le_add_right _ _, fun limit hlimit => ?_, ?_⟩
    · have hleast := hbounds limit hlimit
      have hmore := hmore (limit - least) (by rw [Option.mem_def.1 hlimit]; rfl)
      omega
    · rw [pow_add, mul_assoc]
      exact Language.append_mem_mul hmade hmem

/-- A repeat of a part that reads a language reads its repetitions, whether it tries as many rounds
as it can first or as few. -/
theorem Reads.loop {least : Nat} {most : Option Nat} {greed : Greed} (h : Reads step part)
    (hgreed : greed ≠ .possessive) (hbounds : ∀ limit ∈ most, least ≤ limit) :
    Reads (rounds step least most greed) (repeated least most part) := by
  intro accept accepted haccept
  have hfurther (isLazy : Bool) : Judges
      (fun cursor => upTo step isLazy (moreRounds least most cursor) none accept cursor)
      (further part accepted least most) := by
    intro cursor
    rw [h.judges_upTo haccept isLazy]
    cases most <;> rfl
  rw [repeated_mul hbounds]
  cases greed with
  | greedy => exact h.judges_times (hfurther false) least
  | lazy => exact h.judges_times (hfurther true) least
  | possessive => exact absurd rfl hgreed

/-! ## Patterns -/

/-- Following a pattern that has a language reads this language. -/
theorem reads_follow {pattern : Pattern} (h : pattern.IsRegular) :
    Reads pattern.follow pattern.language := by
  induction pattern with
  | empty =>
    intro accept accepted haccept
    rwa [language, one_mul]
  | set chars =>
    intro accept accepted haccept cursor
    rw [language, mem_ofSet_mul, follow]
    cases hrest : cursor.rest with
    | nil => simp
    | cons c rest =>
      have hread : (accept (cursor.read c rest)).isSome = true ↔ rest ∈ accepted :=
        haccept (cursor.read c rest)
      by_cases hc : chars.holds c = true
      · simpa [hc] using hread
      · simp [hc]
  | sequence first second ihFirst ihSecond =>
    intro accept accepted haccept
    rw [language, mul_assoc]
    exact ihFirst h.1 _ _ (ihSecond h.2 _ _ haccept)
  | choice first second ihFirst ihSecond =>
    intro accept accepted haccept cursor
    rw [language, add_mul, Language.mem_add, ← ihFirst h.1 _ _ haccept cursor,
      ← ihSecond h.2 _ _ haccept cursor, follow]
    simp
  | loop least most greed body ih =>
    exact (ih h.2.2).loop h.1 h.2.1
  | group index body ih =>
    intro accept accepted haccept cursor
    -- entering and leaving a group moves no place
    have hleave : Judges (fun ending => accept (ending.leave index)) accepted :=
      fun ending => haccept (ending.leave index)
    exact ih h _ _ hleave (cursor.enter index)
  | reference _ _ | condition _ _ _ | look _ _ _ | atomic _ | anchor _ => exact h.elim

/-- The end of a match accepts nothing but the empty rest. -/
theorem judges_acceptEnd : Judges acceptEnd 1 := by
  intro cursor
  rw [acceptEnd, Language.mem_one]
  split <;> simp_all

/-- A text as a whole matches a pattern that has a language exactly if it is in the language. -/
theorem fullMatch_iff {pattern : Pattern} (h : pattern.IsRegular) {text : Text} :
    pattern.fullMatch text = true ↔ text ∈ pattern.language := by
  rw [fullMatch, reads_follow h _ _ judges_acceptEnd, mul_one]

end Pattern

end ClassLint
