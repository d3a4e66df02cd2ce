import ClassLint.Naming.Format
import ClassLint.Proofs.Pattern.Language

/-!
# The words of the built-in shapes

The built-in shapes accept the names that are made of words in one way each: one word, words with
hyphens between them, either of these after a marker, or a row of letters and digits after a
capital. The words of a name are what hyphens cut it into, and the first of them starts with a
letter. The shapes exclude each other, and a marker in front of a name is either part of the shape
or taken off once.
-/

namespace ClassLint

namespace Shape

/-- Whether a character can stand in a word: a letter `a` to `z` or a digit. -/
def isWordChar (c : Char) : Bool := c.isLower || c.isDigit

/-- A word: one or more letters `a` to `z` and digits. -/
def IsWord (text : Text) : Prop := text ≠ [] ∧ ∀ c ∈ text, isWordChar c = true

/-- One word, and it starts with a letter. -/
def IsOneWord (name : Text) : Prop := IsWord name ∧ ∃ first ∈ name.head?, first.isLower = true

/-- What the hyphens of a name separate. -/
def parts (name : Text) : List Text := name.splitOn '-'

/-- Two words or more with hyphens between them, the first of which starts with a letter. -/
def IsTwoWords (name : Text) : Prop :=
  2 ≤ (parts name).length ∧ (∀ part ∈ parts name, IsWord part) ∧
    ∃ first ∈ (parts name).head?, IsOneWord first

/-- A row of letters `a` to `z`, `A` to `Z` and digits that starts with a capital. -/
def IsPascal (name : Text) : Prop :=
  (∀ c ∈ name, c.isAlphanum = true) ∧ ∃ first ∈ name.head?, first.isUpper = true

/-- The characters that names of a shape start with. -/
def startsWith : Shape → Char → Bool
  | .oneWord, c | .twoWords, c => c.isLower
  | .pascal, c => c.isUpper
  | .dashFirst, c => c == '-'
  | .underScored, c => c == '_'

/-- Two shapes whose names start with one character are the same, or one word and two words. -/
theorem startsWith_disjoint {shape other : Shape} {c : Char} (h : shape.startsWith c = true)
    (hother : other.startsWith c = true) :
    shape = other ∨ (shape = .oneWord ∧ other = .twoWords) ∨
      (shape = .twoWords ∧ other = .oneWord) := by
  cases shape <;> cases other <;>
    simp [startsWith, Text.isLower_eq, Text.isUpper_eq, ← Char.toNat_inj]
      at h hother ⊢ <;> omega

/-! ## Characters -/

/-- The set of small letters has the letters `a` to `z`. -/
theorem holds_small (c : Char) : (CharSet.ofRanges [('a', 'z')]).holds c = c.isLower := by
  simp [CharSet.holds, CharSet.ofRanges, SetEntry.holds, SetEntry.hasCode, Text.isLower_eq]

/-- The set of small letters and digits has the characters of words. -/
theorem holds_smallOrDigit (c : Char) :
    (CharSet.ofRanges [('a', 'z'), ('0', '9')]).holds c = isWordChar c := by
  simp [CharSet.holds, CharSet.ofRanges, SetEntry.holds, SetEntry.hasCode, isWordChar,
    Text.isLower_eq, Char.isDigit, UInt32.le_iff_toNat_le]

/-- The set of capitals has the letters `A` to `Z`. -/
theorem holds_capital (c : Char) : (CharSet.ofRanges [('A', 'Z')]).holds c = c.isUpper := by
  simp [CharSet.holds, CharSet.ofRanges, SetEntry.holds, SetEntry.hasCode, Text.isUpper_eq]

/-- The set of letters and digits has the letters of both cases and the digits. -/
theorem holds_letterOrDigit (c : Char) :
    (CharSet.ofRanges [('a', 'z'), ('A', 'Z'), ('0', '9')]).holds c = c.isAlphanum := by
  simp [CharSet.holds, CharSet.ofRanges, SetEntry.holds, SetEntry.hasCode, Char.isAlphanum,
    Text.isAlpha_eq, Text.isUpper_eq, Text.isLower_eq, Char.isDigit, UInt32.le_iff_toNat_le,
    Bool.or_left_comm, Bool.or_assoc]

/-- A word has no hyphens. -/
theorem hyphen_not_mem_word {word : Text} (h : IsWord word) : '-' ∉ word := by
  intro hmem
  exact absurd (h.2 _ hmem) (by decide)

/-! ## Words and hyphens -/

/-- One word that starts with a letter is a letter and a row of characters of words. -/
theorem isOneWord_iff {name : Text} : IsOneWord name ↔ ∃ first rest,
    name = first :: rest ∧ first.isLower = true ∧ ∀ c ∈ rest, isWordChar c = true := by
  constructor
  · rintro ⟨⟨-, hall⟩, first, hfirst, hlower⟩
    obtain ⟨rest, rfl⟩ := List.head?_eq_some_iff.1 hfirst
    exact ⟨first, rest, rfl, hlower, (List.forall_mem_cons.1 hall).2⟩
  · rintro ⟨first, rest, rfl, hlower, hrest⟩
    refine ⟨⟨List.cons_ne_nil _ _, List.forall_mem_cons.2 ⟨?_, hrest⟩⟩, first, rfl, hlower⟩
    rw [isWordChar, hlower, Bool.true_or]

/-- The pattern of a further word stands for a hyphen and a word. -/
theorem mem_furtherWord {text : Text} :
    text ∈ furtherWord.language ↔ ∃ word, text = '-' :: word ∧ IsWord word := by
  rw [show furtherWord.language =
      (Pattern.char '-').language * Pattern.repeated 1 none
        (Pattern.ofSet (.ofRanges [('a', 'z'), ('0', '9')])) from rfl,
    Pattern.mem_char_mul]
  simp only [Pattern.mem_repeated_ofSet, holds_smallOrDigit, IsWord, List.ne_nil_iff_length_pos]
  rfl

/-- Repeated, the pattern of a further word stands for words with a hyphen before each. -/
theorem mem_repeated_furtherWord {text : Text} {least : Nat} :
    text ∈ Pattern.repeated least none furtherWord.language ↔
      ∃ words : List Text, text = words.flatMap ('-' :: ·) ∧ least ≤ words.length ∧
        ∀ word ∈ words, IsWord word := by
  constructor
  · rintro ⟨count, hleast, -, hmem⟩
    obtain ⟨pieces, rfl, rfl, hpieces⟩ := Language.mem_pow.1 hmem
    choose! word hword using fun piece hpiece => mem_furtherWord.1 (hpieces piece hpiece)
    refine ⟨pieces.map word, ?_, by rwa [List.length_map], ?_⟩
    · have hpieces : pieces = pieces.map fun piece => '-' :: word piece := by
        conv_lhs => rw [← List.map_id pieces]
        exact List.map_congr_left fun piece hpiece => (hword piece hpiece).1
      rw [List.flatMap_map, List.flatMap_def, ← hpieces]
    · exact List.forall_mem_map.2 fun piece hpiece => (hword piece hpiece).2
  · rintro ⟨words, rfl, hleast, hwords⟩
    refine ⟨words.length, hleast, nofun, Language.mem_pow.2 ⟨words.map ('-' :: ·), ?_, ?_, ?_⟩⟩
    · rw [List.flatMap_def]
    · exact List.length_map _
    · exact List.forall_mem_map.2 fun word hword => mem_furtherWord.2 ⟨word, rfl, hwords word hword⟩

/-- Words with hyphens before all but the first are what the hyphens separate. -/
theorem parts_hyphenated {first : Text} {words : List Text} (hfirst : IsWord first)
    (hwords : ∀ word ∈ words, IsWord word) :
    parts (first ++ words.flatMap ('-' :: ·)) = first :: words := by
  induction words generalizing first with
  | nil => rw [List.flatMap_nil, List.append_nil, parts,
      List.splitOn_eq_singleton (hyphen_not_mem_word hfirst)]
  | cons word words ih =>
    obtain ⟨hword, hwords⟩ := List.forall_mem_cons.1 hwords
    rw [List.flatMap_cons, List.cons_append, parts,
      List.splitOn_append_cons_self_of_not_mem (hyphen_not_mem_word hfirst), ← parts,
      ih hword hwords]

/-- A name is its first part and the others, with a hyphen before each of them. -/
theorem eq_hyphenated_of_parts {name first : Text} {words : List Text}
    (h : parts name = first :: words) : name = first ++ words.flatMap ('-' :: ·) := by
  have hjoin : ∀ (words : List Text) (first : Text),
      ['-'].intercalate (first :: words) = first ++ words.flatMap ('-' :: ·) := by
    intro words
    induction words with
    | nil => simp
    | cons word words ih => simp [List.intercalate_cons_cons, ih]
  rw [← hjoin, ← h, parts, List.intercalate_splitOn]

/-- The hyphens of a name separate a first word that starts with a letter and, after it, a number of
further words that is large enough. -/
def IsHyphenated (least : Nat) (name : Text) : Prop :=
  ∃ first words, parts name = first :: words ∧ IsOneWord first ∧ least ≤ words.length ∧
    ∀ word ∈ words, IsWord word

/-- A small letter and a row of small letters and digits make one word. -/
theorem mem_firstWord {first : Text} :
    first ∈ small.language * (many smallOrDigit).language ↔ IsOneWord first := by
  rw [isOneWord_iff, small, Pattern.language, Pattern.mem_ofSet_mul]
  simp only [many, smallOrDigit, Pattern.language, Pattern.mem_repeated_ofSet, holds_small,
    holds_smallOrDigit, Nat.zero_le, true_and]

/-- A first word and a repeated further word make words with hyphens between them. -/
theorem mem_hyphenated {name : Text} {least : Nat} :
    name ∈ small.language * ((many smallOrDigit).language *
        Pattern.repeated least none furtherWord.language) ↔ IsHyphenated least name := by
  rw [← mul_assoc, Language.mem_mul]
  simp only [mem_firstWord, mem_repeated_furtherWord]
  constructor
  · rintro ⟨first, hone, _, ⟨words, rfl, hleast, hwords⟩, rfl⟩
    exact ⟨first, words, parts_hyphenated hone.1 hwords, hone, hleast, hwords⟩
  · rintro ⟨first, words, hparts, hone, hleast, hwords⟩
    exact ⟨first, hone, _, ⟨words, rfl, hleast, hwords⟩, (eq_hyphenated_of_parts hparts).symm⟩

/-- Two words or more are a first word and at least one further word. -/
theorem isTwoWords_iff {name : Text} : IsTwoWords name ↔ IsHyphenated 1 name := by
  constructor
  · rintro ⟨hlength, hall, first, hfirst, hone⟩
    obtain ⟨words, hparts⟩ := List.head?_eq_some_iff.1 hfirst
    rw [hparts] at hlength hall
    exact ⟨first, words, hparts, hone, Nat.le_of_succ_le_succ hlength,
      (List.forall_mem_cons.1 hall).2⟩
  · rintro ⟨first, words, hparts, hone, hleast, hwords⟩
    rw [IsTwoWords, hparts]
    exact ⟨Nat.succ_le_succ hleast, List.forall_mem_cons.2 ⟨hone.1, hwords⟩, first, rfl, hone⟩

/-- One word alone is a name without hyphens. -/
theorem parts_eq_singleton_iff {name first : Text} (h : IsOneWord first) :
    parts name = [first] ↔ name = first := by
  constructor
  · intro hparts
    simpa using eq_hyphenated_of_parts hparts
  · rintro rfl
    exact List.splitOn_eq_singleton (hyphen_not_mem_word h.1)

/-- A first word and any number of further words are one word, or two words or more. -/
theorem isHyphenated_zero_iff {name : Text} :
    IsHyphenated 0 name ↔ IsOneWord name ∨ IsTwoWords name := by
  rw [isTwoWords_iff]
  constructor
  · rintro ⟨first, words, hparts, hone, -, hwords⟩
    cases words with
    | nil => exact .inl ((parts_eq_singleton_iff hone).1 hparts ▸ hone)
    | cons word words =>
      exact .inr ⟨first, word :: words, hparts, hone, Nat.succ_le_succ (Nat.zero_le _), hwords⟩
  · rintro (hone | ⟨first, words, hparts, hone, -, hwords⟩)
    · exact ⟨name, [], (parts_eq_singleton_iff hone).2 rfl, hone, Nat.le_refl 0, nofun⟩
    · exact ⟨first, words, hparts, hone, Nat.zero_le _, hwords⟩

/-- One word is not two words. -/
theorem not_isTwoWords_of_isOneWord {name : Text} (h : IsOneWord name) : ¬ IsTwoWords name := by
  intro htwo
  rw [IsTwoWords, (parts_eq_singleton_iff h).2 rfl] at htwo
  exact absurd htwo.1 (Nat.lt_irrefl 1)

/-- A name of words starts with a letter `a` to `z`. -/
theorem IsHyphenated.exists_cons {name : Text} {least : Nat} (h : IsHyphenated least name) :
    ∃ first rest, name = first :: rest ∧ first.isLower = true := by
  obtain ⟨word, words, hparts, hone, -, -⟩ := h
  obtain ⟨first, rest, rfl, hlower, -⟩ := isOneWord_iff.1 hone
  exact ⟨first, _, eq_hyphenated_of_parts hparts, hlower⟩

end Shape

/-! ## What the shapes accept -/

namespace Format

variable {name : Text}

/-- The pattern of a shape has a language. -/
theorem isRegular_pattern (shape : Shape) : shape.pattern.IsRegular := by
  cases shape <;>
    simp [Shape.pattern, Shape.small, Shape.many, Shape.smallOrDigit, Shape.oneOrMore,
      Shape.furtherWord, Pattern.sequenceOf, Pattern.joinWith, Pattern.char, Pattern.IsRegular]

/-- A name has a shape exactly if it is in the language of the shape's pattern. -/
theorem fits_builtin_iff {shape : Shape} :
    (builtin shape).fits name = true ↔ name ∈ shape.pattern.language :=
  Pattern.fullMatch_iff (isRegular_pattern shape)

/-- The shape of one word accepts the names that are one word. -/
theorem fits_oneWord_iff : (builtin .oneWord).fits name = true ↔ Shape.IsOneWord name := by
  rw [fits_builtin_iff]
  exact Shape.mem_firstWord

/-- The shape of two words accepts the names that are two words or more. -/
theorem fits_twoWords_iff : (builtin .twoWords).fits name = true ↔ Shape.IsTwoWords name := by
  rw [fits_builtin_iff, Shape.isTwoWords_iff]
  exact Shape.mem_hyphenated

/-- The shape in capitals accepts the rows of letters and digits that start with a capital. -/
theorem fits_pascal_iff : (builtin .pascal).fits name = true ↔ Shape.IsPascal name := by
  rw [fits_builtin_iff, Shape.IsPascal]
  simp only [Shape.pattern, Pattern.sequenceOf, Pattern.joinWith, Shape.many, Pattern.language,
    Pattern.mem_ofSet_mul, Pattern.mem_repeated_ofSet, Shape.holds_capital,
    Shape.holds_letterOrDigit, Nat.zero_le, true_and]
  constructor
  · rintro ⟨first, rest, rfl, hupper, hrest⟩
    refine ⟨List.forall_mem_cons.2 ⟨?_, hrest⟩, first, rfl, hupper⟩
    rw [Char.isAlphanum, Text.isAlpha_eq, hupper, Bool.true_or, Bool.true_or]
  · rintro ⟨hall, first, hfirst, hupper⟩
    obtain ⟨rest, rfl⟩ := List.head?_eq_some_iff.1 hfirst
    exact ⟨first, rest, rfl, hupper, (List.forall_mem_cons.1 hall).2⟩

/-- A shape with a marker accepts what one word or two after the marker make. -/
theorem fits_marked_iff {shape : Shape} {marker : Char} (h : shape.lead? = some marker) :
    (builtin shape).fits name = true ↔
      ∃ rest, name = marker :: rest ∧
        ((builtin .oneWord).fits rest = true ∨ (builtin .twoWords).fits rest = true) := by
  have hlanguage : shape.pattern.language = (Pattern.char marker).language *
      (Shape.small.language * ((Shape.many Shape.smallOrDigit).language *
        Pattern.repeated 0 none Shape.furtherWord.language)) := by
    cases shape <;> cases h <;> rfl
  simp only [fits_builtin_iff, hlanguage, Pattern.mem_char_mul, Shape.mem_hyphenated,
    Shape.isHyphenated_zero_iff, ← fits_oneWord_iff, ← fits_twoWords_iff]

/-- What a name of a shape starts with. -/
theorem exists_cons_of_fits {shape : Shape} (h : (builtin shape).fits name = true) :
    ∃ first rest, name = first :: rest ∧ shape.startsWith first = true := by
  cases shape with
  | oneWord =>
    obtain ⟨first, rest, rfl, hlower, -⟩ := Shape.isOneWord_iff.1 (fits_oneWord_iff.1 h)
    exact ⟨first, rest, rfl, hlower⟩
  | twoWords => exact (Shape.isTwoWords_iff.1 (fits_twoWords_iff.1 h)).exists_cons
  | pascal =>
    obtain ⟨-, first, hfirst, hupper⟩ := fits_pascal_iff.1 h
    obtain ⟨rest, rfl⟩ := List.head?_eq_some_iff.1 hfirst
    exact ⟨first, rest, rfl, hupper⟩
  | dashFirst =>
    obtain ⟨rest, rfl, -⟩ := (fits_marked_iff rfl).1 h
    exact ⟨_, rest, rfl, rfl⟩
  | underScored =>
    obtain ⟨rest, rfl, -⟩ := (fits_marked_iff rfl).1 h
    exact ⟨_, rest, rfl, rfl⟩

/-- No name has two shapes. -/
theorem eq_of_fits {shape other : Shape} (h : (builtin shape).fits name = true)
    (hother : (builtin other).fits name = true) : shape = other := by
  obtain ⟨first, rest, rfl, hfirst⟩ := exists_cons_of_fits h
  obtain ⟨_, _, hcons, hotherFirst⟩ := exists_cons_of_fits hother
  obtain ⟨rfl, rfl⟩ := List.cons.inj hcons
  -- names of words alone start alike, and differ in how many words they have
  obtain hsame | ⟨rfl, rfl⟩ | ⟨rfl, rfl⟩ := Shape.startsWith_disjoint hfirst hotherFirst
  · exact hsame
  · exact absurd (fits_twoWords_iff.1 hother)
      (Shape.not_isTwoWords_of_isOneWord (fits_oneWord_iff.1 h))
  · exact absurd (fits_twoWords_iff.1 h)
      (Shape.not_isTwoWords_of_isOneWord (fits_oneWord_iff.1 hother))

end Format

/-! ## Markers -/

/-- A marker that the format does not have is taken off before the name is matched. -/
theorem nameMatches_of_sigil {role : Role} {sigil : Char} {format : Format} {rest : Text}
    {whitelist : List Text} (hsigil : role.sigil? = some sigil)
    (hlead : format.lead? ≠ some sigil) :
    nameMatches (sigil :: rest) role format whitelist = format.fits rest := by
  have hrole : (role == .component) = false := by cases role <;> first | rfl | cases hsigil
  simp [nameMatches, matchedName, hsigil, hlead, hrole]

/-- A marker that the shape has stays in front of the name that is matched. -/
theorem nameMatches_of_lead {role : Role} {sigil : Char} {shape : Shape} {name : Text}
    {whitelist : List Text} (hsigil : role.sigil? = some sigil) (hlead : shape.lead? = some sigil) :
    nameMatches name role (.builtin shape) whitelist = (Format.builtin shape).fits name := by
  have hrole : (role == .component) = false := by cases role <;> first | rfl | cases hsigil
  have hname : matchedName name role (.builtin shape) = name := by
    cases name <;> simp [matchedName, hsigil, Format.lead?, hlead]
  rw [nameMatches, hname, hrole, Bool.false_and, Bool.false_or]

/-- A marker in front of a name is part of a shape that has it: what is left has to be words. -/
theorem nameMatches_marked_iff {role : Role} {sigil : Char} {shape : Shape} {rest : Text}
    {whitelist : List Text} (hsigil : role.sigil? = some sigil) (hlead : shape.lead? = some sigil) :
    nameMatches (sigil :: rest) role (.builtin shape) whitelist = true ↔
      (Format.builtin .oneWord).fits rest = true ∨ (Format.builtin .twoWords).fits rest = true := by
  rw [nameMatches_of_lead hsigil hlead, Format.fits_marked_iff hlead]
  constructor
  · rintro ⟨_, hcons, h⟩
    obtain ⟨-, rfl⟩ := List.cons.inj hcons
    exact h
  · exact fun h => ⟨rest, rfl, h⟩

/-- The built-in shapes accept the names of their words and no others, exclude each other, and are
asked of what is left of a name once a marker that they do not have is taken off. -/
theorem builtin_shapes_accept_words :
    (∀ name, (Format.builtin .oneWord).fits name = true ↔ Shape.IsOneWord name) ∧
    (∀ name, (Format.builtin .twoWords).fits name = true ↔ Shape.IsTwoWords name) ∧
    (∀ name, (Format.builtin .pascal).fits name = true ↔ Shape.IsPascal name) ∧
    (∀ name, (Format.builtin .dashFirst).fits name = true ↔ ∃ rest, name = '-' :: rest ∧
      ((Format.builtin .oneWord).fits rest = true ∨ (Format.builtin .twoWords).fits rest = true)) ∧
    (∀ name, (Format.builtin .underScored).fits name = true ↔ ∃ rest, name = '_' :: rest ∧
      ((Format.builtin .oneWord).fits rest = true ∨ (Format.builtin .twoWords).fits rest = true)) ∧
    (∀ name (shape other : Shape), (Format.builtin shape).fits name = true →
      (Format.builtin other).fits name = true → shape = other) ∧
    (∀ rest whitelist,
      (nameMatches ('-' :: rest) .variant (.builtin .dashFirst) whitelist = true ↔
        (Format.builtin .oneWord).fits rest = true ∨ (Format.builtin .twoWords).fits rest = true) ∧
      (nameMatches ('_' :: rest) .helper (.builtin .underScored) whitelist = true ↔
        (Format.builtin .oneWord).fits rest = true ∨ (Format.builtin .twoWords).fits rest = true)) ∧
    (∀ rest format whitelist,
      (format.lead? ≠ some '-' →
        nameMatches ('-' :: rest) .variant format whitelist = format.fits rest) ∧
      (format.lead? ≠ some '_' →
        nameMatches ('_' :: rest) .helper format whitelist = format.fits rest)) := by
  refine ⟨fun _ => Format.fits_oneWord_iff, fun _ => Format.fits_twoWords_iff,
    fun _ => Format.fits_pascal_iff, fun _ => Format.fits_marked_iff rfl,
    fun _ => Format.fits_marked_iff rfl, fun _ _ _ => Format.eq_of_fits, fun rest whitelist => ?_,
    fun rest format whitelist => ?_⟩
  · exact ⟨nameMatches_marked_iff rfl rfl, nameMatches_marked_iff rfl rfl⟩
  · exact ⟨nameMatches_of_sigil rfl, nameMatches_of_sigil rfl⟩

/-- A helper loses its own marker alone; the shape with the other marker accepts what is left. -/
theorem builtin_shapes_accept_words_other_marker :
    (Format.builtin .dashFirst).lead? ≠ some '_' ∧
    nameMatches ['_', '-', 'b', 'i', 'g'] .helper (.builtin .dashFirst) [] =
      (Format.builtin .dashFirst).fits ['-', 'b', 'i', 'g'] ∧
    (Format.builtin .dashFirst).fits ['-', 'b', 'i', 'g'] = true := by
  obtain ⟨-, -, -, -, -, -, -, hmarkers⟩ := builtin_shapes_accept_words
  have hlead : (Format.builtin .dashFirst).lead? ≠ some '_' := by decide
  exact ⟨hlead, (hmarkers ['-', 'b', 'i', 'g'] (.builtin .dashFirst) []).2 hlead, by decide⟩

end ClassLint
