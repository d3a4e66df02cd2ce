import ClassLint.Pattern.Part
import ClassLint.Proofs.Pattern.Language
import Mathlib.Algebra.BigOperators.Ring.List

/-!
# The languages of parts

A row of parts stands for the texts that its parts make one after the other. What a parenthesis
keeps together stands for the row of its parts. When the branches of a choice are closed, the parts
that all of them start with are taken out and branches of one character each become a set; the row
that is left stands for the union of the languages of the branches.
-/

namespace ClassLint

namespace Pattern

/-- Joined patterns stand for their languages, joined in the same way. -/
theorem language_joinWith {join : Pattern → Pattern → Pattern}
    {combine : Language Char → Language Char → Language Char} {unit : Language Char}
    (hjoin : ∀ first second : Pattern,
      (join first second).language = combine first.language second.language)
    (hunit : ∀ language, combine language unit = language) {patterns : List Pattern}
    (h : patterns ≠ []) :
    (joinWith join patterns).language = (patterns.map language).foldr combine unit := by
  induction patterns with
  | nil => exact absurd rfl h
  | cons pattern patterns ih =>
    cases patterns with
    | nil => exact (hunit pattern.language).symm
    | cons next rest =>
      have hjoined : joinWith join (pattern :: next :: rest) =
          join pattern (joinWith join (next :: rest)) := rfl
      rw [hjoined, hjoin, ih (List.cons_ne_nil _ _)]
      rfl

/-- A row of patterns stands for the texts that its patterns make one after the other. -/
theorem language_sequenceOf (patterns : List Pattern) :
    (sequenceOf patterns).language = (patterns.map language).prod := by
  cases patterns with
  | nil => rfl
  | cons pattern patterns =>
    rw [List.prod_eq_foldr]
    exact language_joinWith (fun _ _ => rfl) mul_one (List.cons_ne_nil _ _)

/-- A choice stands for the texts of any of its patterns. -/
theorem language_choiceOf {patterns : List Pattern} (h : patterns ≠ []) :
    (choiceOf patterns).language = (patterns.map language).sum := by
  rw [List.sum_eq_foldr]
  exact language_joinWith (fun _ _ => rfl) add_zero h

/-- Regular patterns are regular when they are joined in a regular way. -/
theorem isRegular_joinWith {join : Pattern → Pattern → Pattern} {patterns : List Pattern}
    (hjoin : ∀ first second : Pattern, first.IsRegular → second.IsRegular →
      (join first second).IsRegular)
    (h : ∀ pattern ∈ patterns, pattern.IsRegular) : (joinWith join patterns).IsRegular := by
  induction patterns with
  | nil => trivial
  | cons pattern patterns ih =>
    obtain ⟨hpattern, hpatterns⟩ := List.forall_mem_cons.1 h
    cases patterns with
    | nil => exact hpattern
    | cons next rest => exact hjoin _ _ hpattern (ih hpatterns)

/-- A row of regular patterns is regular. -/
theorem isRegular_sequenceOf {patterns : List Pattern}
    (h : ∀ pattern ∈ patterns, pattern.IsRegular) : (sequenceOf patterns).IsRegular :=
  isRegular_joinWith (fun _ _ hfirst hsecond => ⟨hfirst, hsecond⟩) h

/-- A choice of regular patterns is regular. -/
theorem isRegular_choiceOf {patterns : List Pattern} (h : ∀ pattern ∈ patterns, pattern.IsRegular) :
    (choiceOf patterns).IsRegular :=
  isRegular_joinWith (fun _ _ hfirst hsecond => ⟨hfirst, hsecond⟩) h

/-- A set without entries has no characters. -/
theorem ofSet_nil : ofSet { entries := [] } = 0 := by
  ext text
  constructor
  · rintro ⟨c, hc, -⟩
    cases hc
  · exact fun h => absurd h (Language.notMem_zero text)

/-- The entries of two sets together make the union of the sets. -/
theorem ofSet_append (entries others : List SetEntry) :
    ofSet { entries := entries ++ others } = ofSet { entries } + ofSet { entries := others } := by
  ext text
  rw [Language.mem_add]
  simp only [ofSet, CharSet.holds, List.any_append, bne_iff_ne, ne_eq, Bool.not_eq_false,
    Bool.or_eq_true]
  constructor
  · rintro ⟨c, hc | hc, rfl⟩
    · exact .inl ⟨c, hc, rfl⟩
    · exact .inr ⟨c, hc, rfl⟩
  · rintro (⟨c, hc, rfl⟩ | ⟨c, hc, rfl⟩)
    · exact ⟨c, .inl hc, rfl⟩
    · exact ⟨c, .inr hc, rfl⟩

/-- A set has the same characters without the repetitions of its entries. -/
theorem holds_eraseDups (entries : List SetEntry) (negated : Bool) (casing : Option Alphabet)
    (c : Char) : CharSet.holds ⟨entries.eraseDups, negated, casing⟩ c =
      CharSet.holds ⟨entries, negated, casing⟩ c := by
  have hany : (entries.eraseDups.any fun entry => entry.holds casing c) =
      entries.any fun entry => entry.holds casing c := by
    rw [Bool.eq_iff_iff, List.any_eq_true, List.any_eq_true]
    simp only [List.mem_eraseDups]
  rw [CharSet.holds, CharSet.holds, hany]

end Pattern

namespace PatternPart

/-- A part that is no parenthesis and whose pattern has a language. -/
structure IsPlain (part : PatternPart) : Prop where
  spread_eq : part.spread = [part]
  isRegular : (part.plainPattern {}).IsRegular

/-- The language of a row of parts. -/
def rowLanguage (row : List PatternPart) : Language Char :=
  (row.map fun part => (part.plainPattern {}).language).prod

variable {row : List PatternPart} {rows : List (List PatternPart)}

/-- A row without parts stands for the empty text. -/
@[simp] theorem rowLanguage_nil : rowLanguage [] = 1 := rfl

/-- The first part of a row stands in front of the others. -/
@[simp] theorem rowLanguage_cons (part : PatternPart) (row : List PatternPart) :
    rowLanguage (part :: row) = (part.plainPattern {}).language * rowLanguage row := by
  rw [rowLanguage, List.map_cons, List.prod_cons, rowLanguage]

/-- Two rows stand for the texts of the first with those of the second after them. -/
@[simp] theorem rowLanguage_append (row rest : List PatternPart) :
    rowLanguage (row ++ rest) = rowLanguage row * rowLanguage rest := by
  rw [rowLanguage, List.map_append, List.prod_append, rowLanguage, rowLanguage]

/-- Plain parts spread to themselves. -/
theorem flatMap_spread_of_isPlain (h : ∀ part ∈ row, part.IsPlain) : row.flatMap spread = row := by
  induction row with
  | nil => rfl
  | cons part row ih =>
    obtain ⟨hpart, hrow⟩ := List.forall_mem_cons.1 h
    rw [List.flatMap_cons, hpart.spread_eq, ih hrow, List.singleton_append]

/-- The pattern of parts has the language of the row that they spread to. -/
theorem language_sequencePattern (parts : List PatternPart) :
    (sequencePattern {} parts).language = rowLanguage (parts.flatMap spread) := by
  rw [sequencePattern, Pattern.language_sequenceOf, List.map_map]
  rfl

/-- Parts that spread to plain ones make a regular pattern. -/
theorem isRegular_sequencePattern {parts : List PatternPart}
    (h : ∀ part ∈ parts.flatMap spread, part.IsPlain) : (sequencePattern {} parts).IsRegular := by
  refine Pattern.isRegular_sequenceOf ?_
  rw [List.forall_mem_map]
  exact fun part hpart => (h part hpart).isRegular

/-! ## Choices -/

/-- Parts that are taken for the same are equal. -/
theorem eq_of_isSame {part other : PatternPart} (h : isSame part other = true) : part = other := by
  unfold isSame at h
  split at h <;> simp_all

/-- What the branches start with and what is left of each are the branches. -/
theorem map_append_of_splitCommon (first : List PatternPart) (others : List (List PatternPart)) :
    (splitCommon first others).2.map ((splitCommon first others).1 ++ ·) = first :: others := by
  induction first generalizing others with
  | nil => simp [splitCommon]
  | cons part rest ih =>
    rw [splitCommon]
    split
    next hsame =>
      -- each of the others starts with the part
      have hothers : others.map (part :: List.tail ·) = others := by
        conv_rhs => rw [← List.map_id others]
        refine List.map_congr_left fun other hother => ?_
        have hhead := List.all_eq_true.1 hsame other hother
        cases other with
        | nil => cases hhead
        | cons next other => rw [eq_of_isSame hhead]; rfl
      have hrest := ih (others.map List.tail)
      generalize splitCommon rest (others.map List.tail) = split at hrest
      calc split.2.map (part :: split.1 ++ ·)
          = (split.2.map (split.1 ++ ·)).map (part :: ·) := by rw [List.map_map]; rfl
        _ = (rest :: others.map List.tail).map (part :: ·) := by rw [hrest]
        _ = (part :: rest) :: others := by
          rw [List.map_cons, List.map_map]
          exact congrArg _ hothers
    next => simp

/-- A part with entries of a set stands for the characters of this set. -/
theorem language_of_entries? {part : PatternPart} {entries : List SetEntry}
    (h : part.entries? = some entries) :
    (part.plainPattern {}).language = Pattern.ofSet { entries } := by
  unfold entries? at h
  split at h <;> cases h <;> rfl

/-- Branches that become a set stand for its characters. -/
theorem sum_of_setOfBranches? {entries : List SetEntry} (h : setOfBranches? rows = some entries) :
    (rows.map rowLanguage).sum = Pattern.ofSet { entries } := by
  induction rows generalizing entries with
  | nil =>
    cases h
    exact Pattern.ofSet_nil.symm
  | cons row rows ih =>
    match row, h with
    | [part], h =>
      simp only [setOfBranches?, Option.bind_eq_bind, Option.bind_eq_some_iff] at h
      obtain ⟨first, hfirst, others, hothers, h⟩ := h
      cases h
      rw [List.map_cons, List.sum_cons, ih hothers, rowLanguage_cons, rowLanguage_nil, mul_one,
        language_of_entries? hfirst, Pattern.ofSet_append]

/-- A choice of branches is one part, whose language is the union of those of the branches. -/
theorem ofChoice_spec (hrows : rows ≠ []) (hplain : ∀ row ∈ rows, ∀ part ∈ row, part.IsPlain) :
    (ofChoice {} rows).IsPlain ∧
      ((ofChoice {} rows).plainPattern {}).language = (rows.map rowLanguage).sum := by
  rw [ofChoice]
  cases hset : setOfBranches? rows with
  | some entries =>
    refine ⟨⟨rfl, trivial⟩, ?_⟩
    rw [sum_of_setOfBranches? hset]
    ext text
    simp only [plainPattern, Pattern.language, Pattern.ofSet, Pattern.holds_eraseDups]
    rfl
  | none =>
    refine ⟨⟨rfl, Pattern.isRegular_choiceOf ?_⟩, ?_⟩
    · rw [List.forall_mem_map]
      intro row hrow
      refine isRegular_sequencePattern ?_
      rw [flatMap_spread_of_isPlain (hplain row hrow)]
      exact hplain row hrow
    · rw [plainPattern, Pattern.language_choiceOf (by simpa using hrows), List.map_map]
      refine congrArg List.sum (List.map_congr_left fun row hrow => ?_)
      rw [Function.comp_apply, language_sequencePattern,
        flatMap_spread_of_isPlain (hplain row hrow)]

end PatternPart

namespace Branches

open PatternPart (rowLanguage)

/-- The rows of all branches. -/
def rows (branches : Branches) : List (List PatternPart) := branches.finished ++ [branches.current]

/-- Closing the branches makes a row of parts whose language is the union of those of the
branches. -/
theorem close_spec {branches : Branches}
    (hplain : ∀ row ∈ branches.rows, ∀ part ∈ row, part.IsPlain) :
    (∀ part ∈ branches.close {}, part.IsPlain) ∧
      rowLanguage (branches.close {}) = (branches.rows.map rowLanguage).sum := by
  rw [close]
  cases hfinished : branches.finished with
  | nil =>
    have hrows : branches.rows = [branches.current] := by rw [rows, hfinished, List.nil_append]
    rw [hrows] at hplain ⊢
    exact ⟨hplain _ List.mem_cons_self, by simp⟩
  | cons first others =>
    have hrows : branches.rows = first :: (others ++ [branches.current]) := by
      rw [rows, hfinished, List.cons_append]
    have hsplit := PatternPart.map_append_of_splitCommon first (others ++ [branches.current])
    rw [← hrows] at hsplit
    simp only
    generalize PatternPart.splitCommon first (others ++ [branches.current]) = split at hsplit ⊢
    obtain ⟨common, left⟩ := split
    have hleft : left ≠ [] := by
      rintro rfl
      rw [hrows] at hsplit
      cases hsplit
    rw [← hsplit, List.forall_mem_map] at hplain
    simp only [List.mem_append] at hplain
    obtain ⟨hchoice, hlanguage⟩ := PatternPart.ofChoice_spec hleft fun row hrow part hpart =>
      hplain row hrow part (.inr hpart)
    constructor
    · intro part hpart
      obtain hpart | hpart := List.mem_append.1 hpart
      · obtain ⟨row, hrow⟩ := List.exists_mem_of_ne_nil left hleft
        exact hplain row hrow part (.inl hpart)
      · rw [List.mem_singleton.1 hpart]
        exact hchoice
    · rw [← hsplit, List.map_map]
      simp only [PatternPart.rowLanguage_append, PatternPart.rowLanguage_cons,
        PatternPart.rowLanguage_nil, mul_one, hlanguage, Function.comp_def]
      exact (List.sum_map_mul_left ..).symm

/-- So the pattern of closed branches has the union of their languages. -/
theorem sequencePattern_close_spec {branches : Branches}
    (hplain : ∀ row ∈ branches.rows, ∀ part ∈ row, part.IsPlain) :
    (PatternPart.sequencePattern {} (branches.close {})).IsRegular ∧
      (PatternPart.sequencePattern {} (branches.close {})).language =
        (branches.rows.map rowLanguage).sum := by
  obtain ⟨hclosed, hlanguage⟩ := close_spec hplain
  have hspread := PatternPart.flatMap_spread_of_isPlain hclosed
  refine ⟨PatternPart.isRegular_sequencePattern (hspread.symm ▸ hclosed), ?_⟩
  rw [PatternPart.language_sequencePattern, hspread, hlanguage]

end Branches

end ClassLint
