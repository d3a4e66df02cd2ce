import ClassLint.Config.Options
import ClassLint.Proofs.Pattern.Denotation

/-!
# Custom formats

A custom format accepts the names that are, as a whole, in the language of its written pattern.
Neither anchors around the pattern nor the order in which it is tried change this: the order of
branches, and whether a repeat takes as much or as little as it can, only decide which way to match
a name is found first.
-/

namespace ClassLint

namespace Format

/-- A written pattern makes a custom format, and the names that have it are those of a language. -/
def CustomAccepts (source : Text) (language : Language Char) : Prop :=
  ∀ option, ∃ pattern, ofPattern source option = .ok (.custom source pattern) ∧
    ∀ name, (custom source pattern).fits name = true ↔ name ∈ language

/-- A text that is read as a pattern makes a format whose names are the texts that match as a
whole. -/
theorem customAccepts_of_read {source : Text} {pattern : Pattern} {language : Language Char}
    (hread : Pattern.read source = .ok pattern)
    (h : ∀ name, pattern.fullMatch name = true ↔ name ∈ language) :
    CustomAccepts source language := by
  refine fun option => ⟨pattern, ?_, h⟩
  rw [ofPattern, hread]

/-- The format of a well-written regular expression accepts the language that it denotes. -/
theorem customAccepts_text {regex : Regex} (h : regex.WellWritten) :
    CustomAccepts regex.text regex.language := by
  obtain ⟨pattern, hread, hregular, hlanguage⟩ := regex.exists_read h
  refine customAccepts_of_read hread fun name => ?_
  rw [Pattern.fullMatch_iff hregular, hlanguage]

/-- The format of a well-written regular expression accepts exactly the names that are, as a whole,
in the language that the expression denotes. Anchors around the expression change nothing, and nor
do another order of the branches of a choice or repeats that change between taking as much and as
little as they can. -/
theorem custom_accepts_language {regex : Regex} (h : regex.WellWritten) :
    CustomAccepts regex.text regex.language ∧
    CustomAccepts (['^', '(', '?', ':'] ++ regex.text ++ [')', '$']) regex.language ∧
    ∀ other : Regex, regex.Rearranged other → CustomAccepts other.text regex.language := by
  refine ⟨customAccepts_text h, ?_, fun other hother => ?_⟩
  · obtain ⟨pattern, hread, haccepts⟩ := regex.exists_read_anchored h
    exact customAccepts_of_read hread haccepts
  · rw [hother.language_eq]
    exact customAccepts_text (hother.wellWritten h)

end Format

/-! ## A choice before nested repeats -/

namespace Regex

/-- A row of characters as they are. -/
def Branch.letters : Text → Branch
  | [] => .nil
  | c :: rest => .cons (.symbol (.char (.bare c))) none (letters rest)

/-- A row of letters is well written. -/
theorem Branch.isWritten_letters {word : Text} (h : word.all Char.isAlpha = true) :
    (letters word).IsWritten := by
  induction word with
  | nil => trivial
  | cons c word ih =>
    rw [List.all_cons, Bool.and_eq_true] at h
    obtain ⟨hc, hword⟩ := h
    refine ⟨⟨fun hmem => ?_, ?_⟩, nofun, ih hword⟩
    · have hsigns : Literal.signs.all (fun sign => !sign.isAlpha) = true := by decide
      have hsign := List.all_eq_true.1 hsigns c hmem
      rw [hc] at hsign
      cases hsign
    · rintro rfl
      cases hc

/-- A choice before `([c-e]*){1,2}`, where one of the two repeats takes as little as it can. -/
def beforeTail (choice : Regex) (isLazy : Bool) : Regex :=
  .last (.cons (.group .together choice) none
    (.cons (.group .captured (.last
      (.cons (.symbol (.set false [.range (.bare 'c') (.bare 'e')])) (some ⟨.star, isLazy⟩) .nil)))
      (some ⟨.braces (.between ['1'] ['2']), !isLazy⟩) .nil))

/-- A well-written choice stays so before the nested repeats. -/
theorem isWritten_beforeTail {choice : Regex} (h : choice.IsWritten) (isLazy : Bool) :
    (beforeTail choice isLazy).IsWritten := by
  have hset (next : Text) :
      (Symbol.set false [.range (.bare 'c') (.bare 'e')]).IsWritten next := by
    simp [Symbol.IsWritten, AreWritten, SetItem.IsWritten, Literal.IsWritten, Literal.first,
      Literal.code, SetItem.isRange, itemTokens, SetItem.tokens, SetItem.first, PatternToken.bare]
  have hstar : RepeatMark.star.IsWritten := trivial
  have hbounds : (RepeatMark.braces (.between ['1'] ['2'])).IsWritten := by
    refine ⟨by simp [Bounds.IsDigits], by decide, by decide, ?_⟩
    rintro limit ⟨⟩
    decide
  simp [beforeTail, Regex.IsWritten, Branch.IsWritten, Atom.IsWritten, GroupSort.IsWritten,
    GroupSort.names, h, hset, hstar, hbounds]

/-- A choice can be rearranged before the nested repeats, whichever of these is lazy. -/
theorem Rearranged.beforeTail {choice other : Regex} (h : choice.Rearranged other)
    (isLazy isLazy' : Bool) : (beforeTail choice isLazy).Rearranged (beforeTail other isLazy') :=
  .last (.cons (.group h) rfl (.cons (.group (.last (.cons (.symbol _) rfl .nil))) rfl .nil))

/-- The pattern `(?:a|ab|)([c-e]*?){1,2}`, whose first branch matches too little of some names. -/
def shortestFirst : Regex :=
  beforeTail (.or (.letters ['a']) (.or (.letters ['a', 'b']) (.last .nil))) true

/-- The pattern whose shortest branch comes first is well written. -/
theorem wellWritten_shortestFirst : shortestFirst.WellWritten := by
  have hchoice : (Regex.or (.letters ['a']) (.or (.letters ['a', 'b']) (.last .nil))).IsWritten :=
    ⟨Branch.isWritten_letters (by decide), Branch.isWritten_letters (by decide), trivial⟩
  exact ⟨isWritten_beforeTail hchoice true, by decide⟩

/-- The pattern whose shortest branch comes first denotes a name that this branch only starts. -/
theorem mem_language_shortestFirst : ['a', 'b', 'd'] ∈ shortestFirst.language := by
  have hword : ['a', 'b'] ∈ (Branch.letters ['a', 'b']).language :=
    ⟨['a'], ⟨'a', rfl, rfl⟩, ['b'], ⟨['b'], ⟨'b', rfl, rfl⟩, [], rfl, rfl⟩, rfl⟩
  have hsymbol : ['d'] ∈ (Symbol.set false [.range (.bare 'c') (.bare 'e')]).language := by
    refine ⟨'d', ?_, rfl⟩
    simp [Symbol.Holds, SetItem.Holds, Literal.code]
  refine ⟨['a', 'b'], .inr (.inl hword), ['d'], ⟨['d'], ⟨1, by decide, ?_, ?_⟩, [], rfl, rfl⟩, rfl⟩
  · rintro limit ⟨⟩
    decide
  · rw [pow_one]
    exact ⟨['d'], ⟨1, Nat.zero_le 1, by rintro _ ⟨⟩, by rwa [pow_one]⟩, [], rfl, rfl⟩

end Regex

namespace Format

/-- The branches in reverse, and the other repeat taking as little as it can, accept the same
names. -/
theorem custom_accepts_language_shortestFirst :
    Regex.shortestFirst.WellWritten ∧ ['a', 'b', 'd'] ∈ Regex.shortestFirst.language ∧
    CustomAccepts "(?:a|ab|)([c-e]*?)\x7b1,2\x7d".toList Regex.shortestFirst.language ∧
    CustomAccepts "^(?:(?:a|ab|)([c-e]*?)\x7b1,2\x7d)$".toList Regex.shortestFirst.language ∧
    CustomAccepts "(?:|ab|a)([c-e]*)\x7b1,2\x7d?".toList Regex.shortestFirst.language := by
  obtain ⟨hplain, hanchored, hrearranged⟩ :=
    custom_accepts_language Regex.wellWritten_shortestFirst
  have htext : Regex.shortestFirst.text = "(?:a|ab|)([c-e]*?)\x7b1,2\x7d".toList := by decide
  rw [htext] at hplain hanchored
  refine ⟨Regex.wellWritten_shortestFirst, Regex.mem_language_shortestFirst, hplain, hanchored, ?_⟩
  have hreverse : (Regex.or (.letters ['a']) (.or (.letters ['a', 'b']) (.last .nil))).Rearranged
      (.or .nil (.or (.letters ['a', 'b']) (.last (.letters ['a'])))) :=
    .reorder (List.reverse_perm _).symm
  exact hrearranged _ (hreverse.beforeTail true false)

end Format

end ClassLint
