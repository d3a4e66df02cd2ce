import ClassLint.Proofs.Selector.ClassNames
import ClassLint.Proofs.Stylesheet.Commas

/-!
# Trimming and escaped blanks

Commas divide a prelude into entries; an entry without its comments, trimmed, is a selector's text.
The scan takes a backslash and the character behind it for one unit, but trimming looks at single
characters: it drops an escaped blank at the end of an entry and leaves its backslash. That is the
only way in which a unit is cut. All other entries keep their escapes, and so do the names of the
class tokens that are found in them.
-/

namespace ClassLint

/-- A text of whole units: every backslash that escapes has a character behind it. -/
def WholeUnits (text : Text) : Prop := ∃ after, Nesting.top.LeadsTo text after

/-- A text that ends with an escaped blank, or with one and further blanks. -/
def EndsEscapedBlank (text : Text) : Prop :=
  ∃ before c blanks, text = before ++ '\\' :: c :: blanks ∧ WholeUnits before ∧
    Text.isBlank c = true ∧ ∀ d ∈ blanks, Text.isBlank d = true

namespace Text

/-- A text is what is left of it when it is trimmed, between blanks. -/
theorem exists_around_strip (text : Text) :
    ∃ lead trail, text = lead ++ (strip text ++ trail) ∧ (∀ c ∈ lead, isBlank c = true) ∧
      ∀ c ∈ trail, isBlank c = true := by
  obtain ⟨trail, hrest, htrail⟩ := exists_blanks (text.dropWhile isBlank)
  refine ⟨text.takeWhile isBlank, trail, ?_, fun c hc => List.mem_takeWhile_imp hc, htrail⟩
  rw [strip, ← hrest, List.takeWhile_append_dropWhile]

/-- Trimming a trimmed text changes nothing. -/
theorem strip_strip (text : Text) : strip (strip text) = strip text := by
  have hhead : ∀ c ∈ (strip text).head?, isBlank c = false := by
    intro c hc
    rw [head?_strip] at hc
    simpa using List.find?_some hc
  rw [strip_of_head hhead, strip, stripRight, stripRight, List.reverse_reverse,
    List.dropWhile_idempotent]

end Text

namespace WholeUnits

variable {text first : Text}

/-- The empty text is a row of no units. -/
theorem nil : WholeUnits [] := ⟨.top, .nil⟩

/-- Behind a text that leaves nothing open whole units are whole units on their own. -/
theorem append_iff (h : Nesting.top.LeadsTo first .top) (text : Text) :
    WholeUnits (first ++ text) ↔ WholeUnits text := by
  simp only [WholeUnits, h.append_iff]

/-- A text that is no row of whole units ends with a backslash that has nothing to escape. -/
theorem exists_dangling (h : ¬ WholeUnits text) :
    ∃ before, text = before ++ ['\\'] ∧ WholeUnits before := by
  rcases Nesting.leadsTo_or_dangling .top text with hwhole | ⟨before, after, htext, hbefore⟩
  · exact absurd hwhole h
  · exact ⟨before, htext, after, hbefore⟩

/-- A backslash behind whole units has nothing to escape. -/
theorem not_append_backslash (h : WholeUnits text) : ¬ WholeUnits (text ++ ['\\']) := by
  obtain ⟨after, htext⟩ := h
  rintro ⟨other, hwhole⟩
  exact htext.not_append_backslash hwhole

/-- Trimming keeps the units of a text whole exactly if the text does not end with an escaped
blank. -/
theorem strip_iff (h : WholeUnits text) :
    WholeUnits (Text.strip text) ↔ ¬ EndsEscapedBlank text := by
  have hblanks {lead : Text} (hlead : ∀ c ∈ lead, Text.isBlank c = true) :
      Nesting.top.LeadsTo lead .top := Nesting.Proper.top.leadsTo_blanks hlead
  constructor
  · rintro hstrip ⟨before, c, blanks, rfl, hbefore, hc, hrest⟩
    have hbackslash : ∃ d ∈ ['\\'].head?, Text.isBlank d = false := ⟨'\\', rfl, rfl⟩
    have hlead : ∀ d ∈ before.takeWhile Text.isBlank, Text.isBlank d = true :=
      fun d hd => List.mem_takeWhile_imp hd
    rw [← List.takeWhile_append_dropWhile (p := Text.isBlank) (l := before),
      append_iff (hblanks hlead)] at hbefore
    have htrail : Text.stripRight (c :: blanks) = [] := by
      have hempty := Text.stripRight_append (List.forall_mem_cons.2 ⟨hc, hrest⟩) []
      rwa [List.nil_append] at hempty
    -- What is left ends with the backslash of the escape.
    rw [← List.singleton_append, Text.strip_around hbackslash hbackslash, htrail,
      List.append_nil] at hstrip
    exact hbefore.not_append_backslash hstrip
  · intro hends
    by_contra hcut
    obtain ⟨lead, trail, htext, hlead, htrail⟩ := text.exists_around_strip
    obtain ⟨before, hstrip, hbefore⟩ := exists_dangling hcut
    rw [hstrip, List.append_assoc, List.singleton_append, ← List.append_assoc] at htext
    have hwhole : WholeUnits (lead ++ before) := (append_iff (hblanks hlead) before).2 hbefore
    cases trail with
    | nil => exact hwhole.not_append_backslash (htext ▸ h)
    | cons c trail =>
      obtain ⟨hc, htrail⟩ := List.forall_mem_cons.1 htrail
      exact hends ⟨lead ++ before, c, trail, htext, hwhole, hc, htrail⟩

end WholeUnits

/-- What a reading leaves of a text that does not end with a lone backslash consists of whole
units. -/
theorem Nesting.Reads.leadsTo_code {nesting after : Nesting} {text code : Text} {ending : Ending}
    (h : nesting.Reads text code ending after) (hending : ending ≠ .backslash) :
    nesting.LeadsTo code after := by
  induction h with
  | nil => exact .nil
  | backslash => exact absurd rfl hending
  | unclosed => exact .nil
  | comment _ _ _ ih => exact ih hending
  | escape _ ih => exact .escape (ih hending)
  | char hc _ hturns _ ih => exact .char hc hturns (ih hending)

/-- The compounds of a text of whole units consist of whole units. -/
theorem Links.wholeUnits {compound rest : Text} {links : List (Combinator × Text)}
    (h : Links rest links) (hclosed : rest ≠ [] → Nesting.top.LeadsTo compound .top)
    (hwhole : WholeUnits (compound ++ rest)) :
    ∀ text ∈ compound :: links.map Prod.snd, WholeUnits text := by
  induction h generalizing compound with
  | @trail gap hgap =>
    rw [List.map_nil, List.forall_mem_singleton]
    by_cases hempty : gap = []
    · rwa [hempty, List.append_nil] at hwhole
    · exact ⟨.top, hclosed hempty⟩
  | @link gap next rest _ links hne hgap _ _ hnext _ ih =>
    have hcompound := hclosed (List.append_ne_nil_of_left_ne_nil hne _)
    rw [WholeUnits.append_iff hcompound,
      WholeUnits.append_iff (leadsTo_of_separators hgap)] at hwhole
    exact List.forall_mem_cons.2 ⟨⟨.top, hcompound⟩, ih hnext hwhole⟩

namespace ClassToken

/-- A token of a compound is the one that a dot in it announces. -/
theorem exists_namedAt_of_mem {text : Text} {token : ClassToken} (h : token ∈ ofCompound text) :
    ∃ offset, Announces text offset ∧ NamedAt text offset token := by
  rw [ofCompound] at h
  dsimp only at h
  split at h
  · rw [ofMarks_eq_map] at h
    obtain ⟨offset, hoffset, rfl⟩ := List.mem_map.1 h
    have hannounces := announces_iff.1 (List.mem_filter.1 hoffset).2
    exact ⟨offset, hannounces, namedAt_nameBehind hannounces⟩
  · cases h

/-- The names in a compound of whole units consist of whole units. -/
theorem wholeUnits_name {text : Text} {token : ClassToken} (hwhole : WholeUnits text)
    (h : token ∈ ofCompound text) : WholeUnits token.name := by
  obtain ⟨offset, hannounces, hnamed⟩ := exists_namedAt_of_mem h
  obtain ⟨before, after, rfl, -, hbefore, hclosed⟩ := exists_around_of_namedAt hannounces hnamed
  have htoken : WholeUnits (before ++ token.text) := by
    by_cases hend : after = []
    · rwa [hend, List.append_nil] at hwhole
    · exact ⟨.top, hclosed hend⟩
  have hdot : Nesting.top.LeadsTo ['.'] .top := .char (by decide) (Nesting.turns_iff.2 rfl) .nil
  rwa [WholeUnits.append_iff hbefore, text, ← List.singleton_append,
    WholeUnits.append_iff hdot] at htoken

end ClassToken

namespace Selector

/-- A selector keeps its text, trimmed. -/
theorem text_ofText (text : Text) : (ofText text).text = Text.strip text := by
  rw [ofText]
  split <;> rfl

/-- If the trimmed text of a selector consists of whole units, so do the names of its tokens. -/
theorem wholeUnits_names {text : Text} (h : WholeUnits (Text.strip text)) :
    ∀ compound ∈ (ofText text).chain.items, ∀ token ∈ compound.tokens, WholeUnits token.name := by
  intro compound hcompound token htoken
  by_cases hseparators : ∀ c ∈ Text.strip text, c ∈ separators
  · rw [ofText_of_separators hseparators] at hcompound
    rw [List.mem_singleton.1 hcompound] at htoken
    cases htoken
  · obtain ⟨chain, hchain⟩ := Chain.exists_writtenBy (by simpa using hseparators)
    rw [items_of_writtenBy hchain] at hcompound
    obtain ⟨inner, hinner, rfl⟩ := List.mem_map.1 hcompound
    obtain ⟨gap, rest, hstrip, hgap, -, hclosed, hlinks⟩ := hchain
    rw [hstrip, WholeUnits.append_iff (leadsTo_of_separators hgap)] at h
    exact ClassToken.wholeUnits_name (hlinks.wholeUnits hclosed h inner hinner) htoken

end Selector

namespace SelectorList

/-- The entries of a prelude, without their comments: what stands between its commas at top level.
The prelude ends as its last entry does. -/
inductive Entries : Text → List Text → Ending → Prop where
  | last {text code : Text} {ending : Ending} {after : Nesting}
      (hreads : Nesting.top.Reads text code ending after) (hcomma : ¬ HasComma text) :
      Entries text [code] ending
  | comma {first rest code : Text} {entries : List Text} {ending : Ending}
      (hreads : Nesting.top.Reads first code .whole .top) (hcomma : ¬ HasComma first)
      (hrest : Entries rest entries ending) :
      Entries (first ++ ',' :: rest) (code :: entries) ending

/-- A text with a comma at top level has a first one. -/
theorem exists_first_comma {text : Text} (h : HasComma text) :
    ∃ first rest code, text = first ++ ',' :: rest ∧ Nesting.top.Reads first code .whole .top ∧
      ¬ HasComma first := by
  obtain ⟨first, rest, code, rfl, hreads⟩ := h
  by_cases hcomma : HasComma first
  · have hshorter : first.length < (first ++ ',' :: rest).length := by simp
    obtain ⟨before, between, code, rfl, hbefore, hnone⟩ := exists_first_comma hcomma
    exact ⟨before, between ++ ',' :: rest, code, by simp, hbefore, hnone⟩
  · exact ⟨first, rest, code, rfl, hreads, hcomma⟩
termination_by text.length

/-- Every prelude has entries. -/
theorem exists_entries (prelude : Text) : ∃ entries ending, Entries prelude entries ending := by
  by_cases hcomma : HasComma prelude
  · obtain ⟨first, rest, code, rfl, hreads, hnone⟩ := exists_first_comma hcomma
    have hshorter : rest.length < (first ++ ',' :: rest).length := by
      simp only [List.length_append, List.length_cons]
      omega
    obtain ⟨entries, ending, hrest⟩ := exists_entries rest
    exact ⟨_, ending, .comma hreads hnone hrest⟩
  · obtain ⟨code, ending, after, hreads⟩ := Nesting.top.exists_reads prelude
    exact ⟨[code], ending, .last hreads hcomma⟩
termination_by prelude.length

/-- A group of marks writes its text without comments, trimmed, unless that is empty. -/
theorem map_text_selector? (group : List (Location × Mark)) :
    (selector? group).toList.map SelectorSource.text =
      [Text.strip ((codeOf group).map Mark.char)].filter (· ≠ []) := by
  have hdropped := selector?_eq_none_iff group
  cases hselector : selector? group with
  | none => simp [hdropped.1 hselector]
  | some selector =>
    rw [hselector] at hdropped
    have hne : Text.strip ((codeOf group).map Mark.char) ≠ [] := by
      intro hempty
      cases hdropped.2 hempty
    simp [text_of_selector? hselector, hne]

/-- A prelude of a single entry has its trimmed text for a selector, unless that is empty. -/
theorem map_text_split_of_not_hasComma {text code : Text} {ending : Ending} {after : Nesting}
    (hreads : Nesting.top.Reads text code ending after) (hcomma : ¬ HasComma text)
    (origin : Location) :
    (split text origin).map SelectorSource.text = [Text.strip code].filter (· ≠ []) := by
  rw [split_of_not_hasComma hcomma, map_text_selector?, codeOf_locatedMarks hreads]

variable {prelude : Text} {entries : List Text} {ending : Ending}

/-- The texts of the selectors are those of the entries, trimmed, unless they are empty. -/
theorem Entries.map_text_split (h : Entries prelude entries ending) (origin : Location) :
    (split prelude origin).map SelectorSource.text =
      (entries.map Text.strip).filter (· ≠ []) := by
  induction h generalizing origin with
  | last hreads hcomma => exact map_text_split_of_not_hasComma hreads hcomma origin
  | comma hreads hcomma _ ih =>
    rw [split_append_comma hreads, List.map_append, ih,
      map_text_split_of_not_hasComma hreads hcomma, ← List.filter_append]
    rfl

/-- The entries of a prelude that does not end with a lone backslash consist of whole units. -/
theorem Entries.wholeUnits (h : Entries prelude entries ending) (hending : ending ≠ .backslash) :
    ∀ entry ∈ entries, WholeUnits entry := by
  induction h with
  | last hreads => exact List.forall_mem_singleton.2 ⟨_, hreads.leadsTo_code hending⟩
  | comma hreads _ _ ih =>
    exact List.forall_mem_cons.2 ⟨⟨_, hreads.leadsTo_code (by decide)⟩, ih hending⟩

/-- A prelude is read as entries, and the texts of its selectors are those of the entries, trimmed.
If the prelude does not end with a lone backslash, no backslash in any of these texts is left
without the character that it escapes, exactly if no entry ends with an escaped blank. Reading a
selector does not trim its text any further, and in a text without such a backslash every name of a
class token is without one. -/
theorem escapes_survive_trimming_iff (prelude : Text) (origin : Location) :
    (∃ entries ending, Entries prelude entries ending) ∧
    ∀ entries ending, Entries prelude entries ending →
      (split prelude origin).map SelectorSource.text = (entries.map Text.strip).filter (· ≠ []) ∧
      (∀ selector ∈ split prelude origin,
        (Selector.ofText selector.text).text = selector.text ∧
        (WholeUnits selector.text → ∀ compound ∈ (Selector.ofText selector.text).chain.items,
          ∀ token ∈ compound.tokens, WholeUnits token.name)) ∧
      (ending ≠ .backslash →
        ((∀ selector ∈ split prelude origin, WholeUnits selector.text) ↔
          ∀ entry ∈ entries, ¬ EndsEscapedBlank entry)) := by
  refine ⟨exists_entries prelude, fun entries ending h => ?_⟩
  have htexts := h.map_text_split origin
  refine ⟨htexts, fun selector hselector => ?_, fun hending => ?_⟩
  · have hstrip : Text.strip selector.text = selector.text := by
      have hmem := List.mem_map_of_mem (f := SelectorSource.text) hselector
      rw [htexts] at hmem
      obtain ⟨entry, -, hentry⟩ := List.mem_map.1 (List.mem_filter.1 hmem).1
      rw [← hentry, Text.strip_strip]
    refine ⟨(Selector.text_ofText _).trans hstrip, fun hwhole => ?_⟩
    exact Selector.wholeUnits_names (hstrip.symm ▸ hwhole)
  · have hentries := h.wholeUnits hending
    constructor
    · intro hwhole entry hentry
      rw [← (hentries entry hentry).strip_iff]
      by_cases hempty : Text.strip entry = []
      · exact hempty ▸ .nil
      · have hmem : Text.strip entry ∈ (split prelude origin).map SelectorSource.text := by
          rw [htexts, List.mem_filter]
          exact ⟨List.mem_map_of_mem hentry, by simpa using hempty⟩
        obtain ⟨selector, hselector, htext⟩ := List.mem_map.1 hmem
        exact htext ▸ hwhole selector hselector
    · intro hends selector hselector
      have hmem := List.mem_map_of_mem (f := SelectorSource.text) hselector
      rw [htexts] at hmem
      obtain ⟨entry, hentry, htext⟩ := List.mem_map.1 (List.mem_filter.1 hmem).1
      exact htext ▸ (hentries entry hentry).strip_iff.2 (hends entry hentry)

/-- An escaped space in front of a combinator, and a comma in a comment: both selectors keep their
escapes, and the name keeps its space. -/
theorem escapes_survive_trimming_iff_inner_space :
    Entries ".a\\ >b/*,*/,c ".toList [".a\\ >b".toList, "c ".toList] .whole ∧
      split ".a\\ >b/*,*/,c ".toList .start =
        [⟨".a\\ >b".toList, ⟨1, 1⟩⟩, ⟨"c".toList, ⟨1, 13⟩⟩] ∧
      (∀ selector ∈ split ".a\\ >b/*,*/,c ".toList .start, WholeUnits selector.text) ∧
      WholeUnits "a\\ ".toList := by
  have hplain (c : Char) {rest code : Text}
      (hc : c ≠ '\\' ∧ c ≠ '/' ∧ c ≠ '"' ∧ c ≠ '\'' ∧ c ≠ '[' ∧ c ≠ '(')
      (hrest : Nesting.top.Reads rest code .whole .top) :
      Nesting.top.Reads (c :: rest) (c :: code) .whole .top :=
    .char hc.1 (fun _ hslash => absurd hslash hc.2.1) (.other hc.2.2 (by simp)) hrest
  have hfirst : Nesting.top.Reads ".a\\ >b/*,*/".toList ".a\\ >b".toList .whole .top :=
    hplain '.' (by decide) (hplain 'a' (by decide) (.escape (hplain '>' (by decide)
      (hplain 'b' (by decide) (.comment rfl (show ¬ ['*', '/'] <:+: [','] by decide) .nil)))))
  have hlast : Nesting.top.Reads "c ".toList "c ".toList .whole .top :=
    hplain 'c' (by decide) (hplain ' ' (by decide) .nil)
  have hentries : Entries ".a\\ >b/*,*/,c ".toList [".a\\ >b".toList, "c ".toList] .whole :=
    .comma hfirst (by decide) (.last hlast (by decide))
  have hsplit : split ".a\\ >b/*,*/,c ".toList .start =
      [⟨".a\\ >b".toList, ⟨1, 1⟩⟩, ⟨"c".toList, ⟨1, 13⟩⟩] := by
    with_unfolding_all rfl
  have hitems : (Selector.ofText ".a\\ >b".toList).chain.items =
      [⟨".a\\ ".toList, [⟨"a\\ ".toList⟩]⟩, ⟨['b'], []⟩] := by
    with_unfolding_all rfl
  have hwhole {text : Text} (hlast : (Text.strip text).getLast? ≠ some '\\') :
      WholeUnits (Text.strip text) := ⟨_, Nesting.leadsTo_of_getLast?_ne hlast⟩
  obtain ⟨-, hnames, hiff⟩ :=
    (escapes_survive_trimming_iff ".a\\ >b/*,*/,c ".toList .start).2 _ _ hentries
  have hkept : ∀ selector ∈ split ".a\\ >b/*,*/,c ".toList .start, WholeUnits selector.text := by
    refine (hiff (by decide)).2 (List.forall_mem_cons.2 ⟨?_, List.forall_mem_singleton.2 ?_⟩)
    · exact (WholeUnits.strip_iff ⟨_, hfirst.leadsTo_code (by decide)⟩).1 (hwhole (by decide))
    · exact (WholeUnits.strip_iff ⟨_, hlast.leadsTo_code (by decide)⟩).1 (hwhole (by decide))
  refine ⟨hentries, hsplit, hkept, ?_⟩
  have hmem : ⟨".a\\ >b".toList, ⟨1, 1⟩⟩ ∈ split ".a\\ >b/*,*/,c ".toList .start := by
    rw [hsplit]
    exact List.mem_cons_self
  refine (hnames _ hmem).2 (hkept _ hmem) ⟨".a\\ ".toList, [⟨"a\\ ".toList⟩]⟩ ?_
    ⟨"a\\ ".toList⟩ List.mem_cons_self
  rw [hitems]
  exact List.mem_cons_self

/-- An escaped space at the end of a prelude is dropped, and its backslash is left. The compound by
itself has the space in the name of its token; the selector does not. -/
theorem split_cuts_escaped_space :
    Entries ".a\\ ".toList [".a\\ ".toList] .whole ∧
      split ".a\\ ".toList .start = [⟨".a\\".toList, ⟨1, 1⟩⟩] ∧ ¬ WholeUnits ".a\\".toList ∧
      ClassToken.ofCompound ".a\\ ".toList = [⟨"a\\ ".toList⟩] ∧
      (Selector.ofText ".a\\".toList).chain.items = [⟨".a\\".toList, [⟨"a\\".toList⟩]⟩] := by
  have hreads : Nesting.top.Reads ".a\\ ".toList ".a\\ ".toList .whole .top :=
    .char (by decide) (by decide) (.other (by decide) (by decide))
      (.char (by decide) (by decide) (.other (by decide) (by decide)) (.escape .nil))
  have hname : WholeUnits ".a".toList := ⟨_, Nesting.leadsTo_of_getLast?_ne (by decide)⟩
  refine ⟨.last hreads (by decide), ?_, hname.not_append_backslash, ?_, ?_⟩
  · with_unfolding_all rfl
  · with_unfolding_all rfl
  · with_unfolding_all rfl

end SelectorList

end ClassLint
