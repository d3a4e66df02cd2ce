import ClassLint.Proofs.Check.Alike
import ClassLint.Proofs.Selector.Balance
import Mathlib.Data.List.DropRight

/-!
# What is enclosed does not show

The contents of a string, of brackets and of parentheses have no say in a selector: with other
contents that the same pair encloses, the selector has as many compounds, the same combinators and
the same class tokens. Enclosed characters are never at top level, so that none of them ends a
compound, announces a name or goes on with one; and what stands behind the closer is read as if the
contents were not there.
-/

namespace ClassLint

/-- Contents that an opener and its closer enclose. In a string the quote is not found again, except
escaped; between brackets their own closer stays awaited throughout, and nothing else is left open.
In both cases the contents consist of whole units. -/
inductive Enclosed : (opener closer : Char) → (content : Text) → Prop where
  | string {quote : Char} {content : Text} {after : Nesting} (hquote : quote = '"' ∨ quote = '\'')
      (hwhole : Nesting.LeadsTo ⟨some quote, []⟩ content after)
      (hescaped : ∀ before rest nesting, content = before ++ quote :: rest →
        ¬ Nesting.LeadsTo ⟨some quote, []⟩ before nesting) : Enclosed quote quote content
  | bracket {opener closer : Char} {content : Text}
      (hpair : opener = '[' ∧ closer = ']' ∨ opener = '(' ∧ closer = ')')
      (hwhole : Nesting.LeadsTo ⟨none, [closer]⟩ content ⟨none, [closer]⟩)
      (hawaited : ∀ before rest nesting, content = before ++ rest →
        Nesting.LeadsTo ⟨none, [closer]⟩ before nesting → nesting.closers ≠ []) :
      Enclosed opener closer content

namespace Nesting

/-- A text that is read inside an open nesting: it leads back to it and never to the top. -/
structure Holds (inner : Nesting) (content : Text) : Prop where
  leads : inner.LeadsTo content inner
  inside : ∀ before rest nesting, content = before ++ rest → inner.LeadsTo before nesting →
    nesting ≠ .top

/-- In a string nothing but its quote ends it. -/
theorem eq_of_leadsTo_string {quote : Char} {closers : List Char} {content : Text} {after : Nesting}
    (h : LeadsTo ⟨some quote, closers⟩ content after)
    (hescaped : ∀ before rest nesting, content = before ++ quote :: rest →
      ¬ LeadsTo ⟨some quote, closers⟩ before nesting) : after = ⟨some quote, closers⟩ := by
  generalize hinner : (⟨some quote, closers⟩ : Nesting) = inner at h
  induction h with
  | nil => rfl
  | @escape nesting after c rest _ ih =>
    refine ih (fun before behind nesting hrest hbefore => ?_) hinner
    exact hescaped _ behind nesting (by rw [hrest]; rfl) (.escape hbefore)
  | @char nesting next after c rest hc hturns hrest ih =>
    subst hinner
    have hquote : c ≠ quote := by
      rintro rfl
      exact hescaped [] rest _ rfl .nil
    have hnext : next = ⟨some quote, closers⟩ := by
      rw [← turns_iff.1 hturns]
      exact turns_iff.1 (.inString hquote)
    subst hnext
    refine ih (fun before behind nesting hrest hbefore => ?_) rfl
    exact hescaped (c :: before) behind nesting (by rw [hrest]; rfl)
      (.char hc hturns hbefore)

end Nesting

/-- Every mark inside an open nesting has something open before it. -/
theorem Nesting.ne_top_of_mem_scan {nesting after : Nesting} {content : Text}
    (h : nesting.LeadsTo content after)
    (hinside : ∀ before rest middle, content = before ++ rest → nesting.LeadsTo before middle →
      middle ≠ .top) :
    ∀ mark ∈ (scan false (.code nesting) content).1, mark.nesting ≠ .top := by
  induction h with
  | nil => simp [scan]
  | @escape nesting after c rest _ ih =>
    have hhere : nesting ≠ .top := hinside [] _ _ rfl .nil
    rw [scan_escape]
    refine List.forall_mem_cons.2 ⟨hhere, List.forall_mem_cons.2 ⟨hhere, ih ?_⟩⟩
    intro before behind middle hrest hbefore
    exact hinside _ behind middle (by rw [hrest]; rfl) (.escape hbefore)
  | @char nesting next after c rest hc hturns _ ih =>
    have hhere : nesting ≠ .top := hinside [] _ _ rfl .nil
    rw [scan_false_char hc, turns_iff.1 hturns]
    refine List.forall_mem_cons.2 ⟨hhere, ih ?_⟩
    intro before behind middle hrest hbefore
    exact hinside (c :: before) behind middle (by rw [hrest]; rfl) (.char hc hturns hbefore)

/-- A mark that neither ends a compound nor belongs to a class token. -/
structure Mark.Mute (mark : Mark) : Prop where
  isSeparator : mark.isSeparator = false
  isDot : mark.isDot = false
  continuesName : mark.continuesName = false

/-- Inside a string or a bracket every mark is mute. -/
theorem Mark.mute_of_ne_top {mark : Mark} (h : mark.nesting ≠ .top) : mark.Mute := by
  have hnesting : mark.nesting.isTop = false := by rwa [← Bool.not_eq_true, Nesting.isTop_iff]
  constructor <;>
    simp [Mark.isSeparator, Mark.isDot, Mark.continuesName, Mark.isTopPlain, Mark.isTopEscape,
      hnesting]

/-- A text that can stand in a compound without a trace: it opens nothing that it does not close,
all its marks are mute, and no blank starts or ends it. -/
structure Silent (text : Text) : Prop where
  leads : Nesting.top.LeadsTo text .top
  mute : ∀ mark ∈ (scan false .start text).1, mark.Mute
  first : ∃ c ∈ text.head?, Text.isBlank c = false
  last : ∃ c ∈ text.getLast?, Text.isBlank c = false

/-- Contents that are held in what an opener opens and a closer closes are silent with both. -/
theorem Nesting.Holds.silent {opener closer : Char} {content : Text}
    (h : (top.step opener).Holds content) (hclose : (top.step opener).step closer = top)
    (hopener : opener ∈ ['"', '\'', '[', '(']) (hcloser : closer ∈ ['"', '\'', ']', ')']) :
    Silent (opener :: (content ++ [closer])) := by
  have hinner : top.step opener ≠ top := h.inside [] content _ rfl .nil
  have hopen : opener ≠ '\\' ∧ Mark.Mute ⟨opener, .plain, top⟩ ∧ Text.isBlank opener = false := by
    simp only [List.mem_cons, List.not_mem_nil, or_false] at hopener
    rcases hopener with rfl | rfl | rfl | rfl <;> exact ⟨by decide, ⟨rfl, rfl, rfl⟩, rfl⟩
  have hend : closer ≠ '\\' ∧ Text.isBlank closer = false := by
    simp only [List.mem_cons, List.not_mem_nil, or_false] at hcloser
    rcases hcloser with rfl | rfl | rfl | rfl <;> exact ⟨by decide, rfl⟩
  obtain ⟨hbackslash, hmute, hblank⟩ := hopen
  refine ⟨?_, ?_, ⟨opener, rfl, hblank⟩, ⟨closer, ?_, hend.2⟩⟩
  · rw [LeadsTo.cons_iff hbackslash, h.leads.append_iff, LeadsTo.cons_iff hend.1, hclose]
    exact .nil
  · rw [Place.start, scan_false_char hbackslash, scan_append h.leads, scan_false_char hend.1]
    refine List.forall_mem_cons.2 ⟨hmute, List.forall_mem_append.2 ⟨fun mark hmark => ?_, ?_⟩⟩
    · exact Mark.mute_of_ne_top (Nesting.ne_top_of_mem_scan h.leads h.inside mark hmark)
    · simpa [scan] using Mark.mute_of_ne_top hinner
  · rw [← List.cons_append]
    exact List.getLast?_concat

/-- Enclosed contents are silent together with what encloses them. -/
theorem Enclosed.silent {opener closer : Char} {content : Text}
    (h : Enclosed opener closer content) : Silent (opener :: (content ++ [closer])) := by
  cases h with
  | string hquote hwhole hescaped =>
    have hstays : Nesting.Holds ⟨some opener, []⟩ content := by
      refine ⟨Nesting.eq_of_leadsTo_string hwhole hescaped ▸ hwhole, ?_⟩
      intro before rest nesting hcontent hbefore
      have hnesting : nesting = ⟨some opener, []⟩ := by
        refine Nesting.eq_of_leadsTo_string hbefore fun first last middle hfirst => ?_
        exact hescaped first (last ++ rest) middle (by rw [hcontent, hfirst]; simp)
      simp [hnesting, Nesting.top]
    have hopen : Nesting.top.step opener = ⟨some opener, []⟩ :=
      Nesting.turns_iff.1 (.openString hquote)
    have hclose : Nesting.step ⟨some opener, []⟩ opener = .top := Nesting.turns_iff.1 .closeString
    rw [← hopen] at hstays hclose
    rcases hquote with rfl | rfl <;> exact hstays.silent hclose (by simp) (by simp)
  | bracket hpair hwhole hawaited =>
    have hstays : Nesting.Holds ⟨none, [closer]⟩ content := by
      refine ⟨hwhole, fun before rest nesting hcontent hbefore htop => ?_⟩
      exact hawaited before rest nesting hcontent hbefore (by rw [htop]; rfl)
    rcases hpair with ⟨rfl, rfl⟩ | ⟨rfl, rfl⟩
    · exact Nesting.Holds.silent hstays rfl (by simp) (by simp)
    · exact Nesting.Holds.silent hstays rfl (by simp) (by simp)

namespace ClassToken

/-- A mute mark does not start a name. -/
theorem atStart?_cons_of_mute {mark : Mark} (h : mark.Mute) (rest : List Mark) :
    atStart? (mark :: rest) = none := by
  have hcontinues := h.continuesName
  rw [Mark.continuesName, Bool.or_eq_false_iff] at hcontinues
  rw [atStart?, Mark.startsName, hcontinues.1, hcontinues.2]
  rfl

/-- A name that stands before a mute mark ends there. -/
theorem atStart?_append {mark : Mark} (h : mark.Mute) (marks rest : List Mark) :
    atStart? (marks ++ mark :: rest) = atStart? marks := by
  cases marks with
  | nil => exact atStart?_cons_of_mute h rest
  | cons first marks =>
    have hname : ((first :: marks) ++ mark :: rest).takeWhile Mark.continuesName =
        (first :: marks).takeWhile Mark.continuesName := by
      rw [List.takeWhile_append]
      split
      · rename_i hall
        rw [List.takeWhile_cons_of_neg (by simp [h.continuesName]), List.append_nil,
          (List.takeWhile_prefix _).eq_of_length hall]
      · rfl
    rw [List.cons_append, atStart?, atStart?, ← List.cons_append, hname]

/-- Mute marks have no tokens. -/
theorem ofMarks_mute_append {middle : List Mark} (h : ∀ mark ∈ middle, mark.Mute)
    (last : List Mark) : ofMarks (middle ++ last) = ofMarks last := by
  induction middle with
  | nil => rfl
  | cons mark middle ih =>
    obtain ⟨hmark, hmiddle⟩ := List.forall_mem_cons.1 h
    rw [List.cons_append, ofMarks, hmark.isDot]
    exact ih hmiddle

/-- Mute marks divide the tokens before them from those behind them. -/
theorem ofMarks_append_mute {middle : List Mark} (hne : middle ≠ [])
    (h : ∀ mark ∈ middle, mark.Mute) (first last : List Mark) :
    ofMarks (first ++ (middle ++ last)) = ofMarks first ++ ofMarks last := by
  obtain ⟨mark, middle, rfl⟩ := List.exists_cons_of_ne_nil hne
  induction first with
  | nil => exact ofMarks_mute_append h last
  | cons dot first ih =>
    have hmark := h mark List.mem_cons_self
    rw [List.cons_append, ofMarks, ofMarks, ih, List.cons_append, atStart?_append hmark]
    split
    · rfl
    · rfl

/-- A silent text has no part in the tokens of a compound. -/
theorem ofCompound_silent {first silent : Text} (hfirst : Nesting.top.LeadsTo first .top)
    (h : Silent silent) (last : Text) :
    ofCompound (first ++ (silent ++ last)) =
      if (scan false .start last).2.isTop then
        ofMarks (scan false .start first).1 ++ ofMarks (scan false .start last).1
      else [] := by
  have hne : (scan false .start silent).1 ≠ [] := by
    obtain ⟨c, hc, -⟩ := h.first
    obtain ⟨rest, rfl⟩ := List.head?_eq_some_iff.1 hc
    exact scan_ne_nil (by simp)
  rw [ofCompound, Place.start, scan_append hfirst, scan_append h.leads, ← Place.start]
  dsimp only
  rw [ofMarks_append_mute hne h.mute]

end ClassToken

namespace Run

/-- Rows of marks of which the first ends and the second starts with different sorts have their runs
one after the other. -/
theorem ofMarks_append_of_ne {first last : List Mark}
    (h : ∀ a ∈ first.getLast?, ∀ b ∈ last.head?, b.isSeparator ≠ a.isSeparator) :
    ofMarks (first ++ last) = ofMarks first ++ ofMarks last := by
  induction first with
  | nil => rfl
  | cons mark first ih =>
    cases first with
    | nil =>
      have hlone : ofMarks [mark] = [ofSort mark.isSeparator [mark.char]] := by
        rw [ofMarks]
        exact push_of_ne mark.char (by simp)
      rw [List.singleton_append, ofMarks, push_of_ne mark.char (h mark rfl), hlone]
      rfl
    | cons next first =>
      rw [List.getLast?_cons_cons] at h
      obtain ⟨text, runs, hruns⟩ := exists_ofMarks_cons next first
      have hpush (marks : List Mark) :
          ofMarks (mark :: marks) = push mark.isSeparator mark.char (ofMarks marks) := rfl
      rw [List.cons_append, hpush, ih h, hpush, hruns]
      cases mark.isSeparator <;> cases next.isSeparator <;> rfl

/-- Marks are cut behind their last separator. -/
theorem exists_row_at_end (marks : List Mark) :
    ∃ before row, marks = before ++ row ∧ (∀ mark ∈ before.getLast?, mark.isSeparator = true) ∧
      ∀ mark ∈ row, mark.isSeparator = false := by
  refine ⟨marks.rdropWhile (!·.isSeparator), marks.rtakeWhile (!·.isSeparator),
    List.rdropWhile_append_rtakeWhile.symm, fun mark hmark => ?_, fun mark hmark => ?_⟩
  · have hne := List.ne_nil_of_mem (List.mem_of_mem_getLast? hmark)
    have hlast := List.rdropWhile_last_not (!·.isSeparator) marks hne
    rw [List.getLast?_eq_some_getLast hne, Option.mem_some_iff] at hmark
    simpa [hmark] using hlast
  · simpa using List.mem_rtakeWhile_imp hmark

/-- Marks are cut before their first separator. -/
theorem exists_row_at_start (marks : List Mark) :
    ∃ row after, marks = row ++ after ∧ (∀ mark ∈ row, mark.isSeparator = false) ∧
      ∀ mark ∈ after.head?, mark.isSeparator = true := by
  refine ⟨marks.takeWhile (!·.isSeparator), marks.dropWhile (!·.isSeparator),
    List.takeWhile_append_dropWhile.symm, fun mark hmark => ?_, fun mark hmark => ?_⟩
  · simpa using List.mem_takeWhile_imp hmark
  · have hhead := List.head?_dropWhile_not (!·.isSeparator) marks
    rw [Option.mem_def.1 hmark] at hhead
    simpa using hhead

/-- What stands behind the last separator of a text that leaves nothing open leaves nothing open
either. -/
theorem leadsTo_of_scan_separator {text : Text} {first last : List Mark}
    (h : Nesting.top.LeadsTo text .top) (hmarks : (scan false .start text).1 = first ++ last)
    (hfirst : ∀ mark ∈ first.getLast?, mark.isSeparator = true) :
    Nesting.top.LeadsTo (last.map Mark.char) .top := by
  have htext : text = first.map Mark.char ++ last.map Mark.char := by
    rw [← List.map_append, ← hmarks, map_char_scan]
  have hbefore : Nesting.top.LeadsTo (first.map Mark.char) .top := by
    rcases List.eq_nil_or_concat first with rfl | ⟨first, mark, rfl⟩
    · exact .nil
    · rw [List.concat_eq_append] at hmarks hfirst ⊢
      obtain ⟨hplain, htop, hchar⟩ := Mark.isSeparator_iff.1 (hfirst mark List.getLast?_concat)
      rw [List.append_assoc, List.singleton_append] at hmarks
      have hleads := leadsTo_of_scan_plain hmarks hplain
      rw [htop] at hleads
      rw [List.map_append, hleads.append_iff]
      exact leadsTo_of_separators (by simpa using hchar)
  rwa [htext, hbefore.append_iff] at h

/-- A silent text in the middle of another one is part of one compound, and the other runs are the
same whatever the silent text is. -/
theorem exists_ofMarks_silent {first : Text} (hfirst : Nesting.top.LeadsTo first .top)
    (last : Text) :
    ∃ before after start rest, Nesting.top.LeadsTo start .top ∧ ∀ silent, Silent silent →
      ofMarks (scan false .start (first ++ (silent ++ last))).1 =
        before ++ .compound (start ++ (silent ++ rest)) :: after := by
  obtain ⟨before, row, hbefore, hended, hrow⟩ := exists_row_at_end (scan false .start first).1
  obtain ⟨next, after, hafter, hnext, hbehind⟩ := exists_row_at_start (scan false .start last).1
  refine ⟨ofMarks before, ofMarks after, row.map Mark.char, next.map Mark.char,
    leadsTo_of_scan_separator hfirst hbefore hended, fun silent hsilent => ?_⟩
  generalize hmarks : (scan false .start silent).1 = middle
  have hchars : middle.map Mark.char = silent := by rw [← hmarks, map_char_scan]
  have hmiddle : ∀ mark ∈ row ++ (middle ++ next), mark.isSeparator = false := by
    refine List.forall_mem_append.2 ⟨hrow, List.forall_mem_append.2 ⟨fun mark hmark => ?_, hnext⟩⟩
    exact (hsilent.mute mark (hmarks ▸ hmark)).isSeparator
  have hne : row ++ (middle ++ next) ≠ [] := by
    obtain ⟨c, hc, -⟩ := hsilent.first
    have hsome : middle ≠ [] := by
      rintro rfl
      rw [← hchars] at hc
      cases hc
    simp [hsome]
  have hscan : (scan false .start (first ++ (silent ++ last))).1 =
      before ++ ((row ++ (middle ++ next)) ++ after) := by
    rw [Place.start, scan_append hfirst, scan_append hsilent.leads, ← Place.start, hbefore, hafter,
      hmarks]
    simp
  rw [hscan, ofMarks_append_of_ne, ofMarks_append hne hmiddle]
  · simp [ofSort, hchars]
  · intro mark hmark
    simp [hbehind mark hmark]
  · intro mark hmark other hother
    rw [hended mark hmark]
    rw [List.head?_append_of_ne_nil _ hne] at hother
    simp [hmiddle other (List.mem_of_mem_head? hother)]

end Run

namespace Chain

variable {α : Type} {f : Text → α} {text other : Text}

/-- Compounds that a function takes for the same are interchangeable behind a compound. -/
theorem map_linksOfRuns (h : f text = f other) (before after : List Run) :
    (linksOfRuns (before ++ .compound text :: after)).map (Prod.map id f) =
      (linksOfRuns (before ++ .compound other :: after)).map (Prod.map id f) := by
  match before with
  | [] => rfl
  | [.gap gap] => simp [linksOfRuns, h]
  | .gap gap :: .compound inner :: before =>
    have hrest := map_linksOfRuns h before after
    simp [linksOfRuns, hrest]
  | .gap _ :: .gap _ :: _ => rfl
  | .compound _ :: _ => rfl

/-- Compounds that a function takes for the same are interchangeable in a chain. -/
theorem map_ofRuns? (h : f text = f other) (before after : List Run) :
    (ofRuns? (before ++ .compound text :: after)).map (Chain.map f) =
      (ofRuns? (before ++ .compound other :: after)).map (Chain.map f) := by
  have hmap (first : Text) (links : List (Combinator × Text)) :
      Chain.map f ⟨first, links⟩ = ⟨f first, links.map (Prod.map id f)⟩ := rfl
  match before with
  | [] => simp [ofRuns?, hmap, h]
  | [.gap gap] => simp [ofRuns?, hmap, h]
  | .gap gap :: .compound inner :: before => simp [ofRuns?, hmap, map_linksOfRuns h]
  | .gap _ :: .gap _ :: _ => rfl
  | .compound inner :: before => simp [ofRuns?, hmap, map_linksOfRuns h]

end Chain

namespace Selector

/-- The tokens of a selector, compound by compound, are those of the chain of its text. -/
theorem map_tokens_ofText (text : Text) :
    (ofText text).chain.map Compound.tokens =
      ((Chain.ofText? (Text.strip text)).map (Chain.map ClassToken.ofCompound)).getD ⟨[], []⟩ := by
  rw [ofText]
  cases Chain.ofText? (Text.strip text) with
  | none => rfl
  | some chain => simp [Chain.map, Compound.ofText]

/-- Silent texts are interchangeable in the middle of a selector. -/
theorem alike_of_silent {first silent other : Text} (hfirst : Nesting.top.LeadsTo first .top)
    (hsilent : Silent silent) (hother : Silent other) (last : Text) :
    Alike (ofText (first ++ (silent ++ last))) (ofText (first ++ (other ++ last))) := by
  have hblanks : Nesting.top.LeadsTo (first.takeWhile Text.isBlank) .top :=
    Nesting.Proper.top.leadsTo_blanks fun c hc => List.mem_takeWhile_imp hc
  rw [← List.takeWhile_append_dropWhile (p := Text.isBlank) (l := first),
    hblanks.append_iff] at hfirst
  obtain ⟨before, after, start, rest, hstart, hruns⟩ :=
    Run.exists_ofMarks_silent hfirst (Text.stripRight last)
  have htokens : ClassToken.ofCompound (start ++ (silent ++ rest)) =
      ClassToken.ofCompound (start ++ (other ++ rest)) := by
    rw [ClassToken.ofCompound_silent hstart hsilent, ClassToken.ofCompound_silent hstart hother]
  rw [Alike, map_tokens_ofText, map_tokens_ofText, Text.strip_around hsilent.first hsilent.last,
    Text.strip_around hother.first hother.last, Chain.ofText?, Chain.ofText?, hruns silent hsilent,
    hruns other hother, Chain.map_ofRuns? htokens]

end Selector

/-- The contents of a string, of brackets and of parentheses are opaque. Behind a text that leaves
nothing open, and in front of any text, two contents that the same pair encloses make selectors with
as many compounds, the same combinators, levels and depth, and the same tokens in each compound.
Under any options both are reported for the same kinds of violations, and if nothing is reported of
the selector as a whole, for the same violations. -/
theorem Selector.enclosed_contents_interchangeable {first content other : Text}
    {opener closer : Char} (hfirst : Nesting.top.LeadsTo first .top)
    (hcontent : Enclosed opener closer content) (hother : Enclosed opener closer other)
    (last : Text) :
    let text := first ++ opener :: (content ++ closer :: last)
    let changed := first ++ opener :: (other ++ closer :: last)
    ((ofText text).chain.items.length = (ofText changed).chain.items.length ∧
      (ofText text).chain.combinators = (ofText changed).chain.combinators ∧
      (ofText text).chain.levels = (ofText changed).chain.levels ∧
      (ofText text).chain.depth = (ofText changed).chain.depth ∧
      (ofText text).chain.items.map Compound.tokens =
        (ofText changed).chain.items.map Compound.tokens) ∧
    ∀ options,
      (checkSelector text options).map Finding.kind =
        (checkSelector changed options).map Finding.kind ∧
      ((ofText text).WellShaped options →
        checkSelector text options = checkSelector changed options) := by
  intro text changed
  have halike : Alike (ofText text) (ofText changed) := by
    have hsilent := alike_of_silent hfirst hcontent.silent hother.silent last
    simpa [text, changed] using hsilent
  exact ⟨halike.chain_eq, fun options => ⟨halike.map_kind_check, halike.check_eq⟩⟩

/-- Parentheses inside a second compound. The first contents hold combinators, a class, a string
with a parenthesis, an escaped one and one in brackets; the second contents are empty. -/
theorem Selector.enclosed_contents_interchangeable_parentheses :
    (ofText ".a\\( > .b:not(.c > d \")\" \\) [)] e).f".toList).chain.items.map Compound.tokens =
        (ofText ".a\\( > .b:not().f".toList).chain.items.map Compound.tokens ∧
      (ofText ".a\\( > .b:not().f".toList).chain.items.map Compound.tokens =
        [[⟨"a\\(".toList⟩], [⟨['b']⟩, ⟨['f']⟩]] := by
  have hfirst : Nesting.top.LeadsTo ".a\\( > .b:not".toList .top :=
    Nesting.leadsTo_of_getLast?_ne (by decide)
  have hcontent : Enclosed '(' ')' ".c > d \")\" \\) [)] e".toList := by
    refine .bracket (Or.inr ⟨rfl, rfl⟩) (Nesting.leadsTo_of_getLast?_ne (by decide)) ?_
    intro before rest nesting
    exact Nesting.of_leadsTo_beginning (motive := (·.closers ≠ [])) (by decide) (by decide)
  have hother : Enclosed '(' ')' [] := by
    refine .bracket (Or.inr ⟨rfl, rfl⟩) .nil ?_
    intro before rest nesting
    exact Nesting.of_leadsTo_beginning (motive := (·.closers ≠ [])) (by decide) (by decide)
  have hcontents := enclosed_contents_interchangeable hfirst hcontent hother ".f".toList
  exact ⟨hcontents.1.2.2.2.2, by with_unfolding_all rfl⟩

end ClassLint
