import ClassLint.Selector.Segment
import ClassLint.Proofs.Scan.Nesting
import Mathlib.Data.List.TakeWhile

/-!
# Compounds and the gaps between them

A selector text is a row of compounds with gaps between them, and perhaps a gap before the first
and after the last. What a compound and a gap may hold is said here by the rules of strings,
brackets and escapes, without runs or marks. Every text with a character other than a separator
has exactly one such reading, and it is the one that a selector is cut by.
-/

namespace ClassLint

/-- The characters that separate compounds: white space of style sheets, and the characters that
write combinators. -/
def separators : List Char := [' ', '\t', '\n', '\r', '\x0c', '>', '+', '~']

namespace Combinator

/-- The combinator of a gap: that of the first `>`, `+` or `~` in it, or the descendant combinator
when it is white space alone. -/
inductive WrittenBy : (gap : Text) → Combinator → Prop where
  | symbol {space rest : Text} {c : Char} {combinator : Combinator}
      (hspace : ∀ d ∈ space, Text.isSheetSpace d = true) (hwritten : combinator ≠ .descendant)
      (hsymbol : c = combinator.symbol) : WrittenBy (space ++ c :: rest) combinator
  | space {gap : Text} (hspace : ∀ d ∈ gap, Text.isSheetSpace d = true) :
      WrittenBy gap .descendant

end Combinator

/-- The text of one compound. It starts with a character that is no separator, and every separator
in it is escaped or stands inside a bracket, a parenthesis or a string that the compound has open
there. -/
structure IsCompound (text : Text) : Prop where
  start : ∃ c ∈ text.head?, c ∉ separators
  shielded : ∀ before c after, text = before ++ c :: after → c ∈ separators →
    (∃ first nesting, before = first ++ ['\\'] ∧ Nesting.top.LeadsTo first nesting) ∨
      ∃ nesting, Nesting.top.LeadsTo before nesting ∧ nesting ≠ .top

/-- What follows a compound: further compounds, each after a gap that is not empty and writes its
combinator, then a last gap. A compound before the end of the text leaves nothing open. -/
inductive Links : Text → List (Combinator × Text) → Prop where
  | trail {gap : Text} (hgap : ∀ c ∈ gap, c ∈ separators) : Links gap []
  | link {gap compound rest : Text} {combinator : Combinator} {links : List (Combinator × Text)}
      (hne : gap ≠ []) (hgap : ∀ c ∈ gap, c ∈ separators)
      (hwritten : Combinator.WrittenBy gap combinator) (hcompound : IsCompound compound)
      (hclosed : rest ≠ [] → Nesting.top.LeadsTo compound .top) (hrest : Links rest links) :
      Links (gap ++ (compound ++ rest)) ((combinator, compound) :: links)

/-- A text and the chain that it writes: perhaps a gap, the first compound, and what follows it. -/
def Chain.WrittenBy (text : Text) (chain : Chain Text) : Prop :=
  ∃ gap rest, text = gap ++ (chain.first ++ rest) ∧ (∀ c ∈ gap, c ∈ separators) ∧
    IsCompound chain.first ∧ (rest ≠ [] → Nesting.top.LeadsTo chain.first .top) ∧
    Links rest chain.rest

/-- The separators are the characters that end a compound at top level. -/
theorem isSeparatorChar_iff {c : Char} : isSeparatorChar c = true ↔ c ∈ separators := by
  have hsymbol : (Combinator.ofChar? c).isSome = true ↔ c = '>' ∨ c = '+' ∨ c = '~' := by
    unfold Combinator.ofChar?
    split_ifs <;> simp_all
  rw [isSeparatorChar, Bool.or_eq_true, hsymbol, separators]
  simp [Text.isSheetSpace, or_assoc]

/-- A separator starts no escape and opens nothing. -/
theorem step_top_of_mem_separators : ∀ c ∈ separators, c ≠ '\\' ∧ Nesting.top.step c = .top := by
  intro c hc
  simp only [separators, List.mem_cons, List.not_mem_nil, or_false] at hc
  rcases hc with rfl | rfl | rfl | rfl | rfl | rfl | rfl | rfl <;> decide

/-- A gap consists of whole units and opens nothing. -/
theorem leadsTo_of_separators {gap : Text} (h : ∀ c ∈ gap, c ∈ separators) :
    Nesting.top.LeadsTo gap .top := by
  induction gap with
  | nil => exact .nil
  | cons c gap ih =>
    obtain ⟨hc, hgap⟩ := List.forall_mem_cons.1 h
    obtain ⟨hbackslash, hstep⟩ := step_top_of_mem_separators c hc
    rw [Nesting.LeadsTo.cons_iff hbackslash, hstep]
    exact ih hgap

namespace Combinator

/-- The characters that write combinators are their symbols. -/
theorem ofChar?_eq_some_iff {c : Char} {combinator : Combinator} :
    ofChar? c = some combinator ↔ combinator ≠ .descendant ∧ c = combinator.symbol := by
  unfold ofChar?
  cases combinator <;> split_ifs <;> simp_all [symbol]

/-- White space writes no combinator. -/
theorem ofChar?_of_isSheetSpace {c : Char} (h : Text.isSheetSpace c = true) : ofChar? c = none := by
  simp only [Text.isSheetSpace, Bool.or_eq_true, beq_iff_eq] at h
  rcases h with (((rfl | rfl) | rfl) | rfl) | rfl <;> rfl

/-- The combinator that a gap writes is the one that it is read as. -/
theorem ofGap_of_writtenBy {gap : Text} {combinator : Combinator} (h : WrittenBy gap combinator) :
    ofGap gap = combinator := by
  have hnone {space : Text} (hspace : ∀ d ∈ space, Text.isSheetSpace d = true) :
      space.findSome? ofChar? = none :=
    List.findSome?_eq_none_iff.2 fun d hd => ofChar?_of_isSheetSpace (hspace d hd)
  cases h with
  | symbol hspace hwritten hsymbol =>
    rw [ofGap, List.findSome?_append, hnone hspace, Option.none_or, List.findSome?_cons,
      ofChar?_eq_some_iff.2 ⟨hwritten, hsymbol⟩]
    rfl
  | space hspace =>
    rw [ofGap, hnone hspace]
    rfl

/-- Every gap writes a combinator. -/
theorem exists_writtenBy {gap : Text} (h : ∀ c ∈ gap, c ∈ separators) :
    ∃ combinator, WrittenBy gap combinator := by
  induction gap with
  | nil => exact ⟨_, .space (by simp)⟩
  | cons c gap ih =>
    obtain ⟨hc, hgap⟩ := List.forall_mem_cons.1 h
    by_cases hspace : Text.isSheetSpace c = true
    · obtain ⟨combinator, hwritten⟩ := ih hgap
      cases hwritten with
      | @symbol space rest d _ hspaces hne hsymbol =>
        refine ⟨combinator, ?_⟩
        rw [← List.cons_append]
        exact .symbol (List.forall_mem_cons.2 ⟨hspace, hspaces⟩) hne hsymbol
      | space hspaces => exact ⟨_, .space (List.forall_mem_cons.2 ⟨hspace, hspaces⟩)⟩
    · have hsome : (ofChar? c).isSome = true := by
        have hseparator := isSeparatorChar_iff.2 hc
        rw [isSeparatorChar, Bool.or_eq_true] at hseparator
        exact hseparator.resolve_left hspace
      obtain ⟨combinator, hsymbol⟩ := Option.isSome_iff_exists.1 hsome
      obtain ⟨hne, hsymbol⟩ := ofChar?_eq_some_iff.1 hsymbol
      refine ⟨combinator, ?_⟩
      rw [← List.nil_append (c :: gap)]
      exact .symbol (by simp) hne hsymbol

end Combinator

/-- A mark that ends a compound is a plain separator with nothing open before it. -/
theorem Mark.isSeparator_iff {mark : Mark} :
    mark.isSeparator = true ↔ mark.part = .plain ∧ mark.nesting = .top ∧ mark.char ∈ separators := by
  rw [isSeparator, isTopPlain, Bool.and_eq_true, Bool.and_eq_true, beq_iff_eq, Nesting.isTop_iff,
    isSeparatorChar_iff, and_assoc]

/-- A text is a compound exactly if it is not empty and no mark of it ends a compound. -/
theorem isCompound_iff {text : Text} :
    IsCompound text ↔ text ≠ [] ∧ ∀ mark ∈ (scan false .start text).1, mark.isSeparator = false := by
  constructor
  · rintro ⟨⟨c, hc, -⟩, hshielded⟩
    refine ⟨fun hempty => by simp [hempty] at hc, fun mark hmark => ?_⟩
    obtain ⟨first, last, hmarks⟩ := List.append_of_mem hmark
    by_contra hseparator
    obtain ⟨hplain, htop, hchar⟩ := Mark.isSeparator_iff.1 (Bool.not_eq_false _ ▸ hseparator)
    have hbefore := leadsTo_of_scan_plain hmarks hplain
    rw [htop] at hbefore
    have htext : text = first.map Mark.char ++ mark.char :: last.map Mark.char := by
      rw [← List.map_cons, ← List.map_append, ← hmarks, map_char_scan]
    rcases hshielded _ _ _ htext hchar with
      ⟨escaped, nesting, heq, hescaped⟩ | ⟨nesting, hnesting, hne⟩
    · rw [heq] at hbefore
      exact hescaped.not_append_backslash hbefore
    · exact hne (hnesting.unique hbefore)
  · rintro ⟨hne, hmarks⟩
    have hshielded : ∀ before c after, text = before ++ c :: after → c ∈ separators →
        (∃ first nesting, before = first ++ ['\\'] ∧ Nesting.top.LeadsTo first nesting) ∨
          ∃ nesting, Nesting.top.LeadsTo before nesting ∧ nesting ≠ .top := by
      rintro before c after rfl hc
      rcases Nesting.leadsTo_or_dangling .top before with ⟨nesting, hbefore⟩ | hdangling
      · refine Or.inr ⟨nesting, hbefore, ?_⟩
        rintro rfl
        have hmem : ⟨c, .plain, .top⟩ ∈ (scan false .start (before ++ c :: after)).1 := by
          rw [Place.start, scan_append hbefore, scan_false_char (step_top_of_mem_separators c hc).1]
          simp
        have hmark := hmarks _ hmem
        rw [Mark.isSeparator_iff.2 ⟨rfl, rfl, hc⟩] at hmark
        cases hmark
      · exact Or.inl hdangling
    obtain ⟨c, rest, rfl⟩ := List.exists_cons_of_ne_nil hne
    refine ⟨⟨c, rfl, fun hc => ?_⟩, hshielded⟩
    rcases hshielded [] c rest rfl hc with ⟨first, _, heq, -⟩ | ⟨nesting, hnesting, htop⟩
    · simp at heq
    · exact htop (hnesting.unique .nil)

/-- Whether the first mark of a text ends a compound depends on its first character alone. -/
theorem isSeparator_of_mem_head? {text : Text} {mark : Mark}
    (h : mark ∈ (scan false .start text).1.head?) :
    ∃ c ∈ text.head?, (mark.isSeparator = true ↔ c ∈ separators) := by
  induction text using Text.unitInduction with
  | nil => simp [scan] at h
  | dangling =>
    cases h
    exact ⟨'\\', rfl, by decide⟩
  | escape c rest _ =>
    rw [Place.start, scan_escape] at h
    cases h
    exact ⟨'\\', rfl, by simp [Mark.isSeparator, Mark.isTopPlain]; decide⟩
  | char c rest hc _ =>
    rw [Place.start, scan_false_char hc] at h
    cases h
    exact ⟨c, rfl, isSeparatorChar_iff⟩

namespace Run

/-- The run of one sort or the other with a text. -/
def ofSort (separator : Bool) (text : Text) : Run := if separator then .gap text else .compound text

/-- The first run is of the sort of the first mark. -/
theorem exists_ofMarks_cons (mark : Mark) (rest : List Mark) :
    ∃ text runs, ofMarks (mark :: rest) = ofSort mark.isSeparator text :: runs := by
  rw [ofMarks]
  rcases ofMarks rest with _ | ⟨_ | _, _⟩ <;> cases mark.isSeparator <;> exact ⟨_, _, rfl⟩

/-- A mark before marks of the other sort starts a run of its own. -/
theorem push_of_ne {separator : Bool} (c : Char) {marks : List Mark}
    (h : ∀ mark ∈ marks.head?, mark.isSeparator ≠ separator) :
    push separator c (ofMarks marks) = ofSort separator [c] :: ofMarks marks := by
  cases marks with
  | nil => cases separator <;> rfl
  | cons mark rest =>
    obtain ⟨text, runs, hruns⟩ := exists_ofMarks_cons mark rest
    have hsort : mark.isSeparator = !separator := Bool.eq_not.2 (h mark rfl)
    rw [hruns, hsort]
    cases separator <;> rfl

/-- A longest row of marks of one sort is one run. -/
theorem ofMarks_append {separator : Bool} {row rest : List Mark} (hne : row ≠ [])
    (hrow : ∀ mark ∈ row, mark.isSeparator = separator)
    (hrest : ∀ mark ∈ rest.head?, mark.isSeparator ≠ separator) :
    ofMarks (row ++ rest) = ofSort separator (row.map Mark.char) :: ofMarks rest := by
  induction row with
  | nil => exact absurd rfl hne
  | cons mark row ih =>
    obtain ⟨hmark, hrow⟩ := List.forall_mem_cons.1 hrow
    rw [List.cons_append, ofMarks, hmark]
    by_cases hlast : row = []
    · rw [hlast, List.nil_append, push_of_ne mark.char hrest]
      rfl
    · rw [ih hlast hrow]
      cases separator <;> rfl

/-- The runs of a gap and a text behind it that starts with no separator. -/
theorem ofMarks_gap {gap rest : Text} (hne : gap ≠ []) (hgap : ∀ c ∈ gap, c ∈ separators)
    (hrest : ∀ c ∈ rest.head?, c ∉ separators) :
    ofMarks (scan false .start (gap ++ rest)).1 =
      .gap gap :: ofMarks (scan false .start rest).1 := by
  have hmarks : ∀ {text : Text}, (∀ c ∈ text, c ∈ separators) →
      ∀ mark ∈ (scan false .start text).1, mark.isSeparator = true := by
    intro text htext
    induction text with
    | nil => simp [scan]
    | cons c text ih =>
      obtain ⟨hc, htext⟩ := List.forall_mem_cons.1 htext
      obtain ⟨hbackslash, hstep⟩ := step_top_of_mem_separators c hc
      rw [Place.start, scan_false_char hbackslash, hstep]
      exact List.forall_mem_cons.2 ⟨isSeparatorChar_iff.2 hc, ih htext⟩
  rw [Place.start, scan_append (leadsTo_of_separators hgap)]
  refine (ofMarks_append (scan_ne_nil hne) (hmarks hgap) ?_).trans ?_
  · intro mark hmark hseparator
    obtain ⟨c, hc, hiff⟩ := isSeparator_of_mem_head? hmark
    exact hrest c hc (hiff.1 hseparator)
  · rw [map_char_scan]
    rfl

/-- A text of separators alone is a gap at most. -/
theorem ofMarks_separators {gap : Text} (hgap : ∀ c ∈ gap, c ∈ separators) :
    ofMarks (scan false .start gap).1 = [] ∨ ofMarks (scan false .start gap).1 = [.gap gap] := by
  by_cases hne : gap = []
  · rw [hne]
    exact Or.inl rfl
  · have hruns : ofMarks (scan false .start (gap ++ [])).1 = .gap gap :: _ :=
      ofMarks_gap hne hgap (by simp)
    rw [List.append_nil] at hruns
    exact Or.inr hruns

/-- The runs of a compound and a text behind it that starts with a separator. -/
theorem ofMarks_compound {compound rest : Text} (hcompound : IsCompound compound)
    (hclosed : rest ≠ [] → Nesting.top.LeadsTo compound .top)
    (hrest : ∀ c ∈ rest.head?, c ∈ separators) :
    ofMarks (scan false .start (compound ++ rest)).1 =
      .compound compound :: ofMarks (scan false .start rest).1 := by
  obtain ⟨hne, hmarks⟩ := isCompound_iff.1 hcompound
  have happend : (scan false .start (compound ++ rest)).1 =
      (scan false .start compound).1 ++ (scan false .start rest).1 := by
    by_cases hempty : rest = []
    · simp [hempty, scan]
    · rw [Place.start, scan_append (hclosed hempty)]
  rw [happend]
  refine (ofMarks_append (scan_ne_nil hne) hmarks ?_).trans ?_
  · intro mark hmark hseparator
    obtain ⟨c, hc, hiff⟩ := isSeparator_of_mem_head? hmark
    rw [hiff.2 (hrest c hc)] at hseparator
    cases hseparator
  · rw [map_char_scan]
    rfl

end Run

/-- A text that starts with no separator starts with a compound: all of the text, or the part of it
before the first separator at which nothing is open. -/
theorem exists_compound {text : Text} (h : ∃ c ∈ text.head?, c ∉ separators) :
    ∃ compound rest, text = compound ++ rest ∧ IsCompound compound ∧
      (rest ≠ [] → Nesting.top.LeadsTo compound .top) ∧ ∀ c ∈ rest.head?, c ∈ separators := by
  obtain ⟨c, hc, hstart⟩ := h
  generalize hmarks : (scan false .start text).1 = marks
  have hsplit : marks.takeWhile (!·.isSeparator) ++ marks.dropWhile (!·.isSeparator) = marks :=
    List.takeWhile_append_dropWhile
  have hinside : ∀ mark ∈ marks.takeWhile (!·.isSeparator), mark.isSeparator = false := by
    intro mark hmark
    simpa using List.mem_takeWhile_imp hmark
  have hbehind := List.head?_dropWhile_not (!·.isSeparator) marks
  generalize marks.takeWhile (!·.isSeparator) = first at hsplit hinside
  generalize marks.dropWhile (!·.isSeparator) = last at hsplit hbehind
  rw [← hsplit] at hmarks
  have htext : text = first.map Mark.char ++ last.map Mark.char := by
    rw [← List.map_append, ← hmarks, map_char_scan]
  cases last with
  | nil =>
    have hne : text ≠ [] := by
      rintro rfl
      cases hc
    rw [List.append_nil] at hmarks
    rw [← hmarks] at hinside
    exact ⟨text, [], (List.append_nil _).symm, isCompound_iff.2 ⟨hne, hinside⟩, by simp, by simp⟩
  | cons mark last =>
    obtain ⟨hplain, htop, hseparator⟩ := Mark.isSeparator_iff.1 (by simpa using hbehind)
    have hleads := leadsTo_of_scan_plain hmarks hplain
    have hscan := congrArg Prod.fst (scan_cut hmarks hplain).1
    rw [htop] at hleads
    refine ⟨_, _, htext, isCompound_iff.2 ⟨?_, ?_⟩, fun _ => hleads, ?_⟩
    · intro hempty
      rw [htext, hempty] at hc
      cases hc
      exact hstart hseparator
    · rw [Place.start, hscan]
      exact hinside
    · rintro _ ⟨⟩
      exact hseparator

/-- A text is a gap and a text that starts with no separator. -/
theorem exists_gap (text : Text) :
    ∃ gap rest, text = gap ++ rest ∧ (∀ c ∈ gap, c ∈ separators) ∧
      ∀ c ∈ rest.head?, c ∉ separators := by
  refine ⟨text.takeWhile (· ∈ separators), text.dropWhile (· ∈ separators),
    List.takeWhile_append_dropWhile.symm, ?_, ?_⟩
  · intro c hc
    simpa using List.mem_takeWhile_imp hc
  · intro c hc
    have hhead := List.head?_dropWhile_not (· ∈ separators) text
    rw [Option.mem_def.1 hc] at hhead
    simpa using hhead

/-- A text that is empty or starts with a separator reads as compounds between gaps. -/
theorem exists_links (text : Text) (h : ∀ c ∈ text.head?, c ∈ separators) :
    ∃ links, Links text links := by
  obtain ⟨gap, behind, rfl, hgap, hbehind⟩ := exists_gap text
  by_cases hend : behind = []
  · rw [hend, List.append_nil]
    exact ⟨[], .trail hgap⟩
  · obtain ⟨c, hc⟩ : ∃ c, c ∈ behind.head? := Option.isSome_iff_exists.1 (List.isSome_head?.2 hend)
    obtain ⟨compound, rest, rfl, hcompound, hclosed, hrest⟩ := exists_compound ⟨c, hc, hbehind c hc⟩
    have hne : gap ≠ [] := by
      rintro rfl
      exact hbehind c hc (h c hc)
    have hshorter : rest.length < (gap ++ (compound ++ rest)).length := by
      have := List.length_pos_iff.2 hne
      simp only [List.length_append]
      omega
    obtain ⟨links, hlinks⟩ := exists_links rest hrest
    obtain ⟨combinator, hwritten⟩ := Combinator.exists_writtenBy hgap
    exact ⟨_, .link hne hgap hwritten hcompound hclosed hlinks⟩
termination_by text.length

namespace Chain

/-- A text with a character that is no separator writes a chain. -/
theorem exists_writtenBy {text : Text} (h : ∃ c ∈ text, c ∉ separators) :
    ∃ chain, WrittenBy text chain := by
  obtain ⟨gap, behind, rfl, hgap, hbehind⟩ := exists_gap text
  obtain ⟨c, hc, hseparator⟩ := h
  have hend : behind ≠ [] := by
    rintro rfl
    rw [List.append_nil] at hc
    exact hseparator (hgap c hc)
  obtain ⟨d, hd⟩ : ∃ d, d ∈ behind.head? := Option.isSome_iff_exists.1 (List.isSome_head?.2 hend)
  obtain ⟨compound, rest, rfl, hcompound, hclosed, hrest⟩ := exists_compound ⟨d, hd, hbehind d hd⟩
  obtain ⟨links, hlinks⟩ := exists_links rest hrest
  exact ⟨⟨compound, links⟩, gap, rest, rfl, hgap, hcompound, hclosed, hlinks⟩

end Chain

/-- A compound and what stands behind it start with no separator. -/
theorem IsCompound.head_append {compound : Text} (h : IsCompound compound) (rest : Text) :
    ∀ c ∈ (compound ++ rest).head?, c ∉ separators := by
  obtain ⟨c, hc, hseparator⟩ := h.start
  rw [List.head?_append, Option.mem_def.1 hc]
  rintro _ ⟨⟩
  exact hseparator

namespace Links

variable {text : Text} {links : List (Combinator × Text)}

/-- What follows a compound starts with a separator. -/
theorem head_mem (h : Links text links) : ∀ c ∈ text.head?, c ∈ separators := by
  cases h with
  | trail hgap => exact fun c hc => hgap c (List.mem_of_mem_head? hc)
  | @link gap _ _ _ _ hne hgap =>
    obtain ⟨c, gap, rfl⟩ := List.exists_cons_of_ne_nil hne
    rintro _ ⟨⟩
    exact hgap c List.mem_cons_self

/-- The links of a text are those of its runs. -/
theorem linksOfRuns_eq (h : Links text links) :
    Chain.linksOfRuns (Run.ofMarks (scan false .start text).1) = links := by
  induction h with
  | trail hgap => rcases Run.ofMarks_separators hgap with hruns | hruns <;> rw [hruns] <;> rfl
  | link hne hgap hwritten hcompound hclosed hrest ih =>
    rw [Run.ofMarks_gap hne hgap (hcompound.head_append _),
      Run.ofMarks_compound hcompound hclosed hrest.head_mem, Chain.linksOfRuns, ih,
      Combinator.ofGap_of_writtenBy hwritten]

end Links

namespace Chain

/-- A text is read as the chain that it writes. -/
theorem ofText?_of_writtenBy {text : Text} {chain : Chain Text} (h : WrittenBy text chain) :
    ofText? text = some chain := by
  obtain ⟨first, links⟩ := chain
  obtain ⟨gap, rest, rfl, hgap, hcompound, hclosed, hrest⟩ := h
  have hruns := Run.ofMarks_compound hcompound hclosed hrest.head_mem
  rw [ofText?]
  by_cases hne : gap = []
  · rw [hne, List.nil_append, hruns, ofRuns?, hrest.linksOfRuns_eq]
  · rw [Run.ofMarks_gap hne hgap (hcompound.head_append rest), hruns, ofRuns?, hrest.linksOfRuns_eq]

/-- A text of separators alone has no chain. -/
theorem ofText?_of_separators {text : Text} (h : ∀ c ∈ text, c ∈ separators) :
    ofText? text = none := by
  rw [ofText?]
  rcases Run.ofMarks_separators h with hruns | hruns <;> rw [hruns] <;> rfl

end Chain

namespace Selector

/-- A text of separators alone makes an empty compound. -/
theorem ofText_of_separators {text : Text} (h : ∀ c ∈ Text.strip text, c ∈ separators) :
    ofText text = ⟨Text.strip text, ⟨⟨[], []⟩, []⟩⟩ := by
  unfold ofText
  dsimp only
  rw [Chain.ofText?_of_separators h]

/-- A text makes the compounds of the chain that it writes. -/
theorem ofText_of_writtenBy {text : Text} {chain : Chain Text}
    (h : Chain.WrittenBy (Text.strip text) chain) :
    ofText text = ⟨Text.strip text, chain.map Compound.ofText⟩ := by
  unfold ofText
  dsimp only
  rw [Chain.ofText?_of_writtenBy h]

/-- A selector is cut exactly at its combinators. A trimmed text of separators alone has one part,
an empty compound without tokens. Any other trimmed text writes one chain, and its parts are those
of the chain: the first compound without a combinator, and each further one with the combinator of
the gap before it. -/
theorem ofText_cut_at_combinators (text : Text) :
    (ofText text).text = Text.strip text ∧
      ((∀ c ∈ Text.strip text, c ∈ separators) ∧ (ofText text).chain.parts = [(none, ⟨[], []⟩)] ∨
        ∃ chain, Chain.WrittenBy (Text.strip text) chain ∧
          (∀ other, Chain.WrittenBy (Text.strip text) other → other = chain) ∧
          ((ofText text).chain.parts.map fun (combinator, compound) => (combinator, compound.text)) =
            (none, chain.first) ::
              chain.rest.map fun (combinator, compound) => (some combinator, compound)) := by
  by_cases h : ∀ c ∈ Text.strip text, c ∈ separators
  · rw [ofText_of_separators h]
    exact ⟨rfl, Or.inl ⟨h, rfl⟩⟩
  · obtain ⟨chain, hchain⟩ := Chain.exists_writtenBy (by simpa using h)
    rw [ofText_of_writtenBy hchain]
    refine ⟨rfl, Or.inr ⟨chain, hchain, fun other hother => ?_, ?_⟩⟩
    · rw [← Option.some_inj, ← Chain.ofText?_of_writtenBy hother, Chain.ofText?_of_writtenBy hchain]
    · simp [Chain.parts, Chain.map, Compound.ofText]

end Selector

end ClassLint
