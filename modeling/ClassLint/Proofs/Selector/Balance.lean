import ClassLint.Stylesheet.SelectorList
import ClassLint.Proofs.Selector.Compounds

/-!
# The readers of selectors agree on what is open

A prelude is scanned once to find its commas; each selector, trimmed and without its comments, is
scanned again to find its combinators; and each compound once more to find its class tokens. All
three see the same strings, brackets and escapes. A compound ended by a separator or by a comma
leaves nothing open, and the last compound of a prelude leaves open what the prelude does.
-/

namespace ClassLint

namespace Nesting

/-- An open nesting as a text can leave it: a string has a quote, and closers are awaited. -/
structure Proper (nesting : Nesting) : Prop where
  quote : ∀ quote ∈ nesting.quote, isQuote quote = true
  closers : ∀ closer ∈ nesting.closers, closer = ']' ∨ closer = ')'

/-- Nothing improper is open at the start. -/
theorem Proper.top : Proper .top := ⟨by simp [Nesting.top], by simp [Nesting.top]⟩

/-- One character keeps a nesting proper. -/
theorem Proper.turns {nesting next : Nesting} {c : Char} (h : nesting.Proper)
    (hturns : Turns nesting c next) : next.Proper := by
  cases hturns with
  | openString hquote => exact ⟨by rcases hquote with rfl | rfl <;> simp [isQuote], h.closers⟩
  | inString => exact h
  | closeString => exact ⟨by simp, h.closers⟩
  | openBracket => exact ⟨by simp, List.forall_mem_cons.2 ⟨Or.inl rfl, h.closers⟩⟩
  | openParenthesis => exact ⟨by simp, List.forall_mem_cons.2 ⟨Or.inr rfl, h.closers⟩⟩
  | close => exact ⟨by simp, (List.forall_mem_cons.1 h.closers).2⟩
  | other => exact h

/-- A text keeps a nesting proper. -/
theorem Proper.leadsTo {nesting after : Nesting} {text : Text} (h : nesting.Proper)
    (hleads : nesting.LeadsTo text after) : after.Proper := by
  induction hleads with
  | nil => exact h
  | escape _ ih => exact ih h
  | char _ hturns _ ih => exact ih (h.turns hturns)

/-- Blanks have no role for strings, brackets and escapes. -/
theorem isBlank_of_role {c : Char} (h : c ∈ ['\\', '"', '\'', '[', '(', ']', ')']) :
    Text.isBlank c = false := by
  simp only [List.mem_cons, List.not_mem_nil, or_false] at h
  rcases h with rfl | rfl | rfl | rfl | rfl | rfl | rfl <;> rfl

/-- A blank starts no escape, and it opens and closes nothing. -/
theorem Proper.turns_blank {nesting : Nesting} {c : Char} (h : nesting.Proper)
    (hc : Text.isBlank c = true) : c ≠ '\\' ∧ Turns nesting c nesting := by
  have hrole : c ∉ ['\\', '"', '\'', '[', '(', ']', ')'] := by
    intro hrole
    rw [isBlank_of_role hrole] at hc
    cases hc
  simp only [List.mem_cons, List.not_mem_nil, or_false, not_or] at hrole
  obtain ⟨hbackslash, hdouble, hsingle, hbracket, hparenthesis, hcloseBracket, hcloseParenthesis⟩ :=
    hrole
  refine ⟨hbackslash, ?_⟩
  obtain ⟨quote, closers⟩ := nesting
  cases quote with
  | some quote =>
    refine .inString ?_
    rintro rfl
    have hquote := h.quote c rfl
    simp [isQuote, hdouble, hsingle] at hquote
  | none =>
    refine .other ⟨hdouble, hsingle, hbracket, hparenthesis⟩ fun hhead => ?_
    rcases h.closers c (List.mem_of_mem_head? hhead) with rfl | rfl
    · exact hcloseBracket rfl
    · exact hcloseParenthesis rfl

/-- Blanks change nothing that is open. -/
theorem Proper.leadsTo_blanks {nesting : Nesting} {blanks : Text} (h : nesting.Proper)
    (hblanks : ∀ c ∈ blanks, Text.isBlank c = true) : nesting.LeadsTo blanks nesting := by
  induction blanks with
  | nil => exact .nil
  | cons c blanks ih =>
    obtain ⟨hc, hrest⟩ := List.forall_mem_cons.1 hblanks
    obtain ⟨hbackslash, hturns⟩ := h.turns_blank hc
    exact .char hbackslash hturns (ih hrest)

end Nesting

/-- Blanks at the end of a text do not change where its scan ends, even if the first of them is
escaped there. -/
theorem scan_append_blanks {text blanks : Text} (h : ∀ c ∈ blanks, Text.isBlank c = true) :
    (scan false .start (text ++ blanks)).2 = (scan false .start text).2 := by
  rcases Nesting.leadsTo_or_dangling .top text with ⟨nesting, htext⟩ | ⟨before, nesting, rfl, hbefore⟩
  · have hblanks := (Nesting.Proper.top.leadsTo htext).leadsTo_blanks h
    rw [Place.start, scan_place (htext.append_iff.2 hblanks), scan_place htext]
  · have hend : (scan false .start (before ++ ['\\'])).2 = .code nesting := by
      rw [Place.start, scan_append hbefore, scan_backslash]
    rw [hend]
    cases blanks with
    | nil => rw [List.append_nil, hend]
    | cons c blanks =>
      have hrest := (Nesting.Proper.top.leadsTo hbefore).leadsTo_blanks
        (List.forall_mem_cons.1 h).2
      rw [List.append_assoc, Place.start]
      exact scan_place (hbefore.append_iff.2 (.escape hrest))

/-- A text is what is left of it without the blanks at its end, and these blanks. -/
theorem Text.exists_blanks (text : Text) :
    ∃ blanks, text = stripRight text ++ blanks ∧ ∀ c ∈ blanks, isBlank c = true := by
  refine ⟨(text.reverse.takeWhile isBlank).reverse, ?_, ?_⟩
  · rw [stripRight, ← List.reverse_append, List.takeWhile_append_dropWhile, List.reverse_reverse]
  · intro c hc
    exact List.mem_takeWhile_imp (List.mem_reverse.1 hc)

/-- Blanks are dropped from the end up to a text that no blank ends. -/
theorem Text.stripRight_append_of_last {first : Text}
    (h : ∃ c ∈ first.getLast?, isBlank c = false) (last : Text) :
    stripRight (first ++ last) = first ++ stripRight last := by
  obtain ⟨c, hc, hblank⟩ := h
  obtain ⟨rest, rfl⟩ := List.getLast?_eq_some_iff.1 hc
  rw [stripRight, stripRight, List.reverse_append, List.dropWhile_append]
  split
  · rename_i hempty
    simp [List.isEmpty_iff.1 hempty, hblank]
  · simp

/-- Trimming stops at a text that no blank starts or ends. -/
theorem Text.strip_around {middle : Text} (hfirst : ∃ c ∈ middle.head?, isBlank c = false)
    (hlast : ∃ c ∈ middle.getLast?, isBlank c = false) (before after : Text) :
    strip (before ++ (middle ++ after)) =
      before.dropWhile isBlank ++ (middle ++ stripRight after) := by
  obtain ⟨c, hc, hblank⟩ := hfirst
  have hstart : (middle ++ after).dropWhile isBlank = middle ++ after := by
    obtain ⟨rest, rfl⟩ := List.head?_eq_some_iff.1 hc
    simp [hblank]
  have hdrop : (before ++ (middle ++ after)).dropWhile isBlank =
      before.dropWhile isBlank ++ middle ++ after := by
    rw [List.dropWhile_append, hstart]
    split
    · rename_i hempty
      rw [List.isEmpty_iff.1 hempty]
      rfl
    · rw [List.append_assoc]
  have hend : ∃ c ∈ (before.dropWhile isBlank ++ middle).getLast?, isBlank c = false := by
    obtain ⟨d, hd, hblank⟩ := hlast
    exact ⟨d, by rw [List.getLast?_append, Option.mem_def.1 hd]; rfl, hblank⟩
  rw [strip, hdrop, stripRight_append_of_last hend, List.append_assoc]

/-- Trimming a text does not change where its scan ends. -/
theorem scan_strip (text : Text) :
    (scan false .start (Text.strip text)).2 = (scan false .start text).2 := by
  have hright (text : Text) :
      (scan false .start (Text.stripRight text)).2 = (scan false .start text).2 := by
    obtain ⟨blanks, hsplit, hblanks⟩ := text.exists_blanks
    conv_rhs => rw [hsplit]
    exact (scan_append_blanks hblanks).symm
  have hleft : Nesting.top.LeadsTo (text.takeWhile Text.isBlank) .top :=
    Nesting.Proper.top.leadsTo_blanks fun c hc => List.mem_takeWhile_imp hc
  have happend := congrArg Prod.snd (scan_append hleft (text.dropWhile Text.isBlank))
  rw [List.takeWhile_append_dropWhile] at happend
  rw [Text.strip, hright, Place.start, happend]

/-- A scan that looks for comments sees the text without them as a scan that does not: the same
marks, and the same left open at the end. -/
theorem scan_filter_isCode (place : Place) (text : Text) :
    scan false (.code place.nesting) (((scan true place text).1.filter Mark.isCode).map Mark.char) =
      ((scan true place text).1.filter Mark.isCode, .code (scan true place text).2.nesting) := by
  fun_induction scan true place text with
  | case1 place => rfl
  | case2 nesting rest marks place hscan ih =>
    rw [hscan] at ih
    exact ih
  | case3 nesting c rest _ marks place hscan ih =>
    rw [hscan] at ih
    exact ih
  | case4 nesting => rfl
  | case5 nesting c rest marks place hscan ih =>
    rw [hscan, Place.nesting] at ih
    rw [List.filter_cons_of_pos rfl, List.filter_cons_of_pos rfl, List.map_cons, List.map_cons,
      Place.nesting, scan_escape, ih]
  | case6 nesting rest hcomment marks place hscan ih =>
    rw [hscan] at ih
    exact ih
  | case7 nesting rest hcomment marks place hscan ih =>
    rw [hscan, Place.nesting] at ih
    rw [List.filter_cons_of_pos rfl, List.filter_cons_of_pos rfl, List.map_cons, List.map_cons,
      Place.nesting, scan_false_char (by simp), scan_false_char (by simp), ih]
  | case8 nesting c rest hlone hescape hcomment marks place hscan ih =>
    have hc : c ≠ '\\' := by
      rintro rfl
      cases rest with
      | nil => exact hlone rfl rfl
      | cons d rest => exact hescape d rest rfl rfl
    rw [hscan, Place.nesting] at ih
    rw [List.filter_cons_of_pos rfl, List.map_cons, Place.nesting, scan_false_char hc, ih]

/-- An item of a list is the last one or stands before it. -/
theorem mem_dropLast_or_getLast? {α : Type} {item : α} {items : List α} (h : item ∈ items) :
    item ∈ items.dropLast ∨ item ∈ items.getLast? := by
  have hne := List.ne_nil_of_mem h
  rw [← List.dropLast_append_getLast hne, List.mem_append, List.mem_singleton] at h
  refine h.imp_right fun hlast => ?_
  rw [hlast]
  exact List.getLast?_eq_some_getLast hne

/-- A text whose strings, brackets and parentheses are all closed, as its class tokens are read. -/
def Balanced (text : Text) : Prop := (scan false .start text).2.isTop = true

/-- A text of whole units that leaves nothing open is balanced. -/
theorem balanced_of_leadsTo {text : Text} (h : Nesting.top.LeadsTo text .top) : Balanced text := by
  rw [Balanced, Place.start, scan_place h]
  rfl

/-- No compound but the last leaves anything open, and the last one leaves open what the text
does. -/
theorem Links.closed {compound rest : Text} {links : List (Combinator × Text)}
    (h : Links rest links) (hclosed : rest ≠ [] → Nesting.top.LeadsTo compound .top) :
    (∀ text ∈ (compound :: links.map Prod.snd).dropLast, Nesting.top.LeadsTo text .top) ∧
      ∀ text ∈ (compound :: links.map Prod.snd).getLast?,
        (scan false .start (compound ++ rest)).2 = (scan false .start text).2 := by
  induction h generalizing compound with
  | @trail gap hgap =>
    refine ⟨by simp, fun text htext => ?_⟩
    obtain rfl : compound = text := by simpa using htext
    by_cases hempty : gap = []
    · rw [hempty, List.append_nil]
    · have hcompound := hclosed hempty
      rw [Place.start, scan_place (hcompound.append_iff.2 (leadsTo_of_separators hgap)),
        scan_place hcompound]
  | @link gap next rest _ links hne hgap _ _ hnext _ ih =>
    have hcompound := hclosed (List.append_ne_nil_of_left_ne_nil hne _)
    obtain ⟨hinner, hlast⟩ := ih hnext
    have hskip : (scan false .start (compound ++ (gap ++ (next ++ rest)))).2 =
        (scan false .start (next ++ rest)).2 := by
      rw [Place.start, ← List.append_assoc,
        scan_append (hcompound.append_iff.2 (leadsTo_of_separators hgap))]
    rw [List.map_cons, List.dropLast_cons_cons, List.getLast?_cons_cons, hskip]
    exact ⟨List.forall_mem_cons.2 ⟨hcompound, hinner⟩, hlast⟩

namespace Selector

/-- The compounds of a selector are those of the chain that its text writes. -/
theorem items_of_writtenBy {text : Text} {chain : Chain Text}
    (h : Chain.WrittenBy (Text.strip text) chain) :
    (ofText text).chain.items = chain.items.map Compound.ofText := by
  rw [ofText_of_writtenBy h]
  simp [Chain.items, Chain.map]

/-- The class tokens of a compound are those of its text. -/
theorem eq_ofText_of_mem_items {text : Text} {compound : Compound}
    (h : compound ∈ (ofText text).chain.items) : compound = Compound.ofText compound.text := by
  by_cases hseparators : ∀ c ∈ Text.strip text, c ∈ separators
  · rw [ofText_of_separators hseparators] at h
    rw [List.mem_singleton.1 h]
    rfl
  · obtain ⟨chain, hchain⟩ := Chain.exists_writtenBy (by simpa using hseparators)
    rw [items_of_writtenBy hchain] at h
    obtain ⟨inner, -, rfl⟩ := List.mem_map.1 h
    rfl

/-- A balanced compound keeps all its class tokens. -/
theorem tokens_of_balanced {text : Text} {compound : Compound}
    (h : compound ∈ (ofText text).chain.items) (hbalanced : Balanced compound.text) :
    compound.tokens = ClassToken.ofMarks (scan false .start compound.text).1 := by
  rw [eq_ofText_of_mem_items h]
  exact if_pos hbalanced

/-- The compounds of a selector are balanced up to the last, and the last one is so exactly if the
text is. -/
theorem balanced_ofText (text : Text) :
    (∀ compound ∈ (ofText text).chain.items.dropLast, Balanced compound.text) ∧
      ∀ compound ∈ (ofText text).chain.items.getLast?, (Balanced compound.text ↔ Balanced text) := by
  by_cases h : ∀ c ∈ Text.strip text, c ∈ separators
  · have htext : Balanced text := by
      rw [Balanced, ← scan_strip]
      exact balanced_of_leadsTo (leadsTo_of_separators h)
    rw [ofText_of_separators h]
    refine ⟨by simp [Chain.items], ?_⟩
    rintro _ ⟨⟩
    exact iff_of_true rfl htext
  · obtain ⟨chain, hchain⟩ := Chain.exists_writtenBy (by simpa using h)
    rw [items_of_writtenBy hchain]
    obtain ⟨gap, rest, hstrip, hgap, -, hclosed, hlinks⟩ := hchain
    obtain ⟨hinner, hlast⟩ := hlinks.closed hclosed
    have hplace : (scan false .start text).2 = (scan false .start (chain.first ++ rest)).2 := by
      rw [← scan_strip, hstrip, Place.start, scan_append (leadsTo_of_separators hgap)]
    constructor
    · intro compound hcompound
      rw [← List.map_dropLast] at hcompound
      obtain ⟨inner, hmem, rfl⟩ := List.mem_map.1 hcompound
      exact balanced_of_leadsTo (hinner inner hmem)
    · intro compound hcompound
      rw [List.getLast?_map, Option.mem_def, Option.map_eq_some_iff] at hcompound
      obtain ⟨last, hmem, rfl⟩ := hcompound
      rw [Balanced, Balanced, hplace, hlast last hmem]
      rfl

end Selector

namespace SelectorList

section SplitWhere

variable {α β : Type} {cut : α → Bool}

/-- There is at least one group. -/
theorem splitWhere_ne_nil (cut : α → Bool) (items : List α) : splitWhere cut items ≠ [] := by
  cases items with
  | nil => simp [splitWhere]
  | cons item rest =>
    rw [splitWhere]
    split
    · simp
    · split <;> simp

/-- Items without a cut are one group. -/
theorem splitWhere_of_forall {items : List α} (h : ∀ item ∈ items, cut item = false) :
    splitWhere cut items = [items] := by
  induction items with
  | nil => rfl
  | cons item rest ih =>
    obtain ⟨hitem, hrest⟩ := List.forall_mem_cons.1 h
    rw [splitWhere, if_neg (by simp [hitem]), ih hrest]

/-- A cut divides the groups before it from those behind it. -/
theorem splitWhere_append_cons {item : α} (hitem : cut item = true) (first last : List α) :
    splitWhere cut (first ++ item :: last) = splitWhere cut first ++ splitWhere cut last := by
  induction first with
  | nil => simp [splitWhere, hitem]
  | cons other first ih =>
    rw [List.cons_append, splitWhere, splitWhere, ih]
    split
    · rfl
    · obtain ⟨group, groups, hgroups⟩ := List.exists_cons_of_ne_nil (splitWhere_ne_nil cut first)
      rw [hgroups]
      rfl

/-- Groups of images are images of groups. -/
theorem map_splitWhere {cut : β → Bool} (f : α → β) (items : List α) :
    (splitWhere (fun item => cut (f item)) items).map (List.map f) =
      splitWhere cut (items.map f) := by
  induction items with
  | nil => rfl
  | cons item rest ih =>
    rw [splitWhere, List.map_cons, splitWhere, ← ih]
    split
    · rfl
    · cases splitWhere (fun item => cut (f item)) rest <;> rfl

/-- Items that are no cuts may be left out before or after splitting. -/
theorem map_filter_splitWhere {keep : α → Bool} (h : ∀ item, cut item = true → keep item = true)
    (items : List α) :
    (splitWhere cut items).map (List.filter keep) = splitWhere cut (items.filter keep) := by
  induction items with
  | nil => rfl
  | cons item rest ih =>
    by_cases hcut : cut item = true
    · rw [List.filter_cons_of_pos (h item hcut), splitWhere, splitWhere, if_pos hcut, if_pos hcut,
        List.map_cons, ih]
      rfl
    · obtain ⟨group, groups, hgroups⟩ := List.exists_cons_of_ne_nil (splitWhere_ne_nil cut rest)
      rw [hgroups] at ih
      rw [splitWhere, if_neg hcut, hgroups]
      by_cases hkeep : keep item = true
      · rw [List.filter_cons_of_pos hkeep, splitWhere, if_neg hcut, ← ih]
        simp [List.filter_cons_of_pos hkeep]
      · rw [List.filter_cons_of_neg hkeep, ← ih]
        simp [List.filter_cons_of_neg hkeep]

end SplitWhere

/-- A comma that ends a selector is plain, and nothing is open before it. -/
theorem isComma_iff {mark : Mark} :
    isComma mark = true ↔ mark.part = .plain ∧ mark.nesting = .top ∧ mark.char = ',' := by
  rw [isComma, Mark.isTopPlain, Bool.and_eq_true, Bool.and_eq_true, beq_iff_eq, Nesting.isTop_iff,
    beq_iff_eq, and_assoc]

/-- Every group of marks between commas is a scan of its own: one that a comma ends leaves nothing
open, and the last one leaves open what the whole text does. -/
theorem scan_groups {text : Text} {marks : List Mark} {place : Place}
    (h : scan false .start text = (marks, place)) :
    (∀ group ∈ (splitWhere isComma marks).dropLast,
      scan false .start (group.map Mark.char) = (group, .start)) ∧
    ∀ group ∈ (splitWhere isComma marks).getLast?,
      scan false .start (group.map Mark.char) = (group, place) := by
  by_cases hcomma : ∃ comma ∈ marks, isComma comma = true
  · obtain ⟨comma, hmem, hcomma⟩ := hcomma
    obtain ⟨first, last, rfl⟩ := List.append_of_mem hmem
    obtain ⟨hplain, htop, hchar⟩ := isComma_iff.1 hcomma
    obtain ⟨hfirst, hlast⟩ := scan_cut (congrArg Prod.fst h) hplain
    rw [htop, ← Place.start] at hfirst
    have hbehind : scan false .start (last.map Mark.char) = (last, place) := by
      rw [htop, List.map_cons, hchar, scan_false_char (by decide), ← Place.start, h] at hlast
      simp only [Prod.mk.injEq, List.cons.injEq] at hlast
      exact Prod.ext hlast.1.2 hlast.2
    -- The groups before the comma all end at top level: the last of them at the comma itself.
    obtain ⟨hinner, hend⟩ := scan_groups hfirst
    obtain ⟨hlater, hplace⟩ := scan_groups hbehind
    have hnonempty := splitWhere_ne_nil isComma last
    rw [splitWhere_append_cons hcomma, List.dropLast_append_of_ne_nil hnonempty,
      List.getLast?_append_of_ne_nil _ hnonempty]
    refine ⟨fun group hgroup => ?_, hplace⟩
    rcases List.mem_append.1 hgroup with hbefore | hafter
    · rcases mem_dropLast_or_getLast? hbefore with hearlier | hat
      · exact hinner group hearlier
      · exact hend group hat
    · exact hlater group hafter
  · have hnone : ∀ mark ∈ marks, isComma mark = false := by simpa using hcomma
    rw [splitWhere_of_forall hnone]
    refine ⟨by simp, fun group hgroup => ?_⟩
    obtain rfl : marks = group := by simpa using hgroup
    rw [show marks.map Mark.char = text by rw [← map_char_scan false .start text, h], h]
termination_by marks.length

/-- The marks of a prelude between its commas, each with its location. -/
def groups (prelude : Text) (origin : Location) : List (List (Location × Mark)) :=
  splitWhere (fun (_, mark) => isComma mark) (locatedMarks prelude origin)

/-- The selectors of a prelude that a comma at top level ends. -/
def ended (prelude : Text) (origin : Location) : List SelectorSource :=
  (groups prelude origin).dropLast.filterMap selector?

/-- The selector of a prelude that its end ends, if there is one. -/
def last? (prelude : Text) (origin : Location) : Option SelectorSource :=
  (groups prelude origin).getLast?.bind selector?

/-- The characters of a group of marks that are not part of a comment. -/
def codeOf (group : List (Location × Mark)) : List Mark := (group.map Prod.snd).filter Mark.isCode

/-- Every selector of a prelude is ended by a comma or by the end. -/
theorem split_eq_ended_append (prelude : Text) (origin : Location) :
    split prelude origin = ended prelude origin ++ (last? prelude origin).toList := by
  have hne : groups prelude origin ≠ [] := splitWhere_ne_nil _ _
  change (groups prelude origin).filterMap selector? = _
  rw [ended, last?, List.getLast?_eq_some_getLast hne]
  conv_lhs => rw [← List.dropLast_append_getLast hne, List.filterMap_append]
  rw [List.filterMap_eq_flatMap_toList selector? [_], List.flatMap_singleton]
  rfl

/-- The selector of a group is located at its first character outside comments that is no blank. -/
theorem selector?_eq_map (group : List (Location × Mark)) :
    selector? group =
      ((group.filter fun entry => entry.2.isCode).find? fun entry => !Text.isBlank entry.2.char).map
        fun found => ⟨Text.strip ((group.filter fun entry => entry.2.isCode).map
          fun entry => entry.2.char), found.1⟩ := by
  rw [selector?]
  split
  · rename_i location mark hfound
    have hsame : (group.filter fun entry => entry.2.isCode).find?
        (fun entry => !Text.isBlank entry.2.char) = some (location, mark) := hfound
    rw [hsame]
    rfl
  · rename_i hnone
    have hsame : (group.filter fun entry => entry.2.isCode).find?
        (fun entry => !Text.isBlank entry.2.char) = none := hnone
    rw [hsame]
    rfl

/-- A selector's text is that of its group without comments, trimmed. -/
theorem text_of_selector? {group : List (Location × Mark)} {selector : SelectorSource}
    (h : selector? group = some selector) :
    selector.text = Text.strip ((codeOf group).map Mark.char) := by
  rw [selector?_eq_map] at h
  obtain ⟨found, -, rfl⟩ := Option.map_eq_some_iff.1 h
  rw [codeOf, List.filter_map, List.map_map]
  rfl

/-- Every character of a prelude has its mark. -/
theorem length_scan (prelude : Text) (origin : Location) :
    ((origin.along prelude).map Prod.fst).length = (scan true .start prelude).1.length := by
  have hchars := congrArg List.length (map_char_scan true .start prelude)
  rw [List.length_map] at hchars
  rw [List.length_map, Location.length_along, hchars]

/-- The groups without comments are those of the marks that are not part of a comment. -/
theorem map_codeOf_groups (prelude : Text) (origin : Location) :
    (groups prelude origin).map codeOf =
      splitWhere isComma ((scan true .start prelude).1.filter Mark.isCode) := by
  have hmarks : (locatedMarks prelude origin).map Prod.snd = (scan true .start prelude).1 :=
    List.map_snd_zip (length_scan prelude origin).ge
  have hcode : ∀ mark, isComma mark = true → Mark.isCode mark = true := by
    intro mark hcomma
    rw [Mark.isCode, (isComma_iff.1 hcomma).1]
    rfl
  rw [← map_filter_splitWhere hcode, ← hmarks, ← map_splitWhere, List.map_map]
  rfl

/-- A selector that a comma ends is balanced. -/
theorem balanced_of_mem_ended {prelude : Text} {origin : Location} {selector : SelectorSource}
    (h : selector ∈ ended prelude origin) : Balanced selector.text := by
  obtain ⟨group, hgroup, hselector⟩ := List.mem_filterMap.1 h
  have hcode : codeOf group ∈
      (splitWhere isComma ((scan true .start prelude).1.filter Mark.isCode)).dropLast := by
    rw [← map_codeOf_groups prelude origin, ← List.map_dropLast]
    exact List.mem_map_of_mem hgroup
  rw [Balanced, text_of_selector? hselector, scan_strip,
    (scan_groups (scan_filter_isCode .start prelude)).1 _ hcode]
  rfl

/-- The selector at the end of a prelude is balanced exactly if the scan of the prelude ends with
nothing open. -/
theorem balanced_of_mem_last? {prelude : Text} {origin : Location} {selector : SelectorSource}
    (h : selector ∈ last? prelude origin) :
    Balanced selector.text ↔ (scan true .start prelude).2.isTop = true := by
  obtain ⟨group, hgroup, hselector⟩ := Option.bind_eq_some_iff.1 h
  have hcode : codeOf group ∈
      (splitWhere isComma ((scan true .start prelude).1.filter Mark.isCode)).getLast? := by
    rw [← map_codeOf_groups prelude origin, List.getLast?_map, hgroup]
    rfl
  rw [Balanced, text_of_selector? hselector, scan_strip,
    (scan_groups (scan_filter_isCode .start prelude)).2 _ hcode, Place.isTop_eq, Place.isTop_eq]
  rfl

/-- The scans of a prelude, of its selectors and of their compounds agree on what is open. Every
compound of a selector that a comma ends is balanced, so that none of its class tokens is left out.
Of the selector at the end of the prelude, every compound but the last is balanced, and the last one
is so exactly if the scan of the prelude ends with nothing open. -/
theorem compounds_balanced (prelude : Text) (origin : Location) :
    split prelude origin = ended prelude origin ++ (last? prelude origin).toList ∧
    (∀ selector ∈ ended prelude origin,
      ∀ compound ∈ (Selector.ofText selector.text).chain.items, Balanced compound.text ∧
        compound.tokens = ClassToken.ofMarks (scan false .start compound.text).1) ∧
    ∀ selector ∈ last? prelude origin,
      (∀ compound ∈ (Selector.ofText selector.text).chain.items.dropLast,
        Balanced compound.text) ∧
      ∀ compound ∈ (Selector.ofText selector.text).chain.items.getLast?,
        (Balanced compound.text ↔ (scan true .start prelude).2.isTop = true) := by
  refine ⟨split_eq_ended_append prelude origin, fun selector hselector compound hcompound => ?_,
    fun selector hselector => ?_⟩
  · obtain ⟨hinner, hlast⟩ := Selector.balanced_ofText selector.text
    have hbalanced : Balanced compound.text := by
      rcases mem_dropLast_or_getLast? hcompound with hbefore | hend
      · exact hinner compound hbefore
      · exact (hlast compound hend).2 (balanced_of_mem_ended hselector)
    exact ⟨hbalanced, Selector.tokens_of_balanced hcompound hbalanced⟩
  · obtain ⟨hinner, hlast⟩ := Selector.balanced_ofText selector.text
    exact ⟨hinner, fun compound hcompound =>
      (hlast compound hcompound).trans (balanced_of_mem_last? hselector)⟩

/-- A selector that a comma ends, with a bracket in a string, a comment and an escaped space before
the comma, and one at the end of the prelude whose last compound stays open. -/
theorem compounds_balanced_open_end :
    ∃ first second : SelectorSource,
      ended ".a[x=\"]\"]/*(*/>.b\\ ,.c>d(e".toList .start = [first] ∧
      last? ".a[x=\"]\"]/*(*/>.b\\ ,.c>d(e".toList .start = some second ∧
      (∀ compound ∈ (Selector.ofText first.text).chain.items, Balanced compound.text ∧
        compound.tokens = ClassToken.ofMarks (scan false .start compound.text).1) ∧
      (Selector.ofText second.text).chain.items = [⟨".c".toList, [⟨['c']⟩]⟩, ⟨"d(e".toList, []⟩] ∧
      Balanced ".c".toList ∧ ¬ Balanced "d(e".toList := by
  have hagree := compounds_balanced ".a[x=\"]\"]/*(*/>.b\\ ,.c>d(e".toList .start
  have hended : ended ".a[x=\"]\"]/*(*/>.b\\ ,.c>d(e".toList .start =
      [⟨".a[x=\"]\"]>.b\\".toList, ⟨1, 1⟩⟩] := by
    with_unfolding_all rfl
  have hlast : last? ".a[x=\"]\"]/*(*/>.b\\ ,.c>d(e".toList .start =
      some ⟨".c>d(e".toList, ⟨1, 21⟩⟩ := by
    with_unfolding_all rfl
  have hitems : (Selector.ofText ".c>d(e".toList).chain.items =
      [⟨".c".toList, [⟨['c']⟩]⟩, ⟨"d(e".toList, []⟩] := by
    with_unfolding_all rfl
  rw [hended, hlast] at hagree
  obtain ⟨hinner, hopen⟩ := hagree.2.2 _ rfl
  rw [hitems] at hinner hopen
  refine ⟨_, _, hended, hlast, hagree.2.1 _ List.mem_cons_self, hitems, ?_, ?_⟩
  · exact hinner _ List.mem_cons_self
  · intro hbalanced
    exact absurd ((hopen _ rfl).1 hbalanced) (by decide)

end SelectorList

end ClassLint
