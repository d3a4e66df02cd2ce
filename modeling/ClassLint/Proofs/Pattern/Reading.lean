import ClassLint.Proofs.Pattern.Symbols
import Mathlib.Logic.Relation

/-!
# Reading written regular expressions

The reader takes the pieces of a written regular expression step by step. A symbol or group adds one
part to the current branch, which a repeat after it replaces; a branch adds a row of parts; a
regular expression adds as many rows as it has branches. Nothing else changes but the widths of
groups and their names, and the language of what is added is the one that the expression denotes.
-/

namespace ClassLint

open PatternToken (bare bareText)

namespace PatternReader

open PatternPart (rowLanguage spread)
open Regex (Symbol margin)

variable {state next : State} {tokens following : List PatternToken} {names : List Text}

/-! ## Steps -/

/-- One piece is taken, and those that belong to it. -/
def Step (before after : State × Pieces) : Prop :=
  ∃ token rest, before.2.next? = some (token, rest) ∧
    take before.1 token before.2.position rest = .ok after ∧
    after.2.tokens.length < before.2.tokens.length

/-- Pieces are taken one after the other. -/
abbrev Steps : State × Pieces → State × Pieces → Prop := Relation.ReflTransGen Step

/-- Steps that leave no pieces are the whole reading, given as much fuel as there are pieces. -/
theorem takeAll_of_steps {before after : State × Pieces} (h : Steps before after)
    (hend : after.2.tokens = []) {fuel : Nat} (hfuel : before.2.tokens.length ≤ fuel) :
    takeAll fuel before.1 before.2 = .ok after.1 := by
  -- from the first step on: every step takes a piece, so the fuel goes down with the pieces
  induction h using Relation.ReflTransGen.head_induction_on generalizing fuel with
  | refl =>
    cases fuel with
    | zero => rfl
    | succ fuel => simp only [takeAll, Pieces.next?, hend]
  | head hstep _ ih =>
    obtain ⟨token, rest, hnext, htake, hless⟩ := hstep
    obtain ⟨fuel, rfl⟩ := Nat.exists_eq_succ_of_ne_zero (by omega : fuel ≠ 0)
    simp only [takeAll, hnext, htake, bind, Except.bind]
    exact ih (by omega)

/-- What reading part of a pattern leaves as it is. The names of groups that it adds are some of
those given. -/
structure Keeps (state next : State) (names : List Text) : Prop where
  flags : next.flags = state.flags
  alphabets : next.alphabets = state.alphabets
  conditions : next.conditions = state.conditions
  deferred : next.deferred = state.deferred
  opened : next.opened = state.opened
  names : ∀ name ∈ next.names.map Prod.fst, name ∈ state.names.map Prod.fst ∨ name ∈ names

/-- Reading nothing keeps a state as it is. -/
theorem Keeps.refl (state : State) : Keeps state state [] :=
  ⟨rfl, rfl, rfl, rfl, rfl, fun _ => .inl⟩

/-- What is kept by one reading and by the next is kept by both together. -/
theorem Keeps.trans {last : State} {more : List Text} (h : Keeps state next names)
    (hmore : Keeps next last more) : Keeps state last (names ++ more) where
  flags := hmore.flags.trans h.flags
  alphabets := hmore.alphabets.trans h.alphabets
  conditions := hmore.conditions.trans h.conditions
  deferred := hmore.deferred.trans h.deferred
  opened := hmore.opened.trans h.opened
  names name hname := by
    obtain hname | hname := hmore.names name hname
    · exact (h.names name hname).imp_right fun hname => List.mem_append_left _ hname
    · exact .inr (List.mem_append_right _ hname)

/-- From a state, and at whichever position, the reader comes behind some pieces, to a state with a
property. -/
def Comes (state : State) (tokens following : List PatternToken) (names : List Text)
    (reached : State → Prop) : Prop :=
  ∀ position, ∃ next after,
    Steps (state, ⟨position, tokens ++ following⟩) (next, ⟨after, following⟩) ∧
      Keeps state next names ∧ reached next

/-- Behind no pieces the reader is where it was. -/
theorem Comes.refl {reached : State → Prop} (h : reached state) :
    Comes state [] following [] reached :=
  fun position => ⟨state, position, .refl, Keeps.refl state, h⟩

/-- The reader comes behind two rows of pieces, one after the other, wherever the first takes it. -/
theorem Comes.trans {more : List PatternToken} {added : List Text} {reached last : State → Prop}
    (h : Comes state tokens (more ++ following) names reached)
    (hmore : ∀ next, Keeps state next names → reached next → Comes next more following added last) :
    Comes state (tokens ++ more) following (names ++ added) last := by
  intro position
  obtain ⟨next, middle, hsteps, hkeeps, hreached⟩ := h position
  obtain ⟨final, after, hmoreSteps, hmoreKeeps, hlast⟩ := hmore next hkeeps hreached middle
  refine ⟨final, after, ?_, hkeeps.trans hmoreKeeps, hlast⟩
  rw [List.append_assoc]
  exact hsteps.trans hmoreSteps

/-- One step that takes a piece and others that belong to it. -/
theorem Comes.step {token : PatternToken} {reached : State → Prop}
    (h : ∀ position, ∃ next after,
      take state token position ⟨position + token.width, tokens ++ following⟩ =
        .ok (next, ⟨after, following⟩) ∧ Keeps state next names ∧ reached next) :
    Comes state (token :: tokens) following names reached := by
  intro position
  obtain ⟨next, after, htake, hkeeps, hreached⟩ := h position
  refine ⟨next, after, .single ⟨token, _, rfl, htake, ?_⟩, hkeeps, hreached⟩
  simp only [List.cons_append, List.length_cons, List.length_append]
  omega

/-! ## What is added -/

/-- A part that a repeat can follow. -/
structure IsRepeatable (part : PatternPart) : Prop where
  not_anchor : ∀ condition, part ≠ .anchor condition
  not_repeated : ∀ pattern, part ≠ .repeated pattern

/-- One part is added to the current branch, and a repeat can follow it. Its language is given. -/
def AddsPart (state : State) (language : Language Char) (next : State) : Prop :=
  ∃ start part, next.branches = state.branches.push start part ∧ IsRepeatable part ∧
    (∀ plain ∈ part.spread, plain.IsPlain) ∧ rowLanguage part.spread = language

/-- A row of parts is added to the current branch. Its language is given. -/
def AddsRow (state : State) (language : Language Char) (next : State) : Prop :=
  next.branches.finished = state.branches.finished ∧
    ∃ row, next.branches.current = state.branches.current ++ row ∧
      (∀ plain ∈ row, plain.IsPlain) ∧ rowLanguage row = language

/-- Rows of parts are added to the branches. The union of their languages is given. -/
def AddsRows (state : State) (language : Language Char) (next : State) : Prop :=
  ∃ rows, next.branches.rows = state.branches.finished ++ rows ∧
    (∀ row ∈ rows, ∀ plain ∈ row, plain.IsPlain) ∧ (rows.map rowLanguage).sum = language

/-- Pushing a part puts what it spreads to at the end of the current branch. -/
theorem current_push (branches : Branches) (start : Nat) (part : PatternPart) :
    (branches.push start part).current = branches.current ++ part.spread := by
  simp [Branches.current, Branches.push]

/-- One part that is added is a row that is added. -/
theorem AddsPart.addsRow {language : Language Char} (h : AddsPart state language next) :
    AddsRow state language next := by
  obtain ⟨start, part, hbranches, -, hplain, hlanguage⟩ := h
  refine ⟨by rw [hbranches]; rfl, part.spread, ?_, hplain, hlanguage⟩
  rw [hbranches, current_push]

/-- Rows that are added one after the other are one row, and their languages multiply. -/
theorem AddsRow.trans {last : State} {language more : Language Char}
    (h : AddsRow state language next) (hmore : AddsRow next more last) :
    AddsRow state (language * more) last := by
  obtain ⟨hfinished, row, hcurrent, hplain, rfl⟩ := h
  obtain ⟨hmoreFinished, rest, hmoreCurrent, hmorePlain, rfl⟩ := hmore
  refine ⟨hmoreFinished.trans hfinished, row ++ rest, ?_, ?_, ?_⟩
  · rw [hmoreCurrent, hcurrent, List.append_assoc]
  · exact List.forall_mem_append.2 ⟨hplain, hmorePlain⟩
  · exact PatternPart.rowLanguage_append row rest

/-- Without a change a row of no parts is added. -/
theorem addsRow_refl (state : State) : AddsRow state 1 state :=
  ⟨rfl, [], (List.append_nil _).symm, nofun, rfl⟩

/-! ## Symbols and repeats -/

/-- A symbol can be repeated. -/
theorem isRepeatable_partOf (symbol : Symbol) : IsRepeatable (partOf symbol) := by
  cases symbol with
  | any | char _ | named _ _ => exact ⟨by rintro _ ⟨⟩, by rintro _ ⟨⟩⟩
  | set negated items =>
    rw [partOf]
    obtain ⟨code, -, hpart⟩ | hpart := ofSet_cases (items.map entryOf).eraseDups negated <;>
      rw [hpart] <;> exact ⟨by rintro _ ⟨⟩, by rintro _ ⟨⟩⟩

/-- A written symbol is read as one part, which stands for the characters of the symbol. -/
theorem comes_symbol {symbol : Symbol} (hflags : state.flags = {})
    (h : symbol.IsWritten (margin following)) :
    Comes state symbol.tokens following [] (AddsPart state symbol.language) := by
  refine Comes.step fun position => ?_
  obtain ⟨after, htake⟩ := gives_take hflags h position (position + symbol.first.width)
  refine ⟨_, after, htake, ⟨rfl, rfl, rfl, rfl, rfl, fun _ => .inl⟩, position, partOf symbol, rfl,
    isRepeatable_partOf symbol, ?_, ?_⟩
  all_goals
    obtain ⟨chars, hpattern, hholds⟩ := plainPattern_partOf symbol
    rw [spread_partOf]
  · rw [List.forall_mem_singleton]
    exact ⟨spread_partOf symbol, by rw [hpattern]; trivial⟩
  · rw [PatternPart.rowLanguage_cons, PatternPart.rowLanguage_nil, mul_one, hpattern]
    ext text
    simp only [Pattern.language, Pattern.ofSet, Symbol.language, hholds]

/-- No sign of a repeat comes next that would change the repeat before it. -/
def Calm (tokens : List PatternToken) : Prop := Stops (fun c => c == '?' || c == '+') tokens

/-- Where neither `?` nor `+` comes, nothing of a kind comes that has no other characters. -/
theorem stops_of_calm {kind : Char → Bool} (h : Calm tokens)
    (hkind : ∀ c, kind c = true → (c == '?' || c == '+') = true) : Stops kind tokens := by
  intro token htoken
  by_contra hne
  obtain ⟨hbare, hc⟩ := PatternToken.eq_bare_of_isOf (Bool.not_eq_false _ ▸ hne)
  have hcalm := h token htoken
  rw [hbare, PatternToken.isOf_bare, hkind _ hc] at hcalm
  cases hcalm

/-- A number within the limits is read from its digits, and none from no digits. -/
theorem readCount_eq {digits : Text} {pieces : Pieces} (hlength : digits.length ≤ Text.digitLimit)
    (hcount : Text.ofDigits 10 digits < repeatLimit) :
    readCount digits pieces =
      .ok (if digits = [] then none else some (Text.ofDigits 10 digits)) := by
  cases digits with
  | nil => rfl
  | cons c digits =>
    simp only [readCount, List.isEmpty_cons, Bool.false_eq_true, ↓reduceIte,
      Nat.not_lt.2 hlength, Nat.not_le.2 hcount, reduceCtorEq]

/-- The sign of a repeat is read as its bounds. -/
theorem gives_repeatSign {mark : Regex.RepeatMark} (h : mark.IsWritten) :
    ∃ first more, mark.text = first :: more ∧ ∀ position rest, ∃ after,
      repeatSign? (bare first) ⟨position, bareText more ++ rest⟩ =
        .ok (some ⟨mark.least, mark.most, ⟨after, rest⟩⟩) := by
  cases mark with
  | star | plus | optional => exact ⟨_, [], rfl, fun position rest => ⟨position, rfl⟩⟩
  | braces bounds =>
    obtain ⟨hdigits, hlow, hhigh, horder⟩ := h
    have hleast : (if bounds.low = [] then none else some (Text.ofDigits 10 bounds.low)).getD 0 =
        Text.ofDigits 10 bounds.low := by
      split
      next hempty => rw [hempty]; rfl
      next => rfl
    have hmost : (if bounds.high = [] then none else some (Text.ofDigits 10 bounds.high)).any
        (· < Text.ofDigits 10 bounds.low) = false := by
      rw [Option.any_eq_false]
      exact fun limit hlimit => decide_eq_false (Nat.not_lt.2 (horder limit hlimit))
    refine ⟨'\x7b', bounds.text ++ ['\x7d'], rfl, fun position rest => ?_⟩
    obtain ⟨after, hbounds⟩ := gives_bounds hdigits position rest
    refine ⟨after, ?_⟩
    simp only [repeatSign?, PatternToken.is_bare, hbounds, readCount_eq hlow.1 hlow.2,
      readCount_eq hhigh.1 hhigh.2, bind, Except.bind, hleast, hmost]
    rfl

/-- Without flags, a sign of a repeat is taken as one. -/
theorem take_sign {token : PatternToken} {pieces : Pieces} {start : Nat} {sign : RepeatSign}
    (hflags : state.flags = {}) (h : repeatSign? token pieces = .ok (some sign)) :
    take state token start pieces = takeRepeat state start sign := by
  simp only [take, hflags, Bool.false_and, Bool.false_eq_true, ↓reduceIte, h, bind, Except.bind]

/-- A repeat puts a loop in place of the last part, with the sign's bounds and way to go on. -/
theorem takeRepeat_eq {start : Nat} {part : PatternPart} {before : List (Nat × PatternPart)}
    (position : Nat) (sign : RepeatSign) (hflags : state.flags = {})
    (hparts : state.branches.parts = (start, part) :: before) (hpart : IsRepeatable part) :
    takeRepeat state position sign =
      .ok ({ state with branches := { state.branches with
        parts := (start, .repeated (.loop sign.least sign.most (readGreed sign.rest).1
          (part.pattern {}))) :: before } }, (readGreed sign.rest).2) := by
  rw [takeRepeat, hparts]
  cases part with
  | anchor condition => exact absurd rfl (hpart.not_anchor condition)
  | repeated pattern => exact absurd rfl (hpart.not_repeated pattern)
  | char _ _ | set _ _ | any | reference _ | together _ | whole _ => simp only [hflags]; rfl

/-- The sign after a repeat says how it goes on. -/
theorem readGreed_eq (isLazy : Bool) (hcalm : Calm following) (position : Nat) :
    ∃ after, readGreed ⟨position, bareText (if isLazy then ['?'] else []) ++ following⟩ =
      (if isLazy then .lazy else .greedy, ⟨after, following⟩) := by
  cases isLazy with
  | true => exact ⟨_, by simp only [readGreed, ↓reduceIte, PatternToken.bareText_cons,
      PatternToken.bareText_nil, List.cons_append, List.nil_append, Pieces.skip?_bare]; rfl⟩
  | false =>
    have hlazy : Stops (· == '?') following := stops_of_calm hcalm fun c hc => by rw [hc]; rfl
    have hpossessive : Stops (· == '+') following :=
      stops_of_calm hcalm fun c hc => by rw [hc, Bool.or_true]
    refine ⟨position, ?_⟩
    simp only [Bool.false_eq_true, ↓reduceIte, PatternToken.bareText_nil, List.nil_append,
      readGreed, Pieces.skip?_of_stops hlazy, Pieces.skip?_of_stops hpossessive]

/-- A repeat replaces the part before it by its repetitions. -/
theorem comes_repeat {before : State} {language : Language Char} {count : Option Regex.Repeat}
    (hflags : state.flags = {}) (hcount : ∀ sign ∈ count, sign.mark.IsWritten)
    (hcalm : Calm following) (hadds : AddsPart before language state) :
    Comes state (bareText (Regex.repeatText count)) following []
      (AddsRow before (Regex.repeatLanguage count language)) := by
  cases count with
  | none => exact Comes.refl hadds.addsRow
  | some sign =>
    obtain ⟨mark, isLazy⟩ := sign
    have hmark : mark.IsWritten := hcount _ rfl
    obtain ⟨start, part, hbranches, hpart, hplain, hlanguage⟩ := hadds
    have hparts : state.branches.parts = (start, part) :: before.branches.parts := by
      rw [hbranches]; rfl
    obtain ⟨first, more, htext, hsign⟩ := gives_repeatSign hmark
    have htokens : bareText (Regex.repeatText (some ⟨mark, isLazy⟩)) =
        bare first :: (bareText more ++ bareText (if isLazy then ['?'] else [])) := by
      rw [Regex.repeatText, htext, List.cons_append, PatternToken.bareText_cons,
        PatternToken.bareText_append]
    rw [htokens]
    refine Comes.step fun position => ?_
    obtain ⟨middle, hsign⟩ := hsign (position + (bare first).width)
      (bareText (if isLazy then ['?'] else []) ++ following)
    obtain ⟨after, hgreed⟩ := readGreed_eq isLazy hcalm middle
    have htake := takeRepeat_eq position
      ⟨mark.least, mark.most, ⟨middle, bareText (if isLazy then ['?'] else []) ++ following⟩⟩ hflags
      hparts hpart
    simp only [hgreed] at htake
    have hfinished : state.branches.finished = before.branches.finished := by rw [hbranches]; rfl
    refine ⟨{ state with branches := { state.branches with
        parts := (start, .repeated (.loop mark.least mark.most (if isLazy then .lazy else .greedy)
          (part.pattern {}))) :: before.branches.parts } }, after, ?_,
      ⟨rfl, rfl, rfl, rfl, rfl, fun _ => .inl⟩, hfinished, [.repeated _],
      current_push before.branches start _, ?_, ?_⟩
    · rw [List.append_assoc, take_sign hflags hsign]
      exact htake
    · rw [List.forall_mem_singleton]
      refine ⟨rfl, ?_, ?_, PatternPart.isRegular_sequencePattern ?_⟩
      · cases isLazy <;> decide
      · cases mark with
        | star | plus => exact nofun
        | optional => rintro limit ⟨⟩; exact Nat.zero_le 1
        | braces bounds => exact hmark.2.2.2
      · rwa [List.flatMap_singleton]
    · rw [PatternPart.rowLanguage_cons, PatternPart.rowLanguage_nil, mul_one, ← hlanguage,
        ← List.flatMap_singleton spread part, ← PatternPart.language_sequencePattern]
      rfl

/-! ## Groups and branches -/

/-- Names that are new and all different. -/
structure Fresh (state : State) (names : List Text) : Prop where
  nodup : names.Nodup
  not_mem : ∀ name ∈ names, name ∉ state.names.map Prod.fst

/-- Names that are new together with others are new. -/
theorem Fresh.left {more : List Text} (h : Fresh state (names ++ more)) : Fresh state names where
  nodup := (List.nodup_append.1 h.nodup).1
  not_mem name hname := h.not_mem name (List.mem_append_left _ hname)

/-- Names stay new while others are read. -/
theorem Fresh.right {more : List Text} (h : Fresh state (names ++ more))
    (hnames : ∀ name ∈ next.names.map Prod.fst, name ∈ state.names.map Prod.fst ∨ name ∈ names) :
    Fresh next more where
  nodup := (List.nodup_append.1 h.nodup).2.1
  not_mem name hname hmem := by
    obtain hmem | hmem := hnames name hmem
    · exact h.not_mem name (List.mem_append_right _ hname) hmem
    · exact (List.nodup_append.1 h.nodup).2.2 name hmem name hname rfl

/-- A parenthesis was opened for a group, and nothing has been read in it. -/
structure Opens (state inner : State) (group : OpenGroup) (names : List Text) : Prop where
  branches : inner.branches = {}
  flags : inner.flags = state.flags
  alphabets : inner.alphabets = state.alphabets
  conditions : inner.conditions = state.conditions
  deferred : inner.deferred = state.deferred
  opened : inner.opened = group :: state.opened
  opening : (∃ index, group.opening = .capture index) ∨ group.opening = .together
  outer : group.outer = state.branches
  groupFlags : group.flags = state.flags
  names : ∀ name ∈ inner.names.map Prod.fst, name ∈ state.names.map Prod.fst ∨ name ∈ names

/-- An identifier has no character that identifiers cannot have. -/
theorem not_mem_of_isIdentifier {name : Text} {c : Char} (h : Text.isIdentifier name = true)
    (hc : Text.continuesIdentifier c = false) : c ∉ name := by
  intro hmem
  cases name with
  | nil => cases hmem
  | cons first rest =>
    obtain ⟨hfirst, hrest⟩ := Bool.and_eq_true_iff.1 h
    have hcontinues : Text.continuesIdentifier c = true := by
      obtain rfl | hmem := List.mem_cons.1 hmem
      · rw [Text.continuesIdentifier, hfirst, Bool.true_or]
      · exact List.all_eq_true.1 hrest c hmem
    rw [hc] at hcontinues
    cases hcontinues

/-- The sign of a group is taken as its parenthesis. -/
theorem exists_opens {sort : Regex.GroupSort} (hflags : state.flags = {}) (hsort : sort.IsWritten)
    (hfresh : Fresh state sort.names) (hcalm : Calm following) (position : Nat) :
    ∃ inner after group, Steps (state, ⟨position, bareText sort.opening ++ following⟩)
      (inner, ⟨after, following⟩) ∧ Opens state inner group sort.names := by
  have htake (pieces : Pieces) : take state (bare '(') position pieces =
      takeOpening state position pieces := by
    rw [take_of_not_sign hflags (by decide)]
    rfl
  have hless : following.length < (bareText sort.opening ++ following).length := by
    have hopening : 0 < (bareText sort.opening).length := by
      cases sort <;> simp [Regex.GroupSort.opening]
    rw [List.length_append]
    omega
  cases sort with
  | captured =>
    have hstops : Stops (· == '?') following := stops_of_calm hcalm fun c hc => by rw [hc]; rfl
    have hopen : takeOpening state position ⟨position + 1, following⟩ =
        .ok (state.openCapture position, ⟨position + 1, following⟩) := by
      rw [takeOpening, Pieces.skip?_of_stops hstops]
    exact ⟨state.openCapture position, position + 1, _,
      .single ⟨bare '(', _, rfl, (htake _).trans hopen, hless⟩,
      ⟨rfl, rfl, rfl, rfl, rfl, rfl, .inl ⟨_, rfl⟩, rfl, rfl, fun _ => .inl⟩⟩
  | together =>
    have hopen : takeOpening state position ⟨position + 1, bare '?' :: bare ':' :: following⟩ =
        .ok (state.openGroup .together position, ⟨position + 3, following⟩) := rfl
    exact ⟨state.openGroup .together position, position + 3, _,
      .single ⟨bare '(', _, rfl, (htake _).trans hopen, hless⟩,
      ⟨rfl, rfl, rfl, rfl, rfl, rfl, .inr rfl, rfl, rfl, fun _ => .inl⟩⟩
  | named name =>
    have hidentifier : Text.isIdentifier name = true := hsort name (List.mem_singleton_self name)
    have hne : name ≠ [] := by
      rintro rfl
      cases hidentifier
    have hcloser : ∀ c ∈ name, c ≠ '>' := by
      rintro c hc rfl
      exact not_mem_of_isIdentifier hidentifier (by decide +kernel) hc
    obtain ⟨after, hread⟩ := gives_readName hne hcloser "group name" (position + 4)
      following
    have hlookup : state.names.lookup name = none := by
      refine List.lookup_eq_none_iff.2 fun entry hentry => bne_iff_ne.2 ?_
      rintro rfl
      exact hfresh.not_mem _ (List.mem_singleton_self _) (List.mem_map_of_mem hentry)
    have hopen : takeOpening state position ⟨position + 1,
        bare '?' :: bare 'P' :: bare '<' :: (bareText name ++ bare '>' :: following)⟩ =
        .ok ({ state.openCapture position with
          names := (name, state.groupCount + 1) :: state.names }, ⟨after, following⟩) := by
      change takeNamedGroup state position ⟨position + 4, _⟩ = _
      simp only [takeNamedGroup, hread, bind, Except.bind, hidentifier, hlookup, Bool.not_true,
        Bool.false_eq_true, ↓reduceIte]
    have htokens : bareText (Regex.GroupSort.named name).opening ++ following =
        bare '(' :: bare '?' :: bare 'P' :: bare '<' ::
          (bareText name ++ bare '>' :: following) := by
      simp [Regex.GroupSort.opening]
    rw [htokens] at hless ⊢
    refine ⟨_, after, _, .single ⟨bare '(', _, rfl, (htake _).trans hopen, hless⟩,
      ⟨rfl, rfl, rfl, rfl, rfl, rfl, .inl ⟨_, rfl⟩, rfl, rfl, ?_⟩⟩
    intro other hother
    obtain rfl | hother := List.mem_cons.1 hother
    · exact .inr (List.mem_singleton_self _)
    · exact .inl hother

/-- The part of a closed group has the language of what was read in it. -/
theorem closeGroup_spec {inner : State} {group : OpenGroup} {language : Language Char}
    (hopening : (∃ index, group.opening = .capture index) ∨ group.opening = .together)
    (hflags : next.flags = {}) (hbranches : inner.branches = {})
    (hadds : AddsRows inner language next) :
    IsRepeatable (closeGroup next group).2 ∧
      (∀ plain ∈ (closeGroup next group).2.spread, plain.IsPlain) ∧
      rowLanguage (closeGroup next group).2.spread = language ∧
      ∃ widths, (closeGroup next group).1 = { next with widths } := by
  obtain ⟨rows, hrows, hplain, rfl⟩ := hadds
  rw [hbranches, List.nil_append] at hrows
  rw [← hrows] at hplain ⊢
  obtain ⟨hclosed, hlanguage⟩ := Branches.close_spec hplain
  obtain ⟨hregular, hbody⟩ := Branches.sequencePattern_close_spec hplain
  rw [← hflags] at hclosed hlanguage hregular hbody
  obtain ⟨index, hopening⟩ | hopening := hopening
  · simp only [closeGroup, hopening]
    refine ⟨⟨nofun, nofun⟩, List.forall_mem_singleton.2 ⟨rfl, hregular⟩, ?_, _, rfl⟩
    rw [← hbody]
    exact mul_one _
  · simp only [closeGroup, hopening]
    exact ⟨⟨nofun, nofun⟩, hclosed, hlanguage, _, rfl⟩

/-- A parenthesis closes the group and adds its part to what was read before it. -/
theorem comes_closing {inner : State} {group : OpenGroup} {language : Language Char}
    {more : List Text} (hflags : state.flags = {}) (hopens : Opens state inner group names)
    (hkeeps : Keeps inner next more) (hadds : AddsRows inner language next) (position : Nat)
    (following : List PatternToken) :
    ∃ last after, Steps (next, ⟨position, bare ')' :: following⟩) (last, ⟨after, following⟩) ∧
      Keeps state last (names ++ more) ∧ AddsPart state language last := by
  have hnext : next.flags = {} := hkeeps.flags.trans (hopens.flags.trans hflags)
  obtain ⟨hrepeatable, hplain, hlanguage, widths, hclosed⟩ :=
    closeGroup_spec hopens.opening hnext hopens.branches hadds
  have htake : take next (bare ')') position ⟨position + 1, following⟩ =
      takeClosing next position ⟨position + 1, following⟩ := by
    rw [take_of_not_sign hnext (by decide)]
    rfl
  have hopened : next.opened = group :: state.opened := hkeeps.opened.trans hopens.opened
  generalize hclose : closeGroup next group = closing at hrepeatable hplain hlanguage hclosed
  obtain ⟨closed, part⟩ := closing
  simp only [takeClosing, hopened, hclose] at htake
  refine ⟨_, _, .single ⟨bare ')', _, rfl, htake, by simp⟩, ?_, group.start, part, ?_, hrepeatable,
    hplain, hlanguage⟩
  · obtain rfl := hclosed
    refine ⟨hopens.groupFlags, hkeeps.alphabets.trans hopens.alphabets,
      hkeeps.conditions.trans hopens.conditions, hkeeps.deferred.trans hopens.deferred, rfl, ?_⟩
    intro name hname
    obtain hname | hname := hkeeps.names name hname
    · exact (hopens.names name hname).imp_right fun hname => List.mem_append_left _ hname
    · exact .inr (List.mem_append_right _ hname)
  · rw [← hopens.outer]

/-- The innermost open parenthesis is none of a condition. -/
def NotInCondition (state : State) : Prop :=
  ∀ group ∈ state.opened.head?, ∀ index, group.opening ≠ .condition index

/-- A bar ends the current branch. -/
theorem comes_bar (hflags : state.flags = {}) (hcondition : NotInCondition state) :
    Comes state [bare '|'] following [] fun next => next.branches = state.branches.next := by
  refine Comes.step fun position => ⟨{ state with branches := state.branches.next }, position + 1,
    ?_, ⟨rfl, rfl, rfl, rfl, rfl, fun _ => .inl⟩, rfl⟩
  have htake (pieces : Pieces) : take state (bare '|') position pieces =
      takeBar state position pieces := by
    rw [take_of_not_sign hflags (by decide)]
    rfl
  rw [htake, takeBar]
  split
  next index _ _ _ _ _ hopened => exact absurd rfl (hcondition _ (by rw [hopened]; rfl) index)
  next => rfl

/-! ## What comes next -/

/-- Nothing changes a repeat where another piece than a sign comes. -/
theorem calm_cons {token : PatternToken} (h : token.isOf (fun c => c == '?' || c == '+') = false) :
    Calm (token :: following) := by
  rintro _ ⟨⟩
  exact h

/-- A written symbol starts with no sign that changes a repeat before it. -/
theorem calm_symbol {symbol : Symbol} {before : Text} (h : symbol.IsWritten before) :
    Calm (symbol.tokens ++ following) := by
  refine calm_cons ?_
  cases symbol with
  | any | named _ _ | set _ _ => rfl
  | char literal =>
    cases literal with
    | bare c =>
      rw [Regex.Symbol.first, Regex.Literal.first, PatternToken.isOf_bare,
        beq_sign_eq_false h.1 (by decide), beq_sign_eq_false h.1 (by decide)]
      rfl
    | escaped _ | control _ _ | hexadecimal _ _ | octal _ _ | named _ _ => rfl

/-- A written branch starts with no such sign, if what follows does not. -/
theorem calm_branch {branch : Regex.Branch} (h : branch.IsWritten) (hcalm : Calm following) :
    Calm (branch.tokens ++ following) := by
  cases branch with
  | nil => exact hcalm
  | cons atom count rest =>
    obtain ⟨hatom, -, -⟩ := h
    cases atom with
    | symbol symbol =>
      rw [Regex.Branch.tokens, Regex.Atom.tokens, List.append_assoc]
      exact calm_symbol hatom
    | group sort body =>
      rw [Regex.Branch.tokens, Regex.Atom.tokens]
      cases sort <;> exact calm_cons rfl

/-- A written regular expression starts with no such sign, if what follows does not. -/
theorem calm_regex {regex : Regex} (h : regex.IsWritten) (hcalm : Calm following) :
    Calm (regex.tokens ++ following) := by
  cases regex with
  | last branch => exact calm_branch h hcalm
  | or branch rest =>
    rw [Regex.tokens, List.append_assoc]
    exact calm_branch h.1 (calm_cons rfl)

/-! ## Regular expressions -/

/-- A state with a property has every property that follows from it. -/
theorem Comes.imp {reached last : State → Prop} (h : Comes state tokens following names reached)
    (himp : ∀ next, reached next → last next) : Comes state tokens following names last := by
  intro position
  obtain ⟨next, after, hsteps, hkeeps, hreached⟩ := h position
  exact ⟨next, after, hsteps, hkeeps, himp next hreached⟩

/-- The bar between branches ends a margin. -/
theorem margin_bar (tokens : List PatternToken) : margin (bare '|' :: tokens) = [] :=
  Regex.margin_bare_cons_of_not_isMargin rfl

/-- A closing parenthesis ends a margin. -/
theorem margin_closing (tokens : List PatternToken) : margin (bare ')' :: tokens) = [] :=
  Regex.margin_bare_cons_of_not_isMargin rfl

/-- A branch is one row. -/
theorem AddsRow.addsRows {language : Language Char} (h : AddsRow state language next)
    (hempty : state.branches.parts = []) : AddsRows state language next := by
  obtain ⟨hfinished, row, hcurrent, hplain, rfl⟩ := h
  have hnone : state.branches.current = [] := by rw [Branches.current, hempty]; rfl
  refine ⟨[row], ?_, List.forall_mem_singleton.2 hplain, by simp⟩
  rw [Branches.rows, hfinished, hcurrent, hnone, List.nil_append]

/-- The rows after a bar are those after the branch before it. -/
theorem AddsRow.addsRows_of_bar {middle last : State} {language more : Language Char}
    (h : AddsRow state language next) (hempty : state.branches.parts = [])
    (hbar : middle.branches = next.branches.next) (hmore : AddsRows middle more last) :
    AddsRows state (language + more) last := by
  obtain ⟨hfinished, row, hcurrent, hplain, rfl⟩ := h
  obtain ⟨rows, hrows, hmorePlain, rfl⟩ := hmore
  have hnone : state.branches.current = [] := by rw [Branches.current, hempty]; rfl
  refine ⟨row :: rows, ?_, List.forall_mem_cons.2 ⟨hplain, hmorePlain⟩, by simp⟩
  rw [hrows, hbar, Branches.next, hfinished, hcurrent, hnone, List.nil_append, List.append_assoc,
    List.singleton_append]

mutual

/-- A symbol or group is read as a part of its language. -/
theorem comes_atom (atom : Regex.Atom) {state : State} {following : List PatternToken}
    (hwritten : atom.IsWritten (margin following)) (hflags : state.flags = {})
    (hfresh : Fresh state atom.names) :
    Comes state atom.tokens following atom.names (AddsPart state atom.language) := by
  cases atom with
  | symbol symbol => exact comes_symbol hflags hwritten
  | group sort body =>
    -- the parenthesis is opened, the body is read into no branches at all, and the group is closed
    obtain ⟨hsort, hbody⟩ := hwritten
    intro position
    have hcalm : Calm (body.tokens ++ bare ')' :: following) := calm_regex hbody (calm_cons rfl)
    obtain ⟨inner, start, group, hopening, hopens⟩ := exists_opens hflags hsort hfresh.left hcalm
      position
    have hinner : inner.flags = {} := hopens.flags.trans hflags
    have hcondition : NotInCondition inner := by
      intro other hother index
      rw [hopens.opened] at hother
      obtain rfl := Option.some.inj hother
      obtain ⟨_, hopening⟩ | hopening := hopens.opening <;> rw [hopening] <;> nofun
    obtain ⟨next, middle, hreading, hkeeps, hadds⟩ := comes_regex body hbody hinner
      (hfresh.right hopens.names) hcondition (by rw [hopens.branches]) (margin_closing following)
      (calm_cons rfl) start
    obtain ⟨last, after, hclosing, hlast, hpart⟩ := comes_closing hflags hopens hkeeps hadds
      middle following
    refine ⟨last, after, ?_, hlast, hpart⟩
    rw [Regex.Atom.tokens, List.append_assoc, List.append_assoc]
    exact (hopening.trans hreading).trans hclosing

/-- A branch is read as a row of its language. -/
theorem comes_branch (branch : Regex.Branch) {state : State} {following : List PatternToken}
    (hwritten : branch.IsWritten) (hflags : state.flags = {}) (hfresh : Fresh state branch.names)
    (hmargin : margin following = []) (hcalm : Calm following) :
    Comes state branch.tokens following branch.names (AddsRow state branch.language) := by
  cases branch with
  | nil => exact Comes.refl (addsRow_refl state)
  | cons atom count rest =>
    obtain ⟨hatom, hcount, hrest⟩ := hwritten
    -- what is written after the branch has no margin, so the atom is written before all of it
    rw [← Regex.margin_append_of_margin_eq_nil hmargin, List.append_assoc] at hatom
    refine Comes.trans (by rw [List.append_assoc]; exact comes_atom atom hatom hflags hfresh.left)
      fun middle hmiddle hpart => ?_
    have hmiddleFlags : middle.flags = {} := hmiddle.flags.trans hflags
    refine Comes.trans (comes_repeat hmiddleFlags hcount (calm_branch hrest hcalm) hpart)
      fun next hnext hrow => ?_
    have hnextNames : ∀ name ∈ next.names.map Prod.fst,
        name ∈ state.names.map Prod.fst ∨ name ∈ atom.names := by
      simpa using (hmiddle.trans hnext).names
    exact (comes_branch rest hrest (hnext.flags.trans hmiddleFlags) (hfresh.right hnextNames)
      hmargin hcalm).imp fun last hlast => hrow.trans hlast

/-- A regular expression is read as rows of its language. -/
theorem comes_regex (regex : Regex) {state : State} {following : List PatternToken}
    (hwritten : regex.IsWritten) (hflags : state.flags = {}) (hfresh : Fresh state regex.names)
    (hcondition : NotInCondition state) (hempty : state.branches.parts = [])
    (hmargin : margin following = []) (hcalm : Calm following) :
    Comes state regex.tokens following regex.names (AddsRows state regex.language) := by
  cases regex with
  | last branch =>
    exact (comes_branch branch hwritten hflags hfresh hmargin hcalm).imp fun next hrow =>
      hrow.addsRows hempty
  | or branch rest =>
    obtain ⟨hbranch, hrest⟩ := hwritten
    refine Comes.trans
      (comes_branch branch hbranch hflags hfresh.left (margin_bar _) (calm_cons rfl))
      fun middle hmiddle hrow => ?_
    have hmiddleFlags : middle.flags = {} := hmiddle.flags.trans hflags
    have hmiddleCondition : NotInCondition middle := by
      rw [NotInCondition, hmiddle.opened]
      exact hcondition
    refine Comes.trans (comes_bar hmiddleFlags hmiddleCondition)
      fun next hnext hbar => ?_
    have hnextCondition : NotInCondition next := by
      rw [NotInCondition, hnext.opened]
      exact hmiddleCondition
    have hnextNames : ∀ name ∈ next.names.map Prod.fst,
        name ∈ state.names.map Prod.fst ∨ name ∈ branch.names := by
      simpa using (hmiddle.trans hnext).names
    exact (comes_regex rest hrest (hnext.flags.trans hmiddleFlags) (hfresh.right hnextNames)
      hnextCondition (by rw [hbar]; rfl) hmargin hcalm).imp fun last hrows =>
        hrow.addsRows_of_bar hempty hbar hrows

end

end PatternReader

end ClassLint
