import ClassLint.Config.Basic
import Mathlib.Tactic.ByContra

/-!
# How configurations are read

Reading is a row of checks, and the first one that fails decides. The levels of the rules are
checked member by member before any of them is applied, the formats role by role, and then the other
options one after the other. What is accepted has known rules only, a format for every role, which
is the given one or the default, and a depth of at least one.
-/

namespace ClassLint

/-! ## First failures -/

section

variable {ε α β : Type} {first : Except ε α} {next : α → Except ε β} {failure : ε}

/-- Two steps give a result if the first gives a value and the second a result for it. -/
theorem bind_eq_ok_iff {result : β} :
    first >>= next = .ok result ↔ ∃ value, first = .ok value ∧ next value = .ok result := by
  cases first with
  | error other => simp [bind, Except.bind]
  | ok value => simp [bind, Except.bind]

/-- Two steps fail if the first fails, or if it gives a value for which the second fails. -/
theorem bind_eq_error_iff :
    first >>= next = .error failure ↔
      first = .error failure ∨ ∃ value, first = .ok value ∧ next value = .error failure := by
  cases first with
  | error other => simp [bind, Except.bind]
  | ok value => simp [bind, Except.bind]

/-- What is made of the value of a step is a result if the step gives a value. -/
theorem map_eq_ok_iff {f : α → β} {result : β} :
    first.map f = .ok result ↔ ∃ value, first = .ok value ∧ f value = result := by
  cases first with
  | error other => simp [Except.map]
  | ok value => simp [Except.map]

/-- What is made of the value of a step is there exactly if the value is. -/
theorem exists_map_eq_ok_iff {f : α → β} :
    (∃ result, first.map f = .ok result) ↔ ∃ value, first = .ok value := by
  cases first with
  | error other => simp [Except.map]
  | ok value => simp [Except.map]

/-- Every result of a row of steps is that of a step. -/
theorem exists_of_mem_mapM {items : List α} {results : List β} {result : β}
    (h : items.mapM next = .ok results) (hresult : result ∈ results) :
    ∃ item ∈ items, next item = .ok result := by
  induction items generalizing results with
  | nil =>
    cases h
    cases hresult
  | cons item items ih =>
    rw [List.mapM_cons, bind_eq_ok_iff] at h
    obtain ⟨head, hhead, h⟩ := h
    obtain ⟨tail, htail, h⟩ := bind_eq_ok_iff.1 h
    cases h
    obtain rfl | hresult := List.mem_cons.1 hresult
    · exact ⟨item, List.mem_cons_self, hhead⟩
    · obtain ⟨other, hother, hnext⟩ := ih htail hresult
      exact ⟨other, List.mem_cons_of_mem item hother, hnext⟩

/-- A row of steps gives results if every step gives one. -/
theorem exists_mapM_eq_ok_iff {items : List α} :
    (∃ results, items.mapM next = .ok results) ↔
      ∀ item ∈ items, ∃ result, next item = .ok result := by
  induction items with
  | nil => exact ⟨fun _ item hitem => absurd hitem List.not_mem_nil, fun _ => ⟨[], rfl⟩⟩
  | cons item items ih =>
    rw [List.forall_mem_cons, ← ih]
    constructor
    · intro h
      obtain ⟨results, h⟩ := h
      rw [List.mapM_cons, bind_eq_ok_iff] at h
      obtain ⟨head, hhead, h⟩ := h
      obtain ⟨tail, htail, -⟩ := bind_eq_ok_iff.1 h
      exact ⟨⟨head, hhead⟩, tail, htail⟩
    · intro h
      obtain ⟨⟨head, hhead⟩, tail, htail⟩ := h
      exact ⟨head :: tail, by rw [List.mapM_cons, hhead, htail]; rfl⟩

/-- A row of steps fails with the first of them that fails. -/
theorem mapM_eq_error_iff {items : List α} :
    items.mapM next = .error failure ↔ ∃ before item after, items = before ++ item :: after ∧
      (∀ other ∈ before, ∃ result, next other = .ok result) ∧ next item = .error failure := by
  induction items with
  | nil =>
    constructor
    · intro h
      cases h
    · intro h
      obtain ⟨before, item, after, h, -⟩ := h
      simp at h
  | cons item items ih =>
    rw [List.mapM_cons, bind_eq_error_iff]
    constructor
    · intro h
      obtain h | ⟨head, hhead, h⟩ := h
      · exact ⟨[], item, items, rfl, by simp, h⟩
      · obtain h | ⟨tail, -, h⟩ := bind_eq_error_iff.1 h
        · obtain ⟨before, other, after, rfl, hbefore, hother⟩ := ih.1 h
          exact ⟨item :: before, other, after, rfl,
            List.forall_mem_cons.2 ⟨⟨head, hhead⟩, hbefore⟩, hother⟩
        · cases h
    · intro h
      obtain ⟨before, other, after, hitems, hbefore, hother⟩ := h
      cases before with
      | nil =>
        cases hitems
        exact .inl hother
      | cons first before =>
        cases hitems
        obtain ⟨⟨head, hhead⟩, hbefore⟩ := List.forall_mem_cons.1 hbefore
        have htail := ih.2 ⟨before, other, after, rfl, hbefore, hother⟩
        exact .inr ⟨head, hhead, by rw [htail]; rfl⟩

/-- A row of steps whose results are put into a state one after the other is the row of steps, and
then the results put into the state. -/
theorem eq_map_foldl_mapM {σ : Type} (run : σ → List α → Except ε σ) {put : σ → β → σ}
    (hnil : ∀ state, run state [] = .ok state)
    (hcons : ∀ state item items, run state (item :: items) =
      next item >>= fun result => run (put state result) items)
    (state : σ) (items : List α) :
    run state items = (items.mapM next).map (List.foldl put state) := by
  induction items generalizing state with
  | nil => exact hnil state
  | cons item items ih =>
    rw [hcons, List.mapM_cons]
    cases next item with
    | error failure => rfl
    | ok result =>
      refine (ih (put state result)).trans ?_
      cases items.mapM next with
      | error failure => rfl
      | ok results => rfl

end

/-! ## Keys -/

/-- Sorting texts and dropping repeated ones loses none of them. -/
theorem Text.mem_sortUnique {texts : List Text} {text : Text} :
    text ∈ sortUnique texts ↔ text ∈ texts := by
  rw [sortUnique, List.mem_mergeSort, List.mem_eraseDups]

/-- No key is unknown exactly if all are known. -/
theorem Members.unknownKeys_eq_nil_iff {members : Members} {known : List Text} :
    members.unknownKeys known = [] ↔ ∀ entry ∈ members, entry.1 ∈ known := by
  rw [unknownKeys, List.eq_nil_iff_forall_not_mem]
  simp only [Text.mem_sortUnique, keys, List.mem_filter, List.mem_map]
  constructor
  · intro h entry hentry
    by_contra hunknown
    exact h entry.1 ⟨⟨entry, hentry, rfl⟩, by simpa using hunknown⟩
  · intro h key hkey
    obtain ⟨⟨entry, hentry, rfl⟩, hunknown⟩ := hkey
    simp [h entry hentry] at hunknown

/-! ## Options -/

namespace Options

/-- The format that the members give to a role, if they give one. -/
def formatOf (members : Members) (role : Role) : Except ConfigFailure (Role × Option Format) :=
  match members.get? role.name with
  | none => .ok (role, none)
  | some value => (Format.ofJson value role.name).map fun format => (role, some format)

/-- Give a role a format, if there is one. -/
def applyFormat (formats : Formats) (entry : Role × Option Format) : Formats :=
  entry.2.elim formats (formats.set entry.1)

/-- The formats are all checked, and then given to their roles if none of them fails. -/
theorem readFormats_eq (members : Members) (roles : List Role) (formats : Formats) :
    readFormats members roles formats =
      (roles.mapM (formatOf members)).map (List.foldl applyFormat formats) := by
  refine eq_map_foldl_mapM (fun formats roles => readFormats members roles formats)
    (fun _ => rfl) (fun formats role roles => ?_) formats roles
  rw [readFormats, formatOf]
  cases members.get? role.name with
  | none => rfl
  | some value =>
    dsimp only
    cases Format.ofJson value role.name with
    | error failure => rfl
    | ok format => rfl

/-- What the reading of formats leaves of a role: its given format if it is among the roles and has
one, the old format otherwise. -/
theorem get_of_readFormats {members : Members} {roles : List Role} {formats result : Formats}
    (h : readFormats members roles formats = .ok result) (role : Role) :
    (role ∉ roles ∨ members.get? role.name = none) ∧ result.get role = formats.get role ∨
      ∃ value, members.get? role.name = some value ∧
        Format.ofJson value role.name = .ok (result.get role) := by
  induction roles generalizing formats with
  | nil =>
    cases h
    exact .inl ⟨.inl List.not_mem_nil, rfl⟩
  | cons other roles ih =>
    rw [readFormats] at h
    cases hgiven : members.get? other.name with
    | none =>
      rw [hgiven] at h
      obtain ⟨hleft, hsame⟩ | hright := ih h
      · refine .inl ⟨?_, hsame⟩
        by_cases hrole : role = other
        · exact .inr (hrole ▸ hgiven)
        · exact hleft.imp_left fun hmem => by simp [hrole, hmem]
      · exact .inr hright
    | some value =>
      rw [hgiven] at h
      obtain ⟨format, hformat, h⟩ := bind_eq_ok_iff.1 h
      obtain ⟨hleft, hsame⟩ | hright := ih h
      · by_cases hrole : role = other
        · subst hrole
          rw [Formats.get_set_self] at hsame
          exact .inr ⟨value, hgiven, hsame ▸ hformat⟩
        · rw [Formats.get_set_of_ne _ _ (Ne.symm hrole)] at hsame
          exact .inl ⟨hleft.imp_left fun hmem => by simp [hrole, hmem], hsame⟩
      · exact .inr hright

/-- A depth that is read is at least one. -/
theorem one_le_of_readMaxDepth {members : Members} {depth : Nat}
    (h : readMaxDepth members = .ok depth) : 1 ≤ depth := by
  unfold readMaxDepth at h
  split at h
  · cases h
    decide
  · split at h
    · cases h
    · cases h
      omega
  · cases h

/-- The members of the options that a value holds. -/
def membersOf : Json → Members
  | .object members => members
  | _ => []

/-- A value that stands for nothing holds no options. -/
theorem membersOf_of_isVoid {value : Json} (h : value.isVoid = true) : membersOf value = [] := by
  cases value with
  | object members => exact List.isEmpty_iff.1 h
  | null | bool _ | integer _ | floating _ | text _ | list _ => rfl

/-- Options that are accepted have known keys, and each of them is read from its key. -/
theorem reading_of_ofJson {value : Json} {options : Options} (h : ofJson value = .ok options) :
    (∀ entry ∈ membersOf value, entry.1 ∈ keys) ∧
      readFormats (membersOf value) Role.all {} = .ok options.formats ∧
      readMaxDepth (membersOf value) = .ok options.maxDepth := by
  unfold ofJson at h
  split at h
  · rename_i hvoid
    cases h
    rw [membersOf_of_isVoid hvoid]
    exact ⟨fun entry hentry => absurd hentry List.not_mem_nil, rfl, rfl⟩
  · split at h
    · rename_i members _
      rw [ofMembers] at h
      split at h
      · rename_i hknown
        obtain ⟨formats, hformats, h⟩ := bind_eq_ok_iff.1 h
        obtain ⟨depth, hdepth, h⟩ := bind_eq_ok_iff.1 h
        obtain ⟨whitelist, -, h⟩ := bind_eq_ok_iff.1 h
        obtain ⟨counts, -, h⟩ := bind_eq_ok_iff.1 h
        cases h
        exact ⟨Members.unknownKeys_eq_nil_iff.1 hknown, hformats, hdepth⟩
      · cases h
    · cases h

end Options

namespace Config

/-! ## Levels -/

/-- The level that a member of the rules gives to the rule that it names. -/
def levelOf (entry : Text × Json) : Except ConfigFailure (Text × Level) :=
  if LintRule.names.contains entry.1 then (readLevel entry.1 entry.2).map (entry.1, ·)
  else .error (.ofOption "rules" (.unknownRule entry.1))

/-- Give a rule a level. -/
def applyLevel (rules : RuleLevels) (entry : Text × Level) : RuleLevels :=
  match entry.2 with
  | .off => rules.remove entry.1
  | .on severity => rules.put entry.1 severity

/-- The levels are all checked, and applied in order if none of them fails. -/
theorem readRules_eq (rules : RuleLevels) (members : Members) :
    readRules rules members = (members.mapM levelOf).map (List.foldl applyLevel rules) := by
  refine eq_map_foldl_mapM readRules (fun _ => rfl) (fun rules entry members => ?_) rules members
  rw [readRules, levelOf]
  cases LintRule.names.contains entry.1 with
  | false => rfl
  | true =>
    cases readLevel entry.1 entry.2 with
    | error failure => rfl
    | ok level =>
      cases level with
      | off => rfl
      | on severity => rfl

end Config

/-! ## Rules -/

namespace RuleLevels

/-- All rules have known names. -/
def Known (rules : RuleLevels) : Prop := ∀ entry ∈ rules, entry.1 ∈ LintRule.names

/-- Rules stay known when a known one is given a severity. -/
theorem Known.put {rules : RuleLevels} (h : rules.Known) {name : Text}
    (hname : name ∈ LintRule.names) (severity : Severity) : (rules.put name severity).Known := by
  induction rules with
  | nil => simpa [Known, RuleLevels.put] using hname
  | cons first rules ih =>
    obtain ⟨hfirst, hrules⟩ := List.forall_mem_cons.1 h
    rw [RuleLevels.put]
    split
    · exact List.forall_mem_cons.2 ⟨hname, hrules⟩
    · exact List.forall_mem_cons.2 ⟨hfirst, ih hrules⟩

/-- Rules stay known when one is taken out. -/
theorem Known.remove {rules : RuleLevels} (h : rules.Known) (name : Text) :
    (rules.remove name).Known :=
  fun entry hentry => h entry (List.mem_filter.1 hentry).1

/-- A sequence of known rules leaves known rules. -/
theorem known_ofList {entries : List (Text × Severity)}
    (h : ∀ entry ∈ entries, entry.1 ∈ LintRule.names) : (ofList entries).Known := by
  refine List.foldlRecOn entries _ (fun entry hentry => absurd hentry List.not_mem_nil) ?_
  intro rules hrules entry hentry
  exact Known.put hrules (h entry hentry) entry.2

end RuleLevels

namespace Config

/-- A rule whose level is read is known. -/
theorem name_of_levelOf {entry : Text × Json} {level : Text × Level}
    (h : levelOf entry = .ok level) : level.1 ∈ LintRule.names := by
  rw [levelOf] at h
  split at h
  · rename_i hname
    obtain ⟨found, -, rfl⟩ := map_eq_ok_iff.1 h
    simpa using hname
  · cases h

/-- Levels that are read leave known rules. -/
theorem known_of_readRules {rules result : RuleLevels} {members : Members} (hrules : rules.Known)
    (h : readRules rules members = .ok result) : result.Known := by
  rw [readRules_eq, map_eq_ok_iff] at h
  obtain ⟨levels, hlevels, rfl⟩ := h
  refine List.foldlRecOn levels _ hrules ?_
  intro rules hrules level hlevel
  obtain ⟨entry, -, hentry⟩ := exists_of_mem_mapM hlevels hlevel
  rw [applyLevel]
  split
  · exact hrules.remove level.1
  · exact hrules.put (name_of_levelOf hentry) _

/-- The rules that run by default are known. -/
theorem known_default : RuleLevels.Known ({} : Config).rules := by
  rw [RuleLevels.Known]
  decide

/-- The members of a configuration leave known rules. -/
theorem known_of_rulesOfMembers {members : Members} {rules : RuleLevels}
    (h : rulesOfMembers members = .ok rules) : rules.Known := by
  unfold rulesOfMembers at h
  split at h
  · cases h
    exact known_default
  · exact known_of_readRules known_default h
  · cases h

/-- The keys of a configuration. -/
def keys : List Text := ["rules", "options"]

/-- A configuration that is accepted is an object with known keys, and its rules and options are
read from them. -/
theorem reading_of_ofJson {value : Json} {config : Config} (h : ofJson value = .ok config) :
    ∃ members, value = .object members ∧ (∀ entry ∈ members, entry.1 ∈ keys) ∧
      rulesOfMembers members = .ok config.rules ∧
      optionsOfMembers members = .ok config.options := by
  unfold ofJson at h
  split at h
  · rename_i members
    unfold ofMembers at h
    split at h
    · rename_i hkeys
      obtain ⟨rules, hrules, h⟩ := bind_eq_ok_iff.1 h
      obtain ⟨options, hoptions, h⟩ := bind_eq_ok_iff.1 h
      cases h
      exact ⟨members, rfl, Members.unknownKeys_eq_nil_iff.1 hkeys, hrules, hoptions⟩
    · cases h
  · cases h

end Config

end ClassLint
