import ClassLint.Proofs.Config.Members

/-!
# Configurations and the order of keys

An object names each of its keys once, so that its members are found whatever their order. Options
are read key by key, and that is all there is to them. The levels of the rules are applied one after
the other; but each of them concerns another rule, which keeps its place unless it is turned off, and
so they leave the rules in the order in which these run by default.
-/

namespace ClassLint

namespace Members

variable {members first second : Members}

/-- Two objects with the same members in any order, each of whose keys stands once. -/
structure Reordered (first second : Members) : Prop where
  distinct : first.keys.Nodup
  perm : first.Perm second

/-- In an object with distinct keys, a key has the values of its members and no other. -/
theorem get?_eq_some_iff (h : members.keys.Nodup) {key : Text} {value : Json} :
    members.get? key = some value ↔ (key, value) ∈ members := by
  induction members with
  | nil => simp
  | cons entry members ih =>
    obtain ⟨other, old⟩ := entry
    obtain ⟨hother, hmembers⟩ := List.nodup_cons.1 h
    rw [get?_cons, List.mem_cons, Prod.mk.injEq]
    by_cases hkey : key = other
    · have hbehind : (key, value) ∉ members := by
        intro hmem
        exact hother (hkey ▸ List.mem_map.2 ⟨(key, value), hmem, rfl⟩)
      simp only [hkey, if_true, Option.some.injEq, true_and]
      exact ⟨fun hvalue => .inl hvalue.symm,
        fun hvalue => (hvalue.resolve_right (hkey ▸ hbehind)).symm⟩
    · simp only [hkey, if_false, false_and, false_or]
      exact ih hmembers

/-- Every key has the same value in reordered objects. -/
theorem Reordered.get?_eq (h : Reordered first second) (key : Text) :
    first.get? key = second.get? key := by
  have hsecond : second.keys.Nodup := (h.perm.map Prod.fst).nodup_iff.1 h.distinct
  apply Option.ext
  intro value
  rw [get?_eq_some_iff h.distinct, get?_eq_some_iff hsecond, h.perm.mem_iff]

end Members

/-- Two objects with the same members in any order, or other values that are the same. -/
def Json.Reordered : Json → Json → Prop
  | .object first, .object second => Members.Reordered first second
  | first, second => first = second

namespace RuleLevels

variable {rules : RuleLevels} {name : Text}

/-- A rule that is among distinct ones is given its severity in its place. -/
theorem put_eq_map (hdistinct : (rules.map Prod.fst).Nodup) (hname : name ∈ rules.map Prod.fst)
    (severity : Severity) :
    rules.put name severity =
      rules.map fun entry => (entry.1, if entry.1 = name then severity else entry.2) := by
  induction rules with
  | nil => cases hname
  | cons entry rules ih =>
    obtain ⟨other, old⟩ := entry
    obtain ⟨hother, hrules⟩ := List.nodup_cons.1 hdistinct
    rw [put, List.map_cons]
    by_cases hsame : other = name
    · have hbehind : rules.map (fun entry => (entry.1, if entry.1 = name then severity else entry.2)) =
          rules := by
        refine (List.map_congr_left fun entry hentry => ?_).trans (List.map_id rules)
        have hne : entry.1 ≠ name :=
          fun h => hother (hsame ▸ h ▸ List.mem_map.2 ⟨entry, hentry, rfl⟩)
        simp [hne]
      simp only [hsame, if_true, hbehind]
    · rw [if_neg hsame, ih hrules ((List.mem_cons.1 hname).resolve_left (Ne.symm hsame))]
      simp [hsame]

end RuleLevels

namespace Config

variable {members first second levels others : Members} {rules result : RuleLevels} {config : Config}

/-! ## Levels -/

/-- The severity that a value gives to a rule, if it is one. -/
def severityOf? (name : Text) (value : Json) : Option Severity :=
  match readLevel name value with
  | .ok (.on severity) => some severity
  | _ => none

/-- The severity that levels leave a rule with, if they leave it on: its own if they do not name
it. -/
def severityUnder (levels : Members) (name : Text) (own : Severity) : Option Severity :=
  (levels.get? name).elim (some own) (severityOf? name)

/-- Rules with the severities that levels leave them with, in their order. -/
def rulesUnder (levels : Members) (rules : RuleLevels) : RuleLevels :=
  rules.filterMap fun entry => (severityUnder levels entry.1 entry.2).map (entry.1, ·)

/-- A level for a rule decides about this rule, and the others are left to the other levels. -/
theorem severityUnder_cons (name : Text) (value : Json) (levels : Members) (other : Text)
    (own : Severity) :
    severityUnder ((name, value) :: levels) other own =
      if other = name then severityOf? name value else severityUnder levels other own := by
  rw [severityUnder, Members.get?_cons]
  by_cases hname : other = name
  · rw [if_pos hname, if_pos hname, hname]
    rfl
  · rw [if_neg hname, if_neg hname]
    rfl

/-- Levels that name distinct ones of distinct rules leave these in their order. -/
theorem eq_rulesUnder_of_readRules (hrules : (rules.map Prod.fst).Nodup)
    (hlevels : levels.keys.Nodup) (hnamed : ∀ key ∈ levels.keys, key ∈ rules.map Prod.fst)
    (h : readRules rules levels = .ok result) : result = rulesUnder levels rules := by
  induction levels generalizing rules with
  | nil =>
    cases h
    exact List.filterMap_some.symm
  | cons entry levels ih =>
    obtain ⟨name, value⟩ := entry
    obtain ⟨hname, hrest⟩ := List.nodup_cons.1 hlevels
    obtain ⟨hmem, hnamed⟩ := List.forall_mem_cons.1 hnamed
    have hnone : Members.get? levels name = none := Members.get?_eq_none_iff.2 hname
    rw [readRules] at h
    split at h
    · cases h
    obtain ⟨level, hlevel, h⟩ := bind_eq_ok_iff.1 h
    cases level with
    | off =>
      have hremaining : ∀ key ∈ Members.keys levels, key ∈ (rules.remove name).map Prod.fst := by
        intro key hkey
        obtain ⟨entry, hentry, rfl⟩ := List.mem_map.1 (hnamed key hkey)
        have hne : entry.1 ≠ name := fun h => hname (h ▸ hkey)
        exact List.mem_map.2 ⟨entry, List.mem_filter.2 ⟨hentry, by simpa using hne⟩, rfl⟩
      have hdistinct : ((rules.remove name).map Prod.fst).Nodup :=
        hrules.sublist (List.filter_sublist.map Prod.fst)
      rw [ih hdistinct hrest hremaining h, rulesUnder, rulesUnder, RuleLevels.remove,
        List.filterMap_filter]
      apply List.filterMap_congr
      intro entry _
      by_cases hsame : entry.1 = name
      · simp [severityUnder_cons, hsame, severityOf?, hlevel]
      · simp [severityUnder_cons, hsame]
    | on severity =>
      dsimp only at h
      rw [RuleLevels.put_eq_map hrules hmem] at h
      have hkeys : (rules.map fun entry =>
          (entry.1, if entry.1 = name then severity else entry.2)).map Prod.fst =
            rules.map Prod.fst := by
        rw [List.map_map]
        rfl
      have hkept : severityUnder levels name severity = some severity := by
        rw [severityUnder, hnone]
        rfl
      rw [ih (hkeys ▸ hrules) hrest (hkeys ▸ hnamed) h, rulesUnder, rulesUnder, List.filterMap_map]
      apply List.filterMap_congr
      intro entry _
      by_cases hsame : entry.1 = name
      · simp [severityUnder_cons, hsame, severityOf?, hlevel, hkept]
      · simp [severityUnder_cons, hsame]

/-- The rules that run by default have distinct names. -/
theorem nodup_default : (({} : Config).rules.map Prod.fst).Nodup := by
  decide

/-- Distinct levels are read exactly if each of them sets one, and they leave the default rules in
their order. -/
theorem readRules_eq_ok_iff (h : levels.keys.Nodup) :
    readRules ({} : Config).rules levels = .ok rules ↔
      (∀ entry ∈ levels, SetsLevel entry) ∧ rules = rulesUnder levels ({} : Config).rules := by
  have hexists : (∃ rules, readRules ({} : Config).rules levels = .ok rules) ↔
      ∀ entry ∈ levels, SetsLevel entry := by
    simp only [readRules_eq, exists_map_eq_ok_iff, exists_mapM_eq_ok_iff, exists_levelOf_iff]
  have hrules {rules : RuleLevels} (hset : ∀ entry ∈ levels, SetsLevel entry)
      (hread : readRules ({} : Config).rules levels = .ok rules) :
      rules = rulesUnder levels ({} : Config).rules := by
    apply eq_rulesUnder_of_readRules nodup_default h _ hread
    intro key hkey
    obtain ⟨entry, hentry, rfl⟩ := List.mem_map.1 hkey
    exact (hset entry hentry).1
  constructor
  · intro hread
    have hset := hexists.1 ⟨rules, hread⟩
    exact ⟨hset, hrules hset hread⟩
  · intro hread
    obtain ⟨hset, rfl⟩ := hread
    obtain ⟨found, hfound⟩ := hexists.2 hset
    rw [hfound, hrules hset hfound]

/-- Reordered levels leave the same rules. -/
theorem readRules_reordered (h : Members.Reordered levels others) :
    readRules ({} : Config).rules levels = .ok rules ↔
      readRules ({} : Config).rules others = .ok rules := by
  have hothers : others.keys.Nodup := (h.perm.map Prod.fst).nodup_iff.1 h.distinct
  have hsame : rulesUnder levels ({} : Config).rules = rulesUnder others ({} : Config).rules := by
    apply List.filterMap_congr
    intro entry _
    rw [severityUnder, severityUnder, h.get?_eq]
  rw [readRules_eq_ok_iff h.distinct, readRules_eq_ok_iff hothers, hsame]
  simp only [h.perm.mem_iff]

/-- Rules under levels stand in their order. -/
theorem rulesUnder_sublist (levels : Members) (rules : RuleLevels) :
    ((rulesUnder levels rules).map Prod.fst).Sublist (rules.map Prod.fst) := by
  induction rules with
  | nil => exact .slnil
  | cons entry rules ih =>
    rw [rulesUnder, List.filterMap_cons, List.map_cons]
    cases severityUnder levels entry.1 entry.2 with
    | none =>
      simp only [Option.map_none]
      exact ih.cons entry.1
    | some severity =>
      simp only [Option.map_some, List.map_cons]
      exact ih.cons_cons entry.1

/-! ## Configurations -/

/-- Two configurations whose members, and the members of whose values, stand in any order; every key
stands once. -/
structure Reordered (first second : Members) : Prop where
  distinct : first.keys.Nodup
  pairs : ∃ middle : Members, first.Perm middle ∧
    List.Forall₂ (fun member other => member.1 = other.1 ∧ member.2.Reordered other.2) middle second

/-- Reordered configurations have the same keys, with reordered values. -/
theorem Reordered.rel_get? (h : Reordered first second) (key : Text) :
    Option.Rel Json.Reordered (first.get? key) (second.get? key) := by
  obtain ⟨middle, hperm, hpairs⟩ := h.pairs
  have hmiddle : Members.Reordered first middle := ⟨h.distinct, hperm⟩
  rw [hmiddle.get?_eq]
  clear h hmiddle hperm
  induction hpairs with
  | nil => exact .none
  | cons hpair _ ih =>
    rw [Members.get?_cons, Members.get?_cons, hpair.1]
    split
    · exact .some hpair.2
    · exact ih

/-- Reordered configurations have the same unknown keys. -/
theorem Reordered.unknownKeys_eq (h : Reordered first second) (known : List Text) :
    first.unknownKeys known = second.unknownKeys known := by
  apply Text.sortUnique_congr
  intro key
  have hkey : key ∈ first.keys ↔ key ∈ second.keys := by
    have hrel := h.rel_get? key
    rw [← not_iff_not, ← Members.get?_eq_none_iff, ← Members.get?_eq_none_iff]
    cases hfirst : first.get? key <;> cases hsecond : second.get? key <;> simp_all
  simp only [List.mem_filter, hkey]

/-- Reordered values are read as the same options, or refused for the same mistake. -/
theorem ofJson_reordered {value other : Json} (h : value.Reordered other) :
    Options.ofJson value = Options.ofJson other := by
  unfold Json.Reordered at h
  split at h
  · rw [Options.ofJson_object, Options.ofJson_object, Options.ofMembers_congr h.get?_eq]
  · rw [h]

/-- Reordered configurations have the same options, or the same mistake in them. -/
theorem Reordered.optionsOfMembers_eq (h : Reordered first second) :
    optionsOfMembers first = optionsOfMembers second := by
  have hrel := h.rel_get? "options"
  rw [optionsOfMembers, optionsOfMembers]
  generalize first.get? "options" = found, second.get? "options" = other at hrel
  cases hrel with
  | none => rfl
  | some hvalue => exact ofJson_reordered hvalue

/-- Reordered configurations have the same rules, or mistakes in them. -/
theorem Reordered.rulesOfMembers_iff (h : Reordered first second) :
    rulesOfMembers first = .ok rules ↔ rulesOfMembers second = .ok rules := by
  have hrel := h.rel_get? "rules"
  rw [rulesOfMembers, rulesOfMembers]
  generalize first.get? "rules" = found, second.get? "rules" = other at hrel
  cases hrel with
  | none => rfl
  | some hvalue =>
    unfold Json.Reordered at hvalue
    split at hvalue
    · exact readRules_reordered hvalue
    · rw [hvalue]

/-- The rules of a configuration with distinct levels stand in the order of the names of all
rules. -/
theorem sublist_of_rulesOfMembers
    (hdistinct : ∀ levels : Members, members.get? "rules" = some (.object levels) →
      levels.keys.Nodup)
    (h : rulesOfMembers members = .ok rules) : (rules.map Prod.fst).Sublist LintRule.names := by
  have hdefault : ({} : Config).rules.map Prod.fst = LintRule.names := rfl
  rw [← hdefault]
  unfold rulesOfMembers at h
  split at h
  · cases h
    exact List.Sublist.refl _
  · rename_i levels hlevels
    obtain ⟨-, rfl⟩ := (readRules_eq_ok_iff (hdistinct levels hlevels)).1 h
    exact rulesUnder_sublist _ _
  · cases h

/-- The levels of a reordered configuration are distinct. -/
theorem Reordered.nodup_levels (h : Reordered first second)
    (hlevels : first.get? "rules" = some (.object levels)) : levels.keys.Nodup := by
  have hrel := h.rel_get? "rules"
  rw [hlevels] at hrel
  generalize second.get? "rules" = other at hrel
  cases hrel with
  | @some _ other hvalue =>
    cases other with
    | object others => exact hvalue.distinct
    | _ => cases hvalue

/-- What a configuration means does not depend on the order of its keys. Two objects that differ in
the order of their members, and of the members of the rules and of the options, are read as the same
configuration, or refused both. Its rules stand in the order of the names of all rules, whatever the
order of the levels. Options whose members stand in another order are read as the same options, or
refused for the same mistake in the same option. -/
theorem key_order_irrelevant {first second : Members} (h : Reordered first second) :
    (∀ config, ofJson (.object first) = .ok config ↔ ofJson (.object second) = .ok config) ∧
    (∀ config, ofJson (.object first) = .ok config →
      (config.rules.map Prod.fst).Sublist LintRule.names) ∧
    ∀ options others : Members, options.Reordered others →
      Options.ofJson (.object options) = Options.ofJson (.object others) := by
  refine ⟨fun config => ?_, fun config hconfig => ?_, fun options others hoptions => ?_⟩
  · rw [ofJson, ofJson, ofMembers_eq_ok_iff, ofMembers_eq_ok_iff, h.unknownKeys_eq,
      h.rulesOfMembers_iff, h.optionsOfMembers_eq]
  · obtain ⟨-, hrules, -⟩ := ofMembers_eq_ok_iff.1 hconfig
    exact sublist_of_rulesOfMembers (fun levels => h.nodup_levels) hrules
  · exact ofJson_reordered hoptions

/-- The two parts, two levels and two options in either order. -/
theorem key_order_irrelevant_both_orders :
    let pascal : Text × Json := ("element", .text "pascal")
    let depth : Text × Json := ("maxDepth", .integer 2)
    let warn : Text × Json := ("no-descendant-combinator", .text "warn")
    let fail : Text × Json := ("class-format", .text "error")
    let first : Members := [("rules", .object [warn, fail]), ("options", .object [pascal, depth])]
    let second : Members := [("options", .object [depth, pascal]), ("rules", .object [fail, warn])]
    Reordered first second ∧ ∃ config, ofJson (.object first) = .ok config ∧
      ofJson (.object second) = .ok config ∧
      config.rules = [(LintRule.classFormat.name, .error),
        (LintRule.noDescendantCombinator.name, .warning)] ∧
      (config.rules.map Prod.fst).Sublist LintRule.names := by
  intro pascal depth warn fail first second
  have hlevels : Members.Reordered [warn, fail] [fail, warn] := ⟨by decide, .swap _ _ _⟩
  have hoptions : Members.Reordered [pascal, depth] [depth, pascal] := ⟨by decide, .swap _ _ _⟩
  have hreordered : Reordered first second :=
    ⟨by decide, _, .swap _ _ _, .cons ⟨rfl, hoptions⟩ (.cons ⟨rfl, hlevels⟩ .nil)⟩
  have hconfig : ofJson (.object first) =
      .ok ⟨⟨{ element := .builtin .pascal }, 2, [], true⟩, [(LintRule.classFormat.name, .error),
        (LintRule.noDescendantCombinator.name, .warning)]⟩ := by
    with_unfolding_all rfl
  obtain ⟨hsame, hrules, -⟩ := key_order_irrelevant hreordered
  exact ⟨hreordered, _, hconfig, (hsame _).1 hconfig, rfl, hrules _ hconfig⟩

end Config

end ClassLint
