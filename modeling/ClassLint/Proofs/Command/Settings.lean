import ClassLint.Command.Settings
import ClassLint.Proofs.Config.Reading

/-!
# Settings that a command line gives

The values of the options are converted one after the other, so that what every conversion keeps
holds of the settings in the end. Only known rules can be chosen, and a configuration stays one of
known rules when some of them are chosen.
-/

namespace ClassLint.Settings

variable {files : Files} {given : Given} {settings : Settings}

/-- What the conversion of every option keeps is kept by all of them. -/
theorem invariant_of_ofGiven (invariant : Settings → Prop) (hempty : invariant {})
    (hstep : ∀ before name after, invariant before → apply files given before name = .ok after →
      invariant after)
    (h : ofGiven files given = .ok settings) : invariant settings := by
  have hrun (names : List Text) (start : Settings) (hstart : invariant start)
      (hnames : names.foldlM (apply files given) start = .ok settings) : invariant settings := by
    induction names generalizing start with
    | nil =>
      cases hnames
      exact hstart
    | cons name names ih =>
      rw [List.foldlM_cons, bind_eq_ok_iff] at hnames
      obtain ⟨next, hnext, hnames⟩ := hnames
      exact ih next (hstep start name next hstart hnext) hnames
  exact hrun given.optionNames {} hempty h

/-- Values are all accepted exactly if each of them is. -/
theorem forM_eq_ok_iff {check : Text → Except UsageError Unit} {values : List Text} :
    values.forM check = .ok () ↔ ∀ value ∈ values, check value = .ok () := by
  induction values with
  | nil => exact ⟨fun _ value hvalue => absurd hvalue List.not_mem_nil, fun _ => rfl⟩
  | cons value values ih =>
    rw [List.forall_mem_cons, ← ih]
    change (check value >>= fun _ => values.forM check) = .ok () ↔ _
    rw [bind_eq_ok_iff]
    exact ⟨fun ⟨_, hvalue, hvalues⟩ => ⟨hvalue, hvalues⟩,
      fun ⟨hvalue, hvalues⟩ => ⟨(), hvalue, hvalues⟩⟩

/-- A value passes a choice exactly if it is one of the choices. -/
theorem checkChoice_eq_ok_iff {parameter value : Text} {choices : List Text} :
    checkChoice parameter choices value = .ok () ↔ value ∈ choices := by
  rw [checkChoice]
  split
  · simp_all
  · simp_all

/-- The conversion of an option leaves the chosen rules, or checks the ones that it chooses. -/
theorem rules_of_apply {before after : Settings} {name : Text}
    (h : apply files given before name = .ok after) :
    after.rules = before.rules ∨ ∀ rule ∈ after.rules, rule ∈ LintRule.names := by
  unfold apply at h
  dsimp only at h
  split at h
  · obtain ⟨-, -, rfl⟩ := map_eq_ok_iff.1 h
    exact .inl rfl
  split at h
  · obtain ⟨-, -, rfl⟩ := map_eq_ok_iff.1 h
    exact .inl rfl
  split at h
  · cases h
    exact .inl rfl
  split at h
  · obtain ⟨_, hvalues, rfl⟩ := map_eq_ok_iff.1 h
    exact .inr fun rule hrule => checkChoice_eq_ok_iff.1 (forM_eq_ok_iff.1 hvalues rule hrule)
  split at h
  · obtain ⟨-, -, rfl⟩ := map_eq_ok_iff.1 h
    exact .inl rfl
  · cases h
    exact .inl rfl

/-- The rules that a command line chooses are known. -/
theorem rules_of_ofGiven (h : ofGiven files given = .ok settings) :
    ∀ name ∈ settings.rules, name ∈ LintRule.names := by
  refine invariant_of_ofGiven (fun settings => ∀ name ∈ settings.rules, name ∈ LintRule.names)
    (fun name hname => absurd hname List.not_mem_nil) (fun before name after hbefore happly => ?_) h
  obtain hsame | hchosen := rules_of_apply happly
  · rw [hsame]
    exact hbefore
  · exact hchosen

/-- A configuration of known rules has known rules when some of them are chosen. -/
theorem known_selectRules {config : Config} (hconfig : RuleLevels.Known config.rules)
    (hrules : ∀ name ∈ settings.rules, name ∈ LintRule.names) :
    RuleLevels.Known (settings.selectRules config).rules := by
  rw [selectRules]
  split
  · exact hconfig
  · refine RuleLevels.known_ofList fun entry hentry => ?_
    obtain ⟨name, hname, rfl⟩ := List.mem_map.1 hentry
    exact hrules name hname

/-- Choosing rules leaves the options. -/
@[simp] theorem options_selectRules (config : Config) :
    (settings.selectRules config).options = config.options := by
  rw [selectRules]
  split
  · rfl
  · rfl

end ClassLint.Settings
