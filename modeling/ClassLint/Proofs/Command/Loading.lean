import ClassLint.Proofs.Command.Override

/-!
# Configuration files with and without a command line

The library reads a configuration file as it stands. The commands first put an object in the place of
its options, also where nothing is given for them. Where the command line overrides no option, both
accept the same files and read the same configuration of each: what stands for nothing has no
members to be read, and options that are no object are refused by both.
-/

namespace ClassLint

/-- The options of a configuration that is accepted are an object, or nothing is given for them. -/
theorem Config.optionsReadable_of_ofMembers {members : Members} {config : Config}
    (h : ofMembers members = .ok config) : OptionsReadable members := by
  obtain ⟨-, -, hoptions⟩ := ofMembers_eq_ok_iff.1 h
  intro value hvalue
  rw [optionsOfMembers, hvalue, Option.getD_some] at hoptions
  unfold Options.ofJson at hoptions
  split at hoptions
  · rename_i hvoid
    exact .inl hvoid
  · split at hoptions
    · rename_i options _
      exact .inr ⟨options, rfl⟩
    · cases hoptions

namespace Settings

variable {settings : Settings} {members : Members}

/-- Settings with no format, no depth and no whitelist override no option. -/
theorem valueOf_eq_none (hformats : ∀ role, settings.formats role = none)
    (hdepth : settings.maxDepth = none) (hwhitelist : settings.whitelist = []) (key : Text) :
    settings.valueOf key = none := by
  have hroles : (Role.ofName? key).bind (fun role => (settings.formats role).map formatValue) =
      none := by
    simp only [hformats, Option.map_none, Option.bind_fun_none]
  rw [valueOf, hdepth, hwhitelist, hroles]
  split
  · rfl
  · split <;> rfl

/-- Settings that override no option leave a configuration as it is, also where an object without
members comes to stand for options that are not given. -/
theorem ofMembers_put_override (hnone : ∀ key, settings.valueOf key = none)
    (hreadable : Config.OptionsReadable members) :
    Config.ofMembers (members.put "options"
        (.object (settings.override (Config.optionMembers members)))) =
      Config.ofMembers members := by
  apply Config.ofMembers_congr
  · intro key hkey
    rw [Members.get?_put, if_neg hkey]
  · rw [Config.optionsOfMembers_eq hreadable, Config.optionsOfMembers, Members.get?_put, if_pos rfl,
      Option.getD_some, Options.ofJson_object]
    apply Options.ofMembers_congr
    intro key
    rw [get?_override, hnone, Option.none_or]

/-- Where a command line overrides no option, its commands obtain a configuration from a file exactly
if the library loads one, and it is the same: the same formats, depth, whitelist and counting, and
the same rules with their severities and in their order. -/
theorem config_eq_ok_iff_load {files : Files} {given : Text}
    (hpath : settings.configPath = some given) (hformats : ∀ role, settings.formats role = none)
    (hdepth : settings.maxDepth = none) (hwhitelist : settings.whitelist = []) (config : Config) :
    settings.config files = .ok config ↔
      Config.load files (Path.normalize given) = .ok config := by
  have hnone := valueOf_eq_none hformats hdepth hwhitelist
  have hmembers : settings.fileMembers files = Config.readFile files (Path.normalize given) := by
    rw [fileMembers, hpath]
  rw [Config.load, bind_eq_ok_iff, ← hmembers]
  constructor
  · intro h
    obtain ⟨members, hfile, -⟩ := bind_eq_ok_iff.1 h
    obtain ⟨hreadable, -⟩ := reading_of_config hfile h
    rw [config_of_optionsReadable hfile hreadable, ofMembers_put_override hnone hreadable] at h
    exact ⟨members, hfile, h⟩
  · intro h
    obtain ⟨members, hfile, h⟩ := h
    have hreadable := Config.optionsReadable_of_ofMembers h
    rw [config_of_optionsReadable hfile hreadable, ofMembers_put_override hnone hreadable, h]

/-- A file with an empty text for its options, named by a path that is not tidy beside settings that
override nothing. -/
theorem config_eq_ok_iff_load_void_options :
    let files : Files := fun path =>
      if path = "c.json" then .file (Utf8.encode
        "\x7b\"options\":\"\",\"rules\":\x7b\"class-format\":\"warn\"\x7d\x7d")
      else .missing
    let settings : Settings := { configPath := some "./c.json", rules := ["class-format"] }
    ∃ config, Config.load files "c.json" = .ok config ∧ settings.config files = .ok config ∧
      config.rules = [(LintRule.classFormat.name, .warning),
        (LintRule.noDescendantCombinator.name, .error)] := by
  intro files settings
  have hfile : Config.readFile files "c.json" =
      .ok [("options", .text ""), ("rules", .object [("class-format", .text "warn")])] := by
    refine Config.readFile_of_encode (if_pos rfl) ?_
    simp only [String.reduceToList]
    cbv
  have hload : Config.load files "c.json" =
      .ok ⟨{}, [(LintRule.classFormat.name, .warning),
        (LintRule.noDescendantCombinator.name, .error)]⟩ := by
    rw [Config.load, hfile]
    with_unfolding_all rfl
  have hsame (config : Config) : settings.config files = .ok config ↔
      Config.load files (Path.normalize "./c.json") = .ok config :=
    config_eq_ok_iff_load rfl (fun _ => rfl) rfl rfl config
  exact ⟨_, hload, (hsame _).2 hload, rfl⟩

end Settings

end ClassLint
