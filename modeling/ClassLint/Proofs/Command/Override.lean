import ClassLint.Command.Settings
import ClassLint.Proofs.Config.Members
import ClassLint.Proofs.Text.Utf8

/-!
# Options of the command line over those of a file

The settings of a command line are put over the options of the configuration file before any of
these is checked. So a file's value for an overridden option is not looked at: neither what it is
nor whether it is there has a part in the outcome, be that a configuration or an error.
-/

namespace ClassLint

/-- The members of a file's object are read from its text. -/
theorem Config.readFile_of_encode {files : Files} {path text : Text} {members : Members}
    (hfile : files path = .file (Utf8.encode text))
    (hread : Json.read (Utf8.normalizeNewlines text) = .ok (.object members)) :
    Config.readFile files path = .ok members := by
  rw [Config.readFile, Files.readText_of_file hfile, Utf8.decode_eq_ok_iff.2 rfl]
  simp only [bind, Except.bind, hread]

/-- The options of a configuration are an object, or nothing is given for them. -/
def Config.OptionsReadable (members : Members) : Prop :=
  ∀ value, members.get? "options" = some value →
    value.isVoid = true ∨ ∃ options, value = .object options

/-- The members of the options of a configuration. -/
def Config.optionMembers (members : Members) : Members :=
  Options.membersOf ((members.get? "options").getD .null)

/-- The options of a configuration are read by their members. -/
theorem Config.optionsOfMembers_eq {members : Members} (h : OptionsReadable members) :
    optionsOfMembers members = Options.ofMembers (optionMembers members) := by
  have hvoid (value : Json) (hvalue : value.isVoid = true) :
      Options.ofJson value = Options.ofMembers (Options.membersOf value) := by
    rw [Options.membersOf_of_isVoid hvalue, ← Options.ofJson_object]
    exact if_pos hvalue
  rw [optionsOfMembers, optionMembers]
  cases hoptions : members.get? "options" with
  | none => exact hvoid .null rfl
  | some value =>
    obtain hvalue | ⟨options, rfl⟩ := h value hoptions
    · exact hvoid value hvalue
    · exact Options.ofJson_object options

namespace Settings

variable {settings : Settings} {files : Files} {members options first second : Members}
  {key : Text} {config : Config}

/-- The value that the settings give to an option. -/
def valueOf (settings : Settings) (key : Text) : Option Json :=
  if key = "maxDepth" then settings.maxDepth.map Json.integer
  else if key = "componentWhitelist" then
    if settings.whitelist.isEmpty then none else some (.list (settings.whitelist.map Json.text))
  else (Role.ofName? key).bind fun role => (settings.formats role).map formatValue

/-- The options that the settings give a value. -/
def overridden (settings : Settings) : List Text :=
  Options.keys.filter fun key => (settings.valueOf key).isSome

/-- An option named for a role has the value that writes the format given for this role. -/
theorem valueOf_role (settings : Settings) (role : Role) :
    settings.valueOf role.name = (settings.formats role).map formatValue := by
  cases role <;> rfl

/-- The limit on the depth has the value given for it. -/
theorem valueOf_maxDepth (settings : Settings) :
    settings.valueOf "maxDepth" = settings.maxDepth.map Json.integer := rfl

/-- The whitelist has the names given for it as its value, if any are given. -/
theorem valueOf_whitelist (settings : Settings) :
    settings.valueOf "componentWhitelist" =
      if settings.whitelist.isEmpty then none
      else some (.list (settings.whitelist.map Json.text)) := rfl

/-- The settings give no value to the option that tells how whitelisted names are counted. -/
theorem valueOf_counting (settings : Settings) :
    settings.valueOf "whitelistCountsAsComponent" = none := rfl

/-- Only options are given values. -/
theorem mem_keys_of_valueOf {value : Json} (h : settings.valueOf key = some value) :
    key ∈ Options.keys := by
  unfold valueOf at h
  split at h
  · rename_i hkey
    rw [hkey]
    decide
  split at h
  · rename_i hkey
    rw [hkey]
    decide
  · obtain ⟨role, hrole, -⟩ := Option.bind_eq_some_iff.1 h
    have hname := List.find?_some hrole
    rw [← beq_iff_eq.1 hname]
    cases role <;> decide

/-- The keys that are not overridden are those to which the settings give no value. -/
theorem not_mem_overridden_iff : key ∉ settings.overridden ↔ settings.valueOf key = none := by
  rw [overridden, List.mem_filter, not_and, Bool.not_eq_true, Option.isSome_eq_false_iff,
    Option.isNone_iff_eq_none]
  constructor
  · intro h
    cases hvalue : settings.valueOf key with
    | none => rfl
    | some value => rw [← h (mem_keys_of_valueOf hvalue), hvalue]
  · exact fun h _ => h

/-- The settings are put into options key by key. -/
theorem override_eq (settings : Settings) (options : Members) :
    settings.override options =
      ((Role.all.foldl (fun options role =>
          options.putAny role.name ((settings.formats role).map formatValue)) options).putAny
        "maxDepth" (settings.maxDepth.map Json.integer)).putAny "componentWhitelist"
        (if settings.whitelist.isEmpty then none
          else some (.list (settings.whitelist.map Json.text))) := by
  have hformats : putFormats settings.formats options = Role.all.foldl (fun options role =>
      options.putAny role.name ((settings.formats role).map formatValue)) options := by
    refine congrArg (List.foldl · options Role.all) (funext fun options => funext fun role => ?_)
    cases settings.formats role <;> rfl
  rw [override, hformats]
  cases settings.maxDepth <;> split <;> rfl

/-- Where the settings give an option a value, it has that value, and its own elsewhere. -/
theorem get?_override (settings : Settings) (options : Members) (key : Text) :
    (settings.override options).get? key = (settings.valueOf key).or (options.get? key) := by
  rw [override_eq]
  simp only [Role.all, List.foldl_cons, List.foldl_nil, Members.get?_putAny]
  by_cases hdepth : key = "maxDepth"
  · subst hdepth
    rfl
  by_cases hwhitelist : key = "componentWhitelist"
  · subst hwhitelist
    rfl
  by_cases hrole : ∃ role : Role, key = role.name
  · obtain ⟨role, rfl⟩ := hrole
    cases role <;> rfl
  · rw [not_exists] at hrole
    have hnone : Role.ofName? key = none :=
      List.find?_eq_none.2 fun role _ hname => hrole role (beq_iff_eq.1 hname).symm
    simp only [valueOf, hdepth, hwhitelist, hrole, hnone, if_false, Option.bind_none,
      Option.none_or]

/-- The settings are put into options that are an object or for which nothing is given. -/
theorem merge_of_optionsReadable (h : Config.OptionsReadable members) :
    settings.merge members = .ok (members.put "options"
      (.object (settings.override (Config.optionMembers members)))) := by
  rw [merge, Config.optionMembers]
  cases hoptions : members.get? "options" with
  | none => rfl
  | some value =>
    obtain hvoid | ⟨options, rfl⟩ := h value hoptions
    · simp only [hvoid, if_true, Option.getD_some, Options.membersOf_of_isVoid hvoid]
    · cases options with
      | nil => rfl
      | cons entry options => rfl

/-- Other options are refused. -/
theorem optionsReadable_of_merge {merged : Members} (h : settings.merge members = .ok merged) :
    Config.OptionsReadable members := by
  intro value hvalue
  rw [merge, hvalue] at h
  dsimp only at h
  split at h
  · rename_i hvoid
    exact .inl hvoid
  · split at h
    · exact .inr ⟨_, rfl⟩
    · cases h

/-- The configuration is read from the file's members with the settings put into their options. -/
theorem config_of_optionsReadable (hfile : settings.fileMembers files = .ok members)
    (h : Config.OptionsReadable members) :
    settings.config files = Config.ofMembers (members.put "options"
      (.object (settings.override (Config.optionMembers members)))) := by
  rw [config, hfile]
  exact congrArg (· >>= Config.ofMembers) (merge_of_optionsReadable h)

/-- Two configurations are the same but for options that the settings override. -/
structure SameApart (settings : Settings) (first second : Members) : Prop where
  others : ∀ key, key ≠ "options".toList → first.get? key = second.get? key
  options : ∀ key ∉ settings.overridden,
    (Config.optionMembers first).get? key = (Config.optionMembers second).get? key

/-- Configurations that are the same but for overridden options become the same. -/
theorem ofMembers_override_congr (h : settings.SameApart first second) :
    Config.ofMembers (first.put "options"
        (.object (settings.override (Config.optionMembers first)))) =
      Config.ofMembers (second.put "options"
        (.object (settings.override (Config.optionMembers second)))) := by
  refine Config.ofMembers_congr (fun key hkey => ?_) ?_
  · rw [Members.get?_put, Members.get?_put, if_neg hkey, if_neg hkey, h.others key hkey]
  · simp only [Config.optionsOfMembers, Members.get?_put, if_true, Option.getD_some,
      Options.ofJson_object]
    refine Options.ofMembers_congr fun key => ?_
    rw [get?_override, get?_override]
    cases hvalue : settings.valueOf key with
    | some value => rfl
    | none => rw [h.options key (not_mem_overridden_iff.2 hvalue)]

/-- What a configuration that is obtained was read from: its rules from the file's members, its
options from the members of the options with the settings put over them. -/
theorem reading_of_config (hfile : settings.fileMembers files = .ok members)
    (h : settings.config files = .ok config) :
    Config.OptionsReadable members ∧ members.unknownKeys ["rules", "options"] = [] ∧
      Config.rulesOfMembers members = .ok config.rules ∧
      Options.ofMembers (settings.override (Config.optionMembers members)) =
        .ok config.options := by
  have hreadable : Config.OptionsReadable members := by
    rw [Settings.config, hfile] at h
    change settings.merge members >>= Config.ofMembers = .ok config at h
    obtain ⟨merged, hmerged, -⟩ := bind_eq_ok_iff.1 h
    exact optionsReadable_of_merge hmerged
  rw [config_of_optionsReadable hfile hreadable, Config.ofMembers_eq_ok_iff] at h
  obtain ⟨hknown, hrules, hoptions⟩ := h
  have hothers : ∀ key, key ≠ "options".toList → (members.put "options"
      (.object (settings.override (Config.optionMembers members)))).get? key =
        members.get? key := by
    intro key hkey
    rw [Members.get?_put, if_neg hkey]
  obtain ⟨hunknown, hsame⟩ := Config.rules_congr hothers
  rw [Config.optionsOfMembers, Members.get?_put, if_pos rfl, Option.getD_some,
    Options.ofJson_object] at hoptions
  exact ⟨hreadable, hunknown ▸ hknown, hsame ▸ hrules, hoptions⟩

/-! ## What is not overridden -/

/-- The members of a configuration without the options that the settings override. -/
def unmasked (settings : Settings) (members : Members) : Members :=
  match members.get? "options" with
  | some (.object options) =>
    members.put "options" (.object (Members.without options settings.overridden))
  | _ => members

/-- Taking out the overridden options changes no other member of a configuration. -/
theorem get?_unmasked_of_ne (hkey : key ≠ "options".toList) :
    (settings.unmasked members).get? key = members.get? key := by
  unfold unmasked
  split
  · rw [Members.get?_put, if_neg hkey]
  · rfl

/-- A configuration without the overridden options has the options that its other members make. -/
theorem optionsOfMembers_unmasked (h : Config.OptionsReadable members) :
    Config.optionsOfMembers (settings.unmasked members) =
      Options.ofMembers ((Config.optionMembers members).without settings.overridden) := by
  unfold unmasked
  split
  · rename_i options hoptions
    rw [Config.optionsOfMembers, Members.get?_put, if_pos rfl, Option.getD_some,
      Options.ofJson_object, Config.optionMembers, hoptions]
    rfl
  · rename_i hnone
    rw [Config.optionsOfMembers_eq h, Config.optionMembers]
    cases hoptions : members.get? "options" with
    | none => rfl
    | some value =>
      obtain hvoid | ⟨options, rfl⟩ := h value hoptions
      · rw [Option.getD_some, Options.membersOf_of_isVoid hvoid]
        rfl
      · exact absurd hoptions (hnone options)

/-- With the overridden options taken out, the others have the values that they have with the settings
put over the options. -/
theorem get?_without_overridden (settings : Settings) (options : Members) (key : Text) :
    (options.without settings.overridden).get? key =
      if (settings.valueOf key).isSome then none else (settings.override options).get? key := by
  rw [Members.get?_without, get?_override]
  cases hvalue : settings.valueOf key with
  | none => rw [if_neg (not_mem_overridden_iff.2 hvalue)]; rfl
  | some value =>
    rw [if_pos]
    · rfl
    · by_contra hnot
      rw [not_mem_overridden_iff.1 hnot] at hvalue
      cases hvalue

/-- The options with the defaults in place of those that the settings override. -/
def withDefaults (settings : Settings) (options : Options) : Options :=
  let format (role : Role) : Format :=
    if (settings.formats role).isSome then ({} : Formats).get role else options.formats.get role
  { formats := ⟨format .component, format .element, format .variant, format .helper⟩
    maxDepth := if settings.maxDepth.isSome then ({} : Options).maxDepth else options.maxDepth
    whitelist := if settings.whitelist.isEmpty then options.whitelist else []
    whitelistCounts := options.whitelistCounts }

/-- A role has its default format in place of one that the settings override. -/
theorem get_formats_withDefaults (settings : Settings) (options : Options) (role : Role) :
    (settings.withDefaults options).formats.get role =
      if (settings.formats role).isSome then ({} : Formats).get role
      else options.formats.get role := by
  cases role <;> rfl

/-- If options are accepted with the settings put over them, they are accepted with the overridden
ones taken out, which then have their defaults. -/
theorem ofMembers_without {result : Options}
    (h : Options.ofMembers (settings.override options) = .ok result) :
    Options.ofMembers (options.without settings.overridden) =
      .ok (settings.withDefaults result) := by
  obtain ⟨hknown, hformats, hdepth, hwhitelist, hcounts⟩ := Options.ofMembers_eq_ok_iff.1 h
  refine Options.ofMembers_eq_ok_iff.2 ⟨?_, fun role => ?_, ?_, ?_, ?_⟩
  · rw [← hknown]
    refine Members.unknownKeys_congr fun key hkey => ?_
    have hvalue : settings.valueOf key = none :=
      not_mem_overridden_iff.1 fun hmem => hkey (List.mem_filter.1 hmem).1
    rw [get?_without_overridden, hvalue]
    rfl
  · rw [get_formats_withDefaults, Options.roleFormat, get?_without_overridden, valueOf_role]
    cases settings.formats role with
    | none => exact hformats role
    | some value => rfl
  · rw [Options.readMaxDepth, get?_without_overridden, valueOf_maxDepth, withDefaults]
    cases settings.maxDepth with
    | none => exact hdepth
    | some depth => rfl
  · rw [Options.readWhitelist, get?_without_overridden, valueOf_whitelist, withDefaults]
    cases settings.whitelist.isEmpty with
    | true => exact hwhitelist
    | false => rfl
  · rw [Options.readCounting, get?_without_overridden, valueOf_counting]
    exact hcounts

/-! ## What is overridden -/

/-- Overridden options are those of the settings. -/
theorem overridden_of_ofMembers {result : Options}
    (h : Options.ofMembers (settings.override options) = .ok result) :
    (∀ role value, settings.formats role = some value →
        Format.ofJson (formatValue value) role.name = .ok (result.formats.get role)) ∧
      (∀ depth, settings.maxDepth = some depth → (result.maxDepth : Int) = depth) ∧
      (settings.whitelist ≠ [] →
        ∀ name, name ∈ result.whitelist ↔ name ∈ settings.whitelist) := by
  obtain ⟨-, hformats, hdepth, hwhitelist, -⟩ := Options.ofMembers_eq_ok_iff.1 h
  refine ⟨fun role value hvalue => ?_, fun depth hgiven => ?_, fun hgiven name => ?_⟩
  · rw [← hformats role, Options.roleFormat, get?_override, valueOf_role, hvalue]
    rfl
  · rw [Options.readMaxDepth, get?_override, valueOf_maxDepth, hgiven] at hdepth
    dsimp only [Option.map_some, Option.some_or] at hdepth
    split at hdepth
    · cases hdepth
    · rename_i hpositive
      rw [← Except.ok.inj hdepth, Int.toNat_of_nonneg (by omega)]
  · have hnames : Options.textItems? (settings.whitelist.map Json.text) = some settings.whitelist :=
      Options.textItems?_eq_some_iff.2 rfl
    rw [Options.readWhitelist, get?_override, valueOf_whitelist,
      if_neg (by simpa using hgiven)] at hwhitelist
    dsimp only [Option.some_or] at hwhitelist
    rw [hnames] at hwhitelist
    rw [← Except.ok.inj hwhitelist, Text.mem_sortUnique]

/-- The settings of a command line override the options of the configuration file and hide what they
override. Two files whose objects are the same but for overridden options, in their values or in
being there at all, give the same configuration or the same failure. In a configuration that is
obtained, the format of an overridden role is the one that the given value describes, the depth and
the names of the whitelist are the given ones, and everything else is as the file's object describes
it without the overridden options. -/
theorem overriding_hides_options (settings : Settings) :
    (∀ firstFiles secondFiles first second,
      settings.fileMembers firstFiles = .ok first → settings.fileMembers secondFiles = .ok second →
      Config.OptionsReadable first → Config.OptionsReadable second →
      settings.SameApart first second →
      settings.config firstFiles = settings.config secondFiles) ∧
    ∀ files members config, settings.fileMembers files = .ok members →
      settings.config files = .ok config →
      (∀ role value, settings.formats role = some value →
        Format.ofJson (formatValue value) role.name = .ok (config.options.formats.get role)) ∧
      (∀ depth, settings.maxDepth = some depth → (config.options.maxDepth : Int) = depth) ∧
      (settings.whitelist ≠ [] →
        ∀ name, name ∈ config.options.whitelist ↔ name ∈ settings.whitelist) ∧
      ∃ base, Config.ofJson (.object (settings.unmasked members)) = .ok base ∧
        config.rules = base.rules ∧
        (∀ role, settings.formats role = none →
          config.options.formats.get role = base.options.formats.get role) ∧
        (settings.maxDepth = none → config.options.maxDepth = base.options.maxDepth) ∧
        (settings.whitelist = [] → config.options.whitelist = base.options.whitelist) ∧
        config.options.whitelistCounts = base.options.whitelistCounts := by
  constructor
  · intro firstFiles secondFiles first second hfirst hsecond hfirstReadable hsecondReadable hsame
    rw [config_of_optionsReadable hfirst hfirstReadable,
      config_of_optionsReadable hsecond hsecondReadable, ofMembers_override_congr hsame]
  · intro files members config hfile hconfig
    obtain ⟨hreadable, hknown, hrules, hoptions⟩ := reading_of_config hfile hconfig
    obtain ⟨hformats, hdepth, hwhitelist⟩ := overridden_of_ofMembers hoptions
    refine ⟨hformats, hdepth, hwhitelist,
      ⟨settings.withDefaults config.options, config.rules⟩, ?_, rfl, fun role hrole => ?_,
      fun hnone => ?_, fun hnone => ?_, rfl⟩
    · have hothers : ∀ key, key ≠ "options".toList →
          (settings.unmasked members).get? key = members.get? key :=
        fun key => get?_unmasked_of_ne
      obtain ⟨hunknown, hsame⟩ := Config.rules_congr hothers
      refine Config.ofMembers_eq_ok_iff.2 ⟨hunknown ▸ hknown, hsame ▸ hrules, ?_⟩
      rw [optionsOfMembers_unmasked hreadable, ofMembers_without hoptions]
    · rw [get_formats_withDefaults, hrole]
      rfl
    · rw [withDefaults, hnone]
      rfl
    · rw [withDefaults, hnone]
      rfl

/-- A depth that would be refused is hidden in the first file and missing in the second. -/
theorem overriding_hides_options_refused_depth :
    let firstFiles : Files := fun _ => .file (Utf8.encode
      "\x7b\"options\":\x7b\"maxDepth\":\"0\",\"element\":\"pascal\"\x7d\x7d")
    let secondFiles : Files := fun _ => .file (Utf8.encode
      "\x7b\"options\":\x7b\"element\":\"pascal\"\x7d\x7d")
    let settings : Settings :=
      { configPath := some "c.json", maxDepth := some 2, whitelist := ["app"] }
    settings.config firstFiles = settings.config secondFiles ∧
      ∃ config, settings.config secondFiles = .ok config ∧
        config.options.maxDepth = 2 ∧ config.options.formats.element = .builtin .pascal ∧
        ∀ name, name ∈ config.options.whitelist ↔ name = "app" := by
  intro firstFiles secondFiles settings
  have hfirst : settings.fileMembers firstFiles =
      .ok [("options", .object [("maxDepth", .text "0"), ("element", .text "pascal")])] := by
    change Config.readFile firstFiles (Path.normalize "c.json".toList) = _
    refine Config.readFile_of_encode rfl ?_
    simp only [String.reduceToList]
    cbv
  have hsecond : settings.fileMembers secondFiles =
      .ok [("options", .object [("element", .text "pascal")])] := by
    change Config.readFile secondFiles (Path.normalize "c.json".toList) = _
    refine Config.readFile_of_encode rfl ?_
    simp only [String.reduceToList]
    cbv
  have hdepth : settings.valueOf "maxDepth" ≠ none := Option.some_ne_none _
  have hreadable (options : Members) : Config.OptionsReadable [("options", .object options)] :=
    fun value hvalue => .inr ⟨options, (Option.some.inj hvalue).symm⟩
  obtain ⟨hsame, hoverridden⟩ := overriding_hides_options settings
  have hequal : settings.config firstFiles = settings.config secondFiles := by
    refine hsame firstFiles secondFiles _ _ hfirst hsecond (hreadable _) (hreadable _)
      ⟨fun key hkey => ?_, ?_⟩
    · exact (Members.get?_cons _ _ _).trans ((if_neg hkey).trans
        ((Members.get?_cons _ _ _).trans (if_neg hkey)).symm)
    · intro key hkey
      refine (Members.get?_cons _ _ _).trans (if_neg fun h : key = "maxDepth".toList => ?_)
      exact hdepth (h ▸ not_mem_overridden_iff.1 hkey)
  have hconfig : settings.config secondFiles = .ok
      { options :=
          { formats := { element := .builtin .pascal }, maxDepth := 2, whitelist := ["app"] } } := by
    refine (config_of_optionsReadable hsecond (hreadable _)).trans ?_
    with_unfolding_all rfl
  obtain ⟨-, hgiven, hwhitelist, -⟩ := hoverridden secondFiles _ _ hsecond hconfig
  refine ⟨hequal, _, hconfig, Int.ofNat_inj.1 (hgiven 2 rfl), rfl, fun name => ?_⟩
  exact (hwhitelist (List.cons_ne_nil _ _) name).trans List.mem_singleton

end Settings

end ClassLint
