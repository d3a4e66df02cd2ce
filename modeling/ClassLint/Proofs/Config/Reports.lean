import ClassLint.Proofs.Config.Reading

/-!
# Which configurations are reported

A configuration is accepted, or refused with a report, unless its reading breaks off. What breaks it
off is the first mistake that it comes to, if that mistake is of one of three kinds: a severity that
is a list or an object, a pattern with numbers beyond the limits or with flags that contradict one
another, or a wrong value whose report would have to show an integer of too many digits.
-/

namespace ClassLint

/-- A failure is reported as an error of the configuration. -/
def ConfigFailure.IsReported : ConfigFailure → Prop
  | .rejected _ => True
  | _ => False

/-- A failure is reported exactly if it is an error of the configuration. -/
theorem ConfigFailure.isReported_iff {failure : ConfigFailure} :
    failure.IsReported ↔ ∃ error, failure = .rejected error := by
  cases failure <;> simp [IsReported]

/-- A reading breaks off with a failure that is not reported. -/
def BreaksOff {α : Type} (reading : Except ConfigFailure α) (failure : ConfigFailure) : Prop :=
  reading = .error failure ∧ ¬ failure.IsReported

/-! ## Breaking off, step by step -/

namespace BreaksOff

variable {α β : Type} {failure : ConfigFailure}

/-- A reading that gives a value does not break off. -/
theorem not_ok (value : α) : ¬ BreaksOff (.ok value) failure := by
  intro h
  cases h.1

/-- A reading that gives a report does not break off. -/
theorem not_rejected (error : ConfigError) :
    ¬ BreaksOff (.error (.rejected error) : Except ConfigFailure α) failure := by
  intro h
  obtain ⟨h, hreported⟩ := h
  cases h
  exact hreported trivial

/-- A reading gives a value or a report unless it breaks off. -/
theorem not_exists_iff {reading : Except ConfigFailure α} :
    (¬ ∃ failure, BreaksOff reading failure) ↔
      (∃ value, reading = .ok value) ∨ ∃ error, reading = .error (.rejected error) := by
  cases reading with
  | ok value => exact ⟨fun _ => .inl ⟨value, rfl⟩, fun _ ⟨_, h⟩ => not_ok value h⟩
  | error failure =>
    constructor
    · intro h
      cases failure with
      | rejected error => exact .inr ⟨error, rfl⟩
      | _ => exact absurd ⟨_, rfl, id⟩ h
    · intro h hbreaks
      obtain ⟨value, h⟩ | ⟨error, h⟩ := h
      · cases h
      · obtain ⟨other, hbreaks⟩ := hbreaks
        exact not_rejected error (h ▸ hbreaks)

/-- Two steps break off if the first does, or if it gives a value on which the second does. -/
theorem bind_iff {first : Except ConfigFailure α} {next : α → Except ConfigFailure β} :
    BreaksOff (first >>= next) failure ↔
      BreaksOff first failure ∨ ∃ value, first = .ok value ∧ BreaksOff (next value) failure := by
  cases first with
  | error other => simp [BreaksOff, bind, Except.bind]
  | ok value => simp [BreaksOff, bind, Except.bind]

/-- What is made of the value of a reading breaks off where the reading does. -/
theorem map_iff {reading : Except ConfigFailure α} {f : α → β} :
    BreaksOff (reading.map f) failure ↔ BreaksOff reading failure := by
  cases reading with
  | error other => simp [BreaksOff, Except.map]
  | ok value => simp [BreaksOff, Except.map]

/-- A row of readings breaks off at the first that gives no value, if that one does. -/
theorem mapM_iff {next : α → Except ConfigFailure β} {items : List α} :
    BreaksOff (items.mapM next) failure ↔ ∃ before item after, items = before ++ item :: after ∧
      (∀ other ∈ before, ∃ result, next other = .ok result) ∧ BreaksOff (next item) failure := by
  rw [BreaksOff, mapM_eq_error_iff]
  constructor
  · intro h
    obtain ⟨⟨before, item, after, hitems, hbefore, hitem⟩, hreported⟩ := h
    exact ⟨before, item, after, hitems, hbefore, hitem, hreported⟩
  · intro h
    obtain ⟨before, item, after, hitems, hbefore, hitem, hreported⟩ := h
    exact ⟨⟨before, item, after, hitems, hbefore, hitem⟩, hreported⟩

/-- A report that shows a value breaks off if the value cannot be shown. -/
theorem ofShown_iff {option : Text} {problem : Json → ConfigProblem} {value : Json} :
    BreaksOff (.error (.ofShown option problem value) : Except ConfigFailure α) failure ↔
      value.isShowable = false ∧ failure = .unshowableNumber := by
  rw [ConfigFailure.ofShown]
  split
  · rename_i hshown
    simp [hshown, ConfigFailure.ofOption, not_rejected]
  · rename_i hshown
    constructor
    · intro h
      exact ⟨by simpa using hshown, (Except.error.inj h.1).symm⟩
    · intro h
      exact ⟨by rw [h.2], by rw [h.2]; exact id⟩

end BreaksOff

/-! ## Levels -/

namespace Config

/-- The words for levels. -/
def levelWords : List Text := ["off", "error", "warn", "warning"]

/-- A member of the rules gives a known rule a level. -/
def SetsLevel (entry : Text × Json) : Prop :=
  entry.1 ∈ LintRule.names ∧ ∃ word ∈ levelWords, entry.2 = .text word

/-- A severity on which the reading of the rules breaks off. -/
inductive LevelBreaks : Json → ConfigFailure → Prop
  | list (items : List Json) : LevelBreaks (.list items) (.compositeSeverity (.list items))
  | object (members : Members) :
    LevelBreaks (.object members) (.compositeSeverity (.object members))
  | integer {value : Int} (hlong : Text.digitLimit < (Text.ofNat value.natAbs).length) :
    LevelBreaks (.integer value) .unshowableNumber

/-- A word stands for a level exactly if it is one of the words for levels. -/
theorem exists_levelOfWord?_iff {word : Text} :
    (∃ level, levelOfWord? word = some level) ↔ word ∈ levelWords := by
  simp only [levelWords, List.mem_cons, List.not_mem_nil, or_false]
  rw [levelOfWord?]
  split
  · rename_i hoff
    exact iff_of_true ⟨_, rfl⟩ (.inl hoff)
  split
  · rename_i herror
    exact iff_of_true ⟨_, rfl⟩ (.inr (.inl herror))
  split
  · rename_i hwarn
    exact iff_of_true ⟨_, rfl⟩ (.inr (.inr hwarn))
  · rename_i hoff herror hwarn
    exact iff_of_false (by simp) (not_or.2 ⟨hoff, not_or.2 ⟨herror, hwarn⟩⟩)

/-- A level can be read exactly if it is written as a word. -/
theorem exists_readLevel_iff (rule : Text) {value : Json} :
    (∃ level, readLevel rule value = .ok level) ↔ ∃ word ∈ levelWords, value = .text word := by
  cases value with
  | text word =>
    simp only [Json.text.injEq, exists_eq_right', ← exists_levelOfWord?_iff, readLevel]
    cases levelOfWord? word with
    | none => simp
    | some level => simp
  | null | bool _ | integer _ | floating _ | list _ | object _ => simp [readLevel]

/-- The reading of a level breaks off on composite severities and on long integers. -/
theorem breaksOff_readLevel_iff {rule : Text} {value : Json} {failure : ConfigFailure} :
    BreaksOff (readLevel rule value) failure ↔ LevelBreaks value failure := by
  cases value with
  | list _ | object _ =>
    constructor
    · intro h
      cases h.1
      constructor
    · intro h
      cases h
      exact ⟨rfl, id⟩
  | integer number =>
    simp only [readLevel, BreaksOff.ofShown_iff]
    constructor
    · intro h
      obtain ⟨hlong, rfl⟩ := h
      exact .integer (by simpa [Json.isShowable] using hlong)
    · intro h
      cases h with
      | integer hlong => exact ⟨by simpa [Json.isShowable] using hlong, rfl⟩
  | text word =>
    have hnone : ¬ LevelBreaks (.text word) failure := nofun
    rw [readLevel]
    cases levelOfWord? word with
    | none => simp [BreaksOff.ofShown_iff, Json.isShowable, hnone]
    | some level => simp [BreaksOff.not_ok, hnone]
  | null | bool _ | floating _ =>
    simp only [readLevel, BreaksOff.ofShown_iff, Json.isShowable]
    exact ⟨fun h => by simp at h, nofun⟩

/-- A member of the rules is read exactly if it gives a known rule a level. -/
theorem exists_levelOf_iff {entry : Text × Json} :
    (∃ level, levelOf entry = .ok level) ↔ SetsLevel entry := by
  rw [levelOf, SetsLevel, ← exists_readLevel_iff entry.1]
  split
  · rename_i hname
    simp only [exists_map_eq_ok_iff, List.contains_iff_mem.1 hname, true_and]
  · rename_i hname
    simp [show entry.1 ∉ LintRule.names by simpa using hname]

/-- The reading of a member of the rules breaks off at the level of a known rule. -/
theorem breaksOff_levelOf_iff {entry : Text × Json} {failure : ConfigFailure} :
    BreaksOff (levelOf entry) failure ↔
      entry.1 ∈ LintRule.names ∧ LevelBreaks entry.2 failure := by
  rw [levelOf]
  split
  · rename_i hname
    rw [BreaksOff.map_iff, breaksOff_readLevel_iff]
    exact ⟨fun h => ⟨by simpa using hname, h⟩, And.right⟩
  · rename_i hname
    exact ⟨fun h => absurd h (BreaksOff.not_rejected _), fun h => absurd h.1 (by simpa using hname)⟩

/-- The rules of a configuration are left out, or are an object that gives known rules levels. -/
def RulesRight (members : Members) : Prop :=
  ∀ value, members.get? "rules" = some value →
    ∃ levels, value = .object levels ∧ ∀ entry ∈ levels, SetsLevel entry

/-- Rules on which the reading of a configuration breaks off: behind members that give levels, a
known rule has a severity that breaks it off. -/
def RulesBreak (members : Members) (failure : ConfigFailure) : Prop :=
  ∃ before entry after, members.get? "rules" = some (.object (before ++ entry :: after)) ∧
    (∀ other ∈ before, SetsLevel other) ∧ entry.1 ∈ LintRule.names ∧ LevelBreaks entry.2 failure

/-- The rules of a configuration are read exactly if they are right. -/
theorem exists_rulesOfMembers_iff {members : Members} :
    (∃ rules, rulesOfMembers members = .ok rules) ↔ RulesRight members := by
  rw [RulesRight, rulesOfMembers]
  cases members.get? "rules" with
  | none => simp
  | some value =>
    cases value with
    | object levels =>
      simp only [readRules_eq, exists_map_eq_ok_iff, exists_mapM_eq_ok_iff, exists_levelOf_iff,
        Option.some.injEq, forall_eq', Json.object.injEq, exists_eq_left']
    | null | bool _ | integer _ | floating _ | text _ | list _ => simp

/-- The reading of the rules of a configuration breaks off at the first member that gives no level,
if the severity of that one breaks it off. -/
theorem breaksOff_rulesOfMembers_iff {members : Members} {failure : ConfigFailure} :
    BreaksOff (rulesOfMembers members) failure ↔ RulesBreak members failure := by
  rw [RulesBreak, rulesOfMembers]
  cases members.get? "rules" with
  | none => simp [BreaksOff.not_ok]
  | some value =>
    cases value with
    | object levels =>
      simp only [readRules_eq, BreaksOff.map_iff, BreaksOff.mapM_iff, exists_levelOf_iff,
        breaksOff_levelOf_iff, Option.some.injEq, Json.object.injEq]
    | null | bool _ | integer _ | floating _ | text _ | list _ =>
      simp [ConfigFailure.ofOption, BreaksOff.not_rejected]

end Config

/-! ## Formats -/

namespace Format

/-- A value describes a custom format by a pattern. -/
def HasPattern (value : Json) (source : Text) : Prop :=
  ∃ members : Members, value = .object members ∧
    members.get? "type" = some (.text "custom") ∧ members.get? "pattern" = some (.text source) ∧
    source ≠ [] ∧ ∀ entry ∈ members, entry.1 ∈ (["type", "pattern"] : List Text)

variable {value : Json} {source option : Text} {failure : ConfigFailure}

/-- A value that describes a custom format is read as its pattern is. -/
theorem ofJson_of_hasPattern (h : HasPattern value source) :
    ofJson value option = ofPattern source option := by
  obtain ⟨members, rfl, htype, hpattern, hsource, hkeys⟩ := h
  cases source with
  | nil => exact absurd rfl hsource
  | cons first rest =>
    rw [ofJson, ofMembers, htype, hpattern, Members.unknownKeys_eq_nil_iff.2 hkeys]
    exact if_neg fun hname => hname rfl

/-- Only the reading of a custom format breaks off. -/
theorem hasPattern_of_breaksOff (h : BreaksOff (ofJson value option) failure) :
    ∃ source, HasPattern value source := by
  unfold ofJson at h
  split at h
  · split at h
    · exact absurd h (BreaksOff.not_ok _)
    · split at h
      · exact absurd h (BreaksOff.not_rejected _)
      · exact absurd h (BreaksOff.not_rejected _)
  · rename_i members
    unfold ofMembers at h
    split at h
    · rename_i name htype
      split at h
      · exact absurd h (BreaksOff.not_rejected _)
      · rename_i hname
        split at h
        · rename_i first rest hpattern
          split at h
          · rename_i hkeys
            exact ⟨first :: rest, members, rfl, not_not.1 hname ▸ htype, hpattern,
              List.cons_ne_nil _ _, Members.unknownKeys_eq_nil_iff.1 hkeys⟩
          · exact absurd h (BreaksOff.not_rejected _)
        · exact absurd h (BreaksOff.not_rejected _)
    · exact absurd h (BreaksOff.not_rejected _)
  · exact absurd h (BreaksOff.not_rejected _)

/-- The reading of a pattern breaks off if the pattern is neither usable nor invalid. -/
theorem breaksOff_ofPattern_iff :
    BreaksOff (ofPattern source option) failure ↔ ∃ fault, Pattern.read source = .error fault ∧
      fault.kind.isInvalid = false ∧ failure = .unusablePattern fault.kind := by
  rw [ofPattern]
  cases Pattern.read source with
  | ok pattern => simp [BreaksOff.not_ok]
  | error fault =>
    simp only [Except.error.injEq, exists_eq_left']
    split
    · rename_i hinvalid
      simp [hinvalid, ConfigFailure.ofOption, BreaksOff.not_rejected]
    · rename_i hvalid
      constructor
      · intro h
        exact ⟨by simpa using hvalid, (Except.error.inj h.1).symm⟩
      · intro h
        exact ⟨by rw [h.2], by rw [h.2]; exact id⟩

end Format

/-! ## Options -/

namespace Options

/-- A role has no format, or one that can be read. -/
def FormatRight (members : Members) (role : Role) : Prop :=
  ∀ value, members.get? role.name = some value →
    ∃ format, Format.ofJson value role.name = .ok format

/-- There is no depth, or an integer from one on. -/
def DepthRight (members : Members) : Prop :=
  ∀ value, members.get? "maxDepth" = some value → ∃ depth, 1 ≤ depth ∧ value = .integer depth

/-- There is no whitelist, or a list of texts. -/
def WhitelistRight (members : Members) : Prop :=
  ∀ value, members.get? "componentWhitelist" = some value →
    ∃ names : List Text, value = .list (names.map Json.text)

/-- Options with known keys on which their reading breaks off. -/
inductive Breaks (members : Members) : ConfigFailure → Prop
  | pattern {before after : List Role} {role : Role} {value : Json} {source : Text}
      {fault : PatternFault} (hroles : Role.all = before ++ role :: after)
      (hbefore : ∀ other ∈ before, FormatRight members other)
      (hvalue : members.get? role.name = some value) (hpattern : Format.HasPattern value source)
      (hfault : Pattern.read source = .error fault) (hkind : fault.kind.isInvalid = false) :
      Breaks members (.unusablePattern fault.kind)
  | depth {value : Json} (hformats : ∀ role, FormatRight members role)
      (hvalue : members.get? "maxDepth" = some value)
      (hwrong : ∀ depth, 1 ≤ depth → value ≠ .integer depth)
      (hlong : value.isShowable = false) : Breaks members .unshowableNumber
  | counting {value : Json} (hformats : ∀ role, FormatRight members role)
      (hdepth : DepthRight members) (hwhitelist : WhitelistRight members)
      (hvalue : members.get? "whitelistCountsAsComponent" = some value)
      (hwrong : ∀ counts, value ≠ .bool counts)
      (hlong : value.isShowable = false) : Breaks members .unshowableNumber

variable {members : Members} {failure : ConfigFailure}

/-- The entry of a role is read exactly if the role has no format or one that can be read. -/
theorem exists_formatOf_iff {role : Role} :
    (∃ entry, formatOf members role = .ok entry) ↔ FormatRight members role := by
  rw [formatOf, FormatRight]
  cases members.get? role.name with
  | none => simp
  | some value => simp [exists_map_eq_ok_iff]

/-- The reading of a role's entry breaks off exactly if that of its format does. -/
theorem breaksOff_formatOf_iff {role : Role} :
    BreaksOff (formatOf members role) failure ↔ ∃ value, members.get? role.name = some value ∧
      BreaksOff (Format.ofJson value role.name) failure := by
  rw [formatOf]
  cases members.get? role.name with
  | none => simp [BreaksOff.not_ok]
  | some value => simp [BreaksOff.map_iff]

/-- The formats are read exactly if each role has none or one that can be read. -/
theorem exists_readFormats_iff :
    (∃ formats, readFormats members Role.all {} = .ok formats) ↔
      ∀ role, FormatRight members role := by
  have hall : ∀ role, role ∈ Role.all := by
    intro role
    cases role <;> decide
  simp only [readFormats_eq, exists_map_eq_ok_iff, exists_mapM_eq_ok_iff, exists_formatOf_iff, hall,
    forall_const]

/-- The depth is read exactly if there is none or it is an integer from one on. -/
theorem exists_readMaxDepth_iff :
    (∃ depth, readMaxDepth members = .ok depth) ↔ DepthRight members := by
  rw [readMaxDepth, DepthRight]
  cases members.get? "maxDepth" with
  | none => simp
  | some value =>
    cases value with
    | integer number =>
      simp only [Option.some.injEq, forall_eq', Json.integer.injEq, exists_eq_right']
      split
      · simp; omega
      · simp; omega
    | null | bool _ | floating _ | text _ | list _ | object _ => simp

/-- The reading of the depth breaks off exactly if the value is wrong and no message can show it. -/
theorem breaksOff_readMaxDepth_iff :
    BreaksOff (readMaxDepth members) failure ↔ ∃ value, members.get? "maxDepth" = some value ∧
      (∀ depth, 1 ≤ depth → value ≠ .integer depth) ∧ value.isShowable = false ∧
      failure = .unshowableNumber := by
  rw [readMaxDepth]
  cases members.get? "maxDepth" with
  | none => simp [BreaksOff.not_ok]
  | some value =>
    cases value with
    | integer number =>
      simp only [Option.some.injEq, exists_eq_left', ne_eq, Json.integer.injEq]
      split
      · rw [BreaksOff.ofShown_iff]
        exact ⟨fun h => ⟨fun depth hdepth hsame => by omega, h⟩, And.right⟩
      · exact ⟨fun h => absurd h (BreaksOff.not_ok _), fun h => absurd rfl (h.1 number (by omega))⟩
    | null | bool _ | floating _ | text _ | list _ | object _ => simp [BreaksOff.ofShown_iff]

/-- The items of a list are names exactly if they are the texts of these names. -/
theorem textItems?_eq_some_iff {items : List Json} {names : List Text} :
    textItems? items = some names ↔ items = names.map Json.text := by
  induction items generalizing names with
  | nil => cases names <;> simp [textItems?]
  | cons item items ih =>
    cases item with
    | text name =>
      cases names with
      | nil => simp [textItems?]
      | cons first names => simpa [textItems?, ih] using and_comm
    | null | bool _ | integer _ | floating _ | list _ | object _ =>
      cases names <;> simp [textItems?]

/-- The whitelist is read exactly if there is none or it is a list of texts. -/
theorem exists_readWhitelist_iff :
    (∃ names, readWhitelist members = .ok names) ↔ WhitelistRight members := by
  rw [readWhitelist, WhitelistRight]
  cases members.get? "componentWhitelist" with
  | none => simp
  | some value =>
    cases value with
    | list items =>
      simp only [Option.some.injEq, forall_eq', Json.list.injEq, ← textItems?_eq_some_iff]
      cases textItems? items with
      | none => simp
      | some names => simp
    | null | bool _ | integer _ | floating _ | text _ | object _ => simp

/-- The reading of the whitelist never breaks off: its message shows no value. -/
theorem not_breaksOff_readWhitelist : ¬ BreaksOff (readWhitelist members) failure := by
  rw [readWhitelist]
  split
  · exact BreaksOff.not_ok _
  · split
    · exact BreaksOff.not_ok _
    · exact BreaksOff.not_rejected _
  · exact BreaksOff.not_rejected _

/-- The reading of how names are counted breaks off exactly if the value is wrong and no message can
show it. -/
theorem breaksOff_readCounting_iff :
    BreaksOff (readCounting members) failure ↔
      ∃ value, members.get? "whitelistCountsAsComponent" = some value ∧
        (∀ counts, value ≠ .bool counts) ∧ value.isShowable = false ∧
        failure = .unshowableNumber := by
  rw [readCounting]
  cases members.get? "whitelistCountsAsComponent" with
  | none => simp [BreaksOff.not_ok]
  | some value =>
    cases value with
    | bool counts => simp [BreaksOff.not_ok]
    | null | integer _ | floating _ | text _ | list _ | object _ => simp [BreaksOff.ofShown_iff]

/-- The reading of options with known keys breaks off exactly on those that break it off. -/
theorem breaksOff_ofKnownMembers_iff :
    BreaksOff (ofKnownMembers members) failure ↔ Breaks members failure := by
  simp only [ofKnownMembers, BreaksOff.bind_iff, not_breaksOff_readWhitelist, false_or,
    breaksOff_readMaxDepth_iff, breaksOff_readCounting_iff, BreaksOff.not_ok, and_false,
    exists_false, or_false]
  constructor
  · intro h
    -- The formats are read first, then the depth, and behind the whitelist what names on it count.
    obtain h | ⟨formats, hformats, h | ⟨depth, hdepth, names, hnames, h⟩⟩ := h
    · rw [readFormats_eq, BreaksOff.map_iff, BreaksOff.mapM_iff] at h
      obtain ⟨before, role, after, hroles, hbefore, h⟩ := h
      obtain ⟨value, hvalue, h⟩ := breaksOff_formatOf_iff.1 h
      obtain ⟨source, hpattern⟩ := Format.hasPattern_of_breaksOff h
      rw [Format.ofJson_of_hasPattern hpattern, Format.breaksOff_ofPattern_iff] at h
      obtain ⟨fault, hfault, hkind, rfl⟩ := h
      exact .pattern hroles (fun other hother => exists_formatOf_iff.1 (hbefore other hother))
        hvalue hpattern hfault hkind
    · obtain ⟨value, hvalue, hwrong, hlong, rfl⟩ := h
      exact .depth (exists_readFormats_iff.1 ⟨formats, hformats⟩) hvalue hwrong hlong
    · obtain ⟨value, hvalue, hwrong, hlong, rfl⟩ := h
      exact .counting (exists_readFormats_iff.1 ⟨formats, hformats⟩)
        (exists_readMaxDepth_iff.1 ⟨depth, hdepth⟩) (exists_readWhitelist_iff.1 ⟨names, hnames⟩)
        hvalue hwrong hlong
  · intro h
    cases h with
    | pattern hroles hbefore hvalue hpattern hfault hkind =>
      refine .inl ?_
      rw [readFormats_eq, BreaksOff.map_iff, BreaksOff.mapM_iff]
      refine ⟨_, _, _, hroles, fun other hother => exists_formatOf_iff.2 (hbefore other hother),
        breaksOff_formatOf_iff.2 ⟨_, hvalue, ?_⟩⟩
      rw [Format.ofJson_of_hasPattern hpattern, Format.breaksOff_ofPattern_iff]
      exact ⟨_, hfault, hkind, rfl⟩
    | depth hformats hvalue hwrong hlong =>
      obtain ⟨formats, hformats⟩ := exists_readFormats_iff.2 hformats
      exact .inr ⟨formats, hformats, .inl ⟨_, hvalue, hwrong, hlong, rfl⟩⟩
    | counting hformats hdepth hwhitelist hvalue hwrong hlong =>
      obtain ⟨formats, hformats⟩ := exists_readFormats_iff.2 hformats
      obtain ⟨depth, hdepth⟩ := exists_readMaxDepth_iff.2 hdepth
      obtain ⟨names, hnames⟩ := exists_readWhitelist_iff.2 hwhitelist
      exact .inr ⟨formats, hformats,
        .inr ⟨depth, hdepth, names, hnames, _, hvalue, hwrong, hlong, rfl⟩⟩

/-- The reading of a value as options breaks off on an object of known keys that breaks it off. -/
theorem breaksOff_ofJson_iff {value : Json} :
    BreaksOff (ofJson value) failure ↔ ∃ members, value = .object members ∧
      (∀ entry ∈ members, entry.1 ∈ keys) ∧ Breaks members failure := by
  unfold ofJson
  split
  · -- An object without members stands for nothing, and there is nothing in it to break off at.
    rename_i hvoid
    refine iff_of_false (BreaksOff.not_ok _) fun h => ?_
    obtain ⟨members, rfl, -, h⟩ := h
    cases List.isEmpty_iff.1 hvoid
    exact BreaksOff.not_ok _ (breaksOff_ofKnownMembers_iff.2 h)
  · split
    · rename_i members _
      rw [ofMembers]
      split
      · rename_i hkeys
        rw [breaksOff_ofKnownMembers_iff]
        constructor
        · intro h
          exact ⟨members, rfl, Members.unknownKeys_eq_nil_iff.1 hkeys, h⟩
        · intro h
          obtain ⟨_, hsame, -, h⟩ := h
          cases hsame
          exact h
      · rename_i hkeys
        refine iff_of_false (BreaksOff.not_rejected _) fun h => ?_
        obtain ⟨_, hsame, hknown, -⟩ := h
        cases hsame
        exact hkeys (Members.unknownKeys_eq_nil_iff.2 hknown)
    · rename_i hobject
      refine iff_of_false (BreaksOff.not_rejected _) fun h => ?_
      obtain ⟨members, hsame, -⟩ := h
      exact hobject members hsame

end Options

/-! ## Configurations -/

namespace Config

/-- Values on which the reading of a configuration breaks off: an object with known keys, in which
the rules do, or in which the rules are right and the options do. -/
inductive Breaks : Json → ConfigFailure → Prop
  | rules {members : Members} {failure : ConfigFailure} (hkeys : ∀ entry ∈ members, entry.1 ∈ keys)
      (hrules : RulesBreak members failure) : Breaks (.object members) failure
  | options {members options : Members} {failure : ConfigFailure}
      (hkeys : ∀ entry ∈ members, entry.1 ∈ keys) (hrules : RulesRight members)
      (hoptions : members.get? "options" = some (.object options))
      (hoptionKeys : ∀ entry ∈ options, entry.1 ∈ Options.keys)
      (hbreaks : Options.Breaks options failure) : Breaks (.object members) failure

/-- The reading of members with known keys breaks off at the rules, or behind them at the options.
-/
theorem breaksOff_ofMembers_iff {members : Members} {failure : ConfigFailure}
    (hkeys : ∀ entry ∈ members, entry.1 ∈ keys) :
    BreaksOff (ofMembers members) failure ↔ Breaks (.object members) failure := by
  have hunknown : members.unknownKeys ["rules", "options"] = [] :=
    Members.unknownKeys_eq_nil_iff.2 hkeys
  simp only [ofMembers, hunknown, BreaksOff.bind_iff, breaksOff_rulesOfMembers_iff,
    optionsOfMembers, Options.breaksOff_ofJson_iff, BreaksOff.not_ok, and_false, exists_false,
    or_false]
  constructor
  · intro h
    obtain h | ⟨rules, hrules, options, hoptions, hoptionKeys, h⟩ := h
    · exact .rules hkeys h
    · refine .options hkeys (exists_rulesOfMembers_iff.1 ⟨rules, hrules⟩) ?_ hoptionKeys h
      cases hgiven : members.get? "options" with
      | none =>
        rw [hgiven] at hoptions
        cases hoptions
      | some value =>
        rw [hgiven] at hoptions
        exact congrArg some hoptions
  · intro h
    cases h with
    | rules _ hrules => exact .inl hrules
    | options _ hrules hoptions hoptionKeys h =>
      obtain ⟨rules, hrules⟩ := exists_rulesOfMembers_iff.2 hrules
      exact .inr ⟨rules, hrules, _, by rw [hoptions]; rfl, hoptionKeys, h⟩

/-- The reading of a configuration breaks off exactly on the values that break it off. -/
theorem breaksOff_ofJson_iff {value : Json} {failure : ConfigFailure} :
    BreaksOff (ofJson value) failure ↔ Breaks value failure := by
  constructor
  · intro h
    unfold ofJson at h
    split at h
    · rename_i members
      by_cases hkeys : ∀ entry ∈ members, entry.1 ∈ keys
      · exact (breaksOff_ofMembers_iff hkeys).1 h
      · unfold ofMembers at h
        split at h
        · rename_i hunknown
          exact absurd (Members.unknownKeys_eq_nil_iff.1 hunknown) hkeys
        · exact absurd h (BreaksOff.not_rejected _)
    · exact absurd h (BreaksOff.not_rejected _)
  · intro h
    cases h with
    | rules hkeys hrules => exact (breaksOff_ofMembers_iff hkeys).2 (.rules hkeys hrules)
    | options hkeys hrules hoptions hoptionKeys h =>
      exact (breaksOff_ofMembers_iff hkeys).2 (.options hkeys hrules hoptions hoptionKeys h)

/-- Every value is accepted as a configuration or refused with a report, unless the reading breaks
off on it; and then it fails as it says, without a report. Values may be nested to any depth: the
limit on the recursion of a running program, and the failure at it, are left out. -/
theorem ofJson_reports_all_but_breaks (value : Json) :
    ((∃ config, ofJson value = .ok config) ∨ (∃ error, ofJson value = .error (.rejected error)) ↔
        ¬ ∃ failure, Breaks value failure) ∧
      ∀ failure, Breaks value failure ↔
        ofJson value = .error failure ∧ ∀ error, failure ≠ .rejected error := by
  constructor
  · rw [← BreaksOff.not_exists_iff]
    exact not_congr (exists_congr fun failure => breaksOff_ofJson_iff)
  · intro failure
    rw [← breaksOff_ofJson_iff, BreaksOff, ConfigFailure.isReported_iff]
    simp only [not_exists]

/-- A list as a severity is neither accepted nor reported, and neither is a pattern with a number of
repetitions beyond the limit. -/
theorem ofJson_list_severity_unreported :
    ofJson (.object [("rules", .object [("class-format", .list [])])]) =
        .error (.compositeSeverity (.list [])) ∧
      ofJson (.object [("options", .object [("component", .object [("type", .text "custom"),
        ("pattern", .text "a\x7b4294967295\x7d")])])]) = .error (.unusablePattern .hugeRepeat) := by
  constructor
  · with_unfolding_all rfl
  · with_unfolding_all rfl

end Config

end ClassLint
