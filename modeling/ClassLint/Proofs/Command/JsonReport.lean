import ClassLint.Proofs.Command.Shares
import ClassLint.Proofs.Json.Ascii
import ClassLint.Proofs.Lint.ReportLine
import ClassLint.Proofs.Lint.Sizes

/-!
# The JSON report

The report of results in JSON is read back as these results by the reader of configuration files,
whatever file names and selectors it holds. All it takes is that its numbers are not too long for a
reader, which the sizes of the files ensure.
-/

namespace ClassLint

/-! ## Sizes of numbers -/

/-- A number below a power of ten has no more digits than the exponent. -/
theorem Text.length_ofNat_le {n : Nat} (h : n < 10 ^ Text.digitLimit) :
    (Text.ofNat n).length ≤ Text.digitLimit :=
  (Nat.length_toDigits_le_iff (by decide) (by decide)).2 h

/-- The squares of numbers with few digits have not too many. -/
theorem mul_lt_pow_digitLimit {n digits : Nat} (h : n < 10 ^ digits)
    (hdigits : digits + digits + 1 ≤ Text.digitLimit) :
    n * (2 * (n + 1)) < 10 ^ Text.digitLimit := by
  have hpositive : 0 < 10 ^ digits * 10 ^ digits :=
    Nat.mul_pos (Nat.pow_pos (by decide)) (Nat.pow_pos (by decide))
  calc
    n * (2 * (n + 1)) ≤ 10 ^ digits * (2 * 10 ^ digits) :=
      Nat.mul_le_mul h.le (Nat.mul_le_mul_left 2 h)
    _ < 10 ^ digits * 10 ^ digits * 10 := by
      rw [Nat.mul_left_comm]
      omega
    _ = 10 ^ (digits + digits + 1) := by rw [Nat.pow_succ, Nat.pow_add]
    _ ≤ 10 ^ Text.digitLimit := Nat.pow_le_pow_right (by decide) hdigits

/-! ## Sizes of files -/

/-- A text has no more characters than bytes. -/
theorem Utf8.length_le_encode (text : Text) : text.length ≤ (encode text).length := by
  induction text with
  | nil => exact Nat.le_refl 0
  | cons c text ih =>
    have hbytes : 0 < (String.utf8EncodeChar c).length := by
      rw [String.length_utf8EncodeChar]
      exact c.utf8Size_pos
    rw [encode, List.flatMap_cons, List.length_append, List.length_cons]
    rw [encode] at ih
    omega

/-- A text does not grow when its line ends are read. -/
theorem Utf8.length_normalizeNewlines_le (text : Text) :
    (normalizeNewlines text).length ≤ text.length := by
  fun_induction normalizeNewlines text with
  | case1 => exact Nat.le_refl 0
  | case2 rest ih => exact Nat.succ_le_succ (Nat.le_succ_of_le ih)
  | case3 rest _ ih => exact Nat.succ_le_succ ih
  | case4 c rest _ _ ih => exact Nat.succ_le_succ ih

/-- A text that is read is no longer than its file. -/
theorem Files.length_le_of_readText {files : Files} {path source : Text}
    (h : files.readText path = .ok source) :
    ∃ bytes, files path = .file bytes ∧ source.length ≤ bytes.length := by
  obtain ⟨bytes, hbytes, h⟩ := bind_eq_ok_iff.1 h
  have hfile : files path = .file bytes := by
    rw [readBytes] at hbytes
    split at hbytes
    all_goals cases hbytes
    assumption
  refine ⟨bytes, hfile, ?_⟩
  cases hdecode : Utf8.decode bytes with
  | error fault =>
    rw [hdecode] at h
    cases h
  | ok text =>
    rw [hdecode] at h
    cases h
    rw [Utf8.decode_eq_ok_iff.1 hdecode]
    exact (Utf8.length_normalizeNewlines_le text).trans (Utf8.length_le_encode text)

/-! ## Results as JSON -/

namespace Diagnostic

/-- The values of a reported diagnostic have distinct names. -/
theorem Reported.nodup_names {diagnostic : Diagnostic} (h : diagnostic.Reported) :
    (diagnostic.data.map Prod.fst).Nodup := by
  obtain ⟨-, selector, depth, hdata⟩ := h.exists_rule_values
  rw [hdata]
  cases diagnostic.kind with
  | maxDepthExceeded =>
    change ["selector".toList, "maxDepth".toList].Nodup
    decide
  | _ => exact List.nodup_singleton _

/-- A reported diagnostic is plain if its location has not too many digits. -/
theorem Reported.plain_toJson {diagnostic : Diagnostic} (h : diagnostic.Reported)
    (hline : diagnostic.location.line.natAbs < 10 ^ Text.digitLimit)
    (hcolumn : diagnostic.location.column.natAbs < 10 ^ Text.digitLimit) :
    diagnostic.toJson.Plain := by
  have hdata : Json.Plain (.object (diagnostic.data.map fun entry => (entry.1, .text entry.2))) := by
    refine .object ?_ (List.forall_mem_map.2 fun entry _ => .text entry.2)
    rw [Members.keys, List.map_map]
    exact h.nodup_names
  have hkeys : ["rule".toList, "kind".toList, "severity".toList, "line".toList, "column".toList,
      "message".toList, "data".toList].Nodup := by
    decide
  refine .object hkeys ?_
  simp only [List.forall_mem_cons]
  exact ⟨.text _, .text _, .text _, .integer (Text.length_ofNat_le hline),
    .integer (Text.length_ofNat_le hcolumn), .text _, hdata, List.forall_mem_nil _⟩

end Diagnostic

/-- A result is plain if its counts have not too many digits and its diagnostics are plain. -/
theorem LintResult.plain_toJson {result : LintResult}
    (hselectors : result.selectorCount < 10 ^ Text.digitLimit)
    (hdiagnostics : result.diagnostics.length < 10 ^ Text.digitLimit)
    (hplain : ∀ diagnostic ∈ result.diagnostics, diagnostic.toJson.Plain) :
    result.toJson.Plain := by
  have hkeys : ["filename".toList, "selectors".toList, "errors".toList, "warnings".toList,
      "diagnostics".toList].Nodup := by
    decide
  have herrors : result.errors.length < 10 ^ Text.digitLimit :=
    (List.length_filter_le _ _).trans_lt hdiagnostics
  have hwarnings : result.warnings.length < 10 ^ Text.digitLimit :=
    (List.length_filter_le _ _).trans_lt hdiagnostics
  refine .object hkeys ?_
  simp only [List.forall_mem_cons]
  exact ⟨.text _, .integer (Text.length_ofNat_le hselectors),
    .integer (Text.length_ofNat_le herrors), .integer (Text.length_ofNat_le hwarnings),
    .list (List.forall_mem_map.2 hplain), List.forall_mem_nil _⟩

/-- The results of a source that is not too long are plain. -/
theorem Config.plain_toJson_of_lintSource {config : Config} {source filename : Text}
    {result : LintResult} {digits : Nat} (hknown : RuleLevels.Known config.rules)
    (hdistinct : RuleLevels.Distinct config.rules) (hsize : source.length < 10 ^ digits)
    (hdigits : digits + digits + 1 ≤ Text.digitLimit)
    (h : config.lintSource source filename = .ok result) : result.toJson.Plain := by
  obtain ⟨hselectors, hdiagnostics, hlocations⟩ := sizes_of_lintSource hknown hdistinct h
  have hsmall : source.length + 1 < 10 ^ Text.digitLimit := by
    calc
      source.length + 1 ≤ 10 ^ digits := hsize
      _ < 10 ^ Text.digitLimit := Nat.pow_lt_pow_right (by decide) (by omega)
  refine LintResult.plain_toJson (by omega)
    (hdiagnostics.trans_lt (mul_lt_pow_digitLimit hsize hdigits)) fun diagnostic hdiagnostic => ?_
  have hreported : diagnostic.Reported := ⟨config, source, filename, result, h, hdiagnostic⟩
  obtain ⟨hline, hcolumn⟩ := hlocations diagnostic hdiagnostic
  exact hreported.plain_toJson (hline.trans_lt hsmall) (hcolumn.trans_lt hsmall)

/-! ## Runs -/

namespace Settings

variable {settings : Settings} {files : Files} {base : Config}

/-- A configuration that is obtained has distinct rules. -/
theorem distinct_of_config (h : settings.config files = .ok base) :
    RuleLevels.Distinct base.rules := by
  obtain ⟨members, -, h⟩ := bind_eq_ok_iff.1 h
  obtain ⟨merged, -, h⟩ := bind_eq_ok_iff.1 h
  have hobject : Config.ofJson (.object merged) = .ok base := h
  obtain ⟨_, -, -, hrules, -⟩ := Config.reading_of_ofJson hobject
  exact Config.distinct_of_rulesOfMembers hrules

/-- Distinct rules stay so when some of them are chosen. -/
theorem distinct_selectRules (h : RuleLevels.Distinct base.rules) :
    RuleLevels.Distinct (settings.selectRules base).rules := by
  rw [selectRules]
  split
  · exact h
  · exact RuleLevels.distinct_ofList _

end Settings

namespace LintCommand

variable {files : Files} {config : Config} {argument : Text}

/-- A plain report in JSON is read back as its results. -/
theorem read_report_json {results : List LintResult}
    (h : ∀ result ∈ results, result.toJson.Plain) :
    Json.read (report .json results) = .ok (.list (results.map LintResult.toJson)) := by
  have hplain : Json.Plain (.list (results.map LintResult.toJson)) :=
    .list (List.forall_mem_map.2 h)
  have hshown : '\x1b' ∉ Json.print 0 (.list (results.map LintResult.toJson)) ++ ['\n'] := by
    intro hmem
    obtain hprint | hbreak := List.mem_append.1 hmem
    · exact absurd (hplain.shown_print 0 _ hprint) (by decide)
    · exact absurd hbreak (by decide)
  have hprinted : report .json results =
      Json.print 0 (.list (results.map LintResult.toJson)) ++ ['\n'] := by
    rw [report, Outcome.printed, Text.lines, List.flatMap_cons, List.flatMap_nil, List.append_nil]
    exact Text.withoutSequences_of_not_mem hshown
  rw [hprinted]
  exact hplain.read_print

/-- A value that is there is that of a success. -/
theorem eq_ok_of_toOption {ε α : Type} {outcome : Except ε α} {value : α}
    (h : outcome.toOption = some value) : outcome = .ok value := by
  cases outcome with
  | error error => cases h
  | ok other =>
    cases h
    rfl

/-- The result of an argument is that of the text of its file. -/
theorem exists_source_of_lintArgument {result : LintResult}
    (h : lintArgument config files argument = .ok result) :
    ∃ source, files.readText (Path.normalize argument) = .ok source ∧
      config.lintSource source (Path.normalize argument) = .ok result := by
  rw [lintArgument, Config.lintFile] at h
  split at h
  · cases h
  · rename_i source hread
    split at h
    · rename_i hlint
      cases h
      exact ⟨source, hread, hlint⟩
    · cases h

/-- An argument has a result exactly if its file can be read and parsed. -/
theorem exists_lintArgument_iff (hknown : RuleLevels.Known config.rules) :
    (∃ result, lintArgument config files argument = .ok result) ↔
      ∃ source sheet, files.readText (Path.normalize argument) = .ok source ∧
        Stylesheet.parse source = .ok sheet := by
  constructor
  · intro h
    obtain ⟨result, hresult⟩ := h
    obtain ⟨source, hread, hlint⟩ := exists_source_of_lintArgument hresult
    cases hparse : Stylesheet.parse source with
    | error error =>
      rw [Config.lintSource, hparse] at hlint
      cases hlint
    | ok sheet => exact ⟨source, sheet, hread, hparse⟩
  · intro h
    obtain ⟨source, sheet, hread, hparse⟩ := h
    obtain ⟨rules, hrules⟩ := LintRule.exists_levels hknown
    exact ⟨_, lintArgument_of_ok hread (Config.lintSource_eq_flatMap _ hparse hrules)⟩

/-- The report in JSON is faithful. What a run over files prints is read back, by the reader of
configuration files, as the results of those files that can be read and parsed, in the order of the
arguments: with their names, counts, locations, messages and values, whatever characters these hold.
Since the reader takes no number of more than 4300 digits, the sizes of the files are to have no more
than 2000. -/
theorem json_report_reads_back {commandLine : List Text} {options : List GivenOption}
    {arguments : List Text} {settings : Settings} {base : Config}
    (hline : CommandLine.read Settings.lintSpecs true commandLine = .ok ⟨options, arguments⟩)
    (hsettings : Settings.ofGiven files ⟨options, arguments⟩ = .ok settings)
    (hform : settings.form = .json) (hconfig : settings.config files = .ok base)
    (hsome : arguments ≠ [])
    (hfiles : ∀ argument ∈ arguments, ∃ bytes, files argument = .file bytes)
    (hsize : ∀ argument ∈ arguments, ∀ bytes, files (Path.normalize argument) = .file bytes →
      bytes.length < 10 ^ 2000) (verbose : Bool) :
    let config := settings.selectRules base
    ∃ code output errors, run verbose files commandLine = .exited code output errors ∧
      Json.read output = .ok (.list ((results config files arguments).map LintResult.toJson)) ∧
      ∀ argument ∈ arguments, (∃ result, lintArgument config files argument = .ok result) ↔
        ∃ source sheet, files.readText (Path.normalize argument) = .ok source ∧
          Stylesheet.parse source = .ok sheet := by
  intro config
  have hknown : RuleLevels.Known config.rules :=
    Settings.known_selectRules (known_of_config hconfig) (Settings.rules_of_ofGiven hsettings)
  have hdistinct : RuleLevels.Distinct config.rules :=
    Settings.distinct_selectRules (Settings.distinct_of_config hconfig)
  have hplain : ∀ result ∈ results config files arguments, result.toJson.Plain := by
    intro result hresult
    obtain ⟨argument, hargument, hresult⟩ := List.mem_filterMap.1 hresult
    obtain ⟨source, hread, hlint⟩ := exists_source_of_lintArgument (eq_ok_of_toOption hresult)
    obtain ⟨bytes, hbytes, hlength⟩ := Files.length_le_of_readText hread
    exact Config.plain_toJson_of_lintSource hknown hdistinct
      (hlength.trans_lt (hsize argument hargument bytes hbytes)) (by decide) hlint
  have hrun : run verbose files commandLine = runWith verbose files settings arguments :=
    run_eq_runWith hline hsettings (checkArguments_of_files hsome hfiles)
  rw [runWith, hconfig] at hrun
  dsimp only at hrun
  rw [hform] at hrun
  exact ⟨_, _, _, hrun, read_report_json hplain, fun argument _ => exists_lintArgument_iff hknown⟩

/-- A report on bytes that are no text and on a file whose name and selector hold quotes, backslashes,
control characters, a line separator and a character beyond the first plane. -/
theorem json_report_reads_back_escapes :
    let name : Text := "a\"\\\x07" ++ [Char.ofNat 0x1F600] ++ ".css"
    let selector : Text := ".a [b='\"\\\\\t\u2028" ++ [Char.ofNat 0x1F600] ++ "']"
    let tree : FileTree := [⟨["b.css"], some [0xFF]⟩,
      ⟨[name], some (Utf8.encode (selector ++ "\x7b\x7d"))⟩]
    ∃ code output errors,
      run false tree.files ["--format", "json", "b.css", "--rule=class-format", name] =
        .exited code output errors ∧
      Json.read output = .ok (.list [.object [("filename", .text name), ("selectors", .integer 1),
        ("errors", .integer 1), ("warnings", .integer 0),
        ("diagnostics", .list [.object [("rule", .text "class-format"),
          ("kind", .text "unexpectedDescendantCombinator"), ("severity", .text "ERROR"),
          ("line", .integer 1), ("column", .integer 1),
          ("message", .text ("Unexpected descendant combinator in \"".toList ++ selector ++
            "\". Use direct child combinator (>) instead.")),
          ("data", .object [("selector", .text selector)])]])]]) := by
  intro name selector tree
  have hline : CommandLine.read Settings.lintSpecs true
      ["--format", "json", "b.css", "--rule=class-format", name] =
      .ok ⟨[⟨"--format", "json"⟩, ⟨"--rule", "class-format"⟩], ["b.css", name]⟩ := by
    with_unfolding_all rfl
  have hsettings : Settings.ofGiven tree.files
      ⟨[⟨"--format", "json"⟩, ⟨"--rule", "class-format"⟩], ["b.css", name]⟩ =
      .ok { rules := [LintRule.classFormat.name], form := .json } := by
    with_unfolding_all rfl
  have hconfig : Settings.config { rules := [LintRule.classFormat.name], form := .json } tree.files =
      .ok {} := by
    with_unfolding_all rfl
  have hfirst : tree.files "b.css" = .file [0xFF] := by
    with_unfolding_all rfl
  have hsecond : tree.files name = .file (Utf8.encode (selector ++ "\x7b\x7d")) := by
    with_unfolding_all rfl
  have hfiles : ∀ argument ∈ (["b.css", name] : List Text),
      ∃ bytes, tree.files argument = .file bytes := by
    simp only [List.forall_mem_cons]
    exact ⟨⟨_, hfirst⟩, ⟨_, hsecond⟩, nofun⟩
  have hsize : ∀ argument ∈ (["b.css", name] : List Text), ∀ bytes,
      tree.files (Path.normalize argument) = .file bytes → bytes.length < 10 ^ 2000 := by
    have hsmall {path : Text} {bytes : List UInt8} (h : tree.files path = .file bytes)
        (hlength : bytes.length ≤ 2000) : ∀ other, tree.files (Path.normalize path) = .file other →
          other.length < 10 ^ 2000 := by
      intro other hother
      have hpower (n : Nat) : n < 10 ^ n := Nat.lt_pow_self (by decide)
      rw [FileTree.files_normalize h] at hother
      cases hother
      exact Nat.lt_of_le_of_lt hlength (hpower 2000)
    have hlength : (Utf8.encode (selector ++ "\x7b\x7d")).length = 22 := by
      with_unfolding_all rfl
    simp only [List.forall_mem_cons]
    exact ⟨hsmall hfirst (by decide), hsmall hsecond (by omega), nofun⟩
  have hname : Path.normalize name = name := by
    with_unfolding_all rfl
  have hread : tree.files.readText (Path.normalize name) = .ok (selector ++ "\x7b\x7d") := by
    rw [hname, Files.readText_of_file hsecond, Utf8.decode_eq_ok_iff.2 rfl]
    rfl
  have hparse : Stylesheet.parse (selector ++ "\x7b\x7d") =
      .ok ⟨[⟨selector, .start, [⟨selector, .start⟩], []⟩]⟩ := by
    with_unfolding_all rfl
  let diagnostic : Diagnostic := ⟨LintRule.classFormat.name, .unexpectedDescendantCombinator, .start,
    [("selector", selector)], .error⟩
  have hdiagnose : Diagnostic.ofSelector {} [(.classFormat, .error)] ⟨selector, .start⟩ =
      [diagnostic] := by
    with_unfolding_all rfl
  have hlint : ({ rules := [(LintRule.classFormat.name, .error)] } : Config).lintSource
      (selector ++ "\x7b\x7d") name =
      .ok ⟨name, [⟨selector, .start⟩].flatMap (Diagnostic.ofSelector {} [(.classFormat, .error)]), 1⟩ :=
    Config.lintSource_eq_flatMap name hparse rfl
  rw [List.flatMap_singleton, hdiagnose] at hlint
  have hresults : results { rules := [(LintRule.classFormat.name, .error)] } tree.files
      ["b.css", name] = [⟨name, [diagnostic], 1⟩] := by
    have hfailed : lintArgument { rules := [(LintRule.classFormat.name, .error)] } tree.files "b.css" =
        .error (.read (.undecodable ⟨.invalidStart, 0xFF, 0, 1⟩)) := by
      with_unfolding_all rfl
    have hlinted := lintArgument_of_ok hread (hname.symm ▸ hlint)
    rw [results, List.filterMap_cons, List.filterMap_cons, hfailed, hlinted]
    rfl
  obtain ⟨code, output, errors, hrun, hreads, -⟩ := json_report_reads_back hline hsettings rfl hconfig
    (List.cons_ne_nil _ _) hfiles hsize false
  have hselected : Settings.selectRules
      { rules := [LintRule.classFormat.name], form := .json } {} =
      { rules := [(LintRule.classFormat.name, .error)] } := by
    with_unfolding_all rfl
  have hjson : LintResult.toJson ⟨name, [diagnostic], 1⟩ =
      .object [("filename", .text name), ("selectors", .integer 1),
        ("errors", .integer 1), ("warnings", .integer 0),
        ("diagnostics", .list [.object [("rule", .text "class-format"),
          ("kind", .text "unexpectedDescendantCombinator"), ("severity", .text "ERROR"),
          ("line", .integer 1), ("column", .integer 1),
          ("message", .text ("Unexpected descendant combinator in \"".toList ++ selector ++
            "\". Use direct child combinator (>) instead.")),
          ("data", .object [("selector", .text selector)])]])] := by
    with_unfolding_all rfl
  rw [hselected, hresults, List.map_singleton, hjson] at hreads
  exact ⟨code, output, errors, hrun, hreads⟩

end LintCommand

end ClassLint
