import ClassLint.Command.Lint
import ClassLint.Proofs.Config.Reading
import ClassLint.Proofs.Files.Tree
import ClassLint.Proofs.Lint.Accepted
import ClassLint.Proofs.Text.ControlSequence
import ClassLint.Proofs.Text.Utf8

/-!
# Linting several files

Every file has a share in a run: what is listed of it, its diagnostics, what is told about it,
whether it was linted or failed. The share depends on the file and on its bytes alone, and a run
over several files is the run of the sum of their shares.
-/

namespace ClassLint

/-- Lines are printed alike together and one after the other. -/
theorem Outcome.printed_append (first second : List Text) :
    printed (first ++ second) = printed first ++ printed second := by
  rw [printed, Text.lines, List.flatMap_append]
  exact Text.withoutSequences_lines_append first _

/-- No lines print nothing. -/
theorem Outcome.printed_nil : printed [] = [] := by
  rw [printed, Text.lines, List.flatMap_nil, Text.withoutSequences]

namespace LintCommand

/-- What files add to a run: the text that lists their diagnostics, these diagnostics, what is told
about the files, how many of them were linted, and whether one of them failed. -/
structure Share where
  listing : Text
  diagnostics : List Diagnostic
  reports : Text
  linted : Nat
  failed : Bool

namespace Share

/-- The number of diagnostics of a severity. -/
def count (share : Share) (severity : Severity) : Nat :=
  share.diagnostics.countP fun diagnostic => diagnostic.severity == severity

/-- The line that sums up a share. -/
def summary (share : Share) : Text :=
  "Summary: " ++ Text.ofNat (share.count .error) ++ " error(s), " ++
    Text.ofNat (share.count .warning) ++ " warning(s) in " ++
    Text.ofNat share.linted ++ " file(s)"

/-- No file failed, and no diagnostic is an error. -/
def IsClean (share : Share) : Prop :=
  share.failed = false ∧ ∀ diagnostic ∈ share.diagnostics, diagnostic.severity ≠ .error

instance (share : Share) : Decidable share.IsClean :=
  inferInstanceAs (Decidable (_ ∧ _))

/-- The end of a run with a share, after what was told before. -/
def outcome (events : Text) (share : Share) : Outcome :=
  .exited (if share.IsClean then 0 else 1)
    (share.listing ++ Outcome.printed [share.summary]) (events ++ share.reports)

/-- A count, added up over shares. -/
def total (count : Share → Nat) (shares : List Share) : Nat :=
  shares.foldr (fun share sum => count share + sum) 0

/-- The count of a share is added to that of the shares after it. -/
theorem total_cons (count : Share → Nat) (share : Share) (shares : List Share) :
    total count (share :: shares) = count share + total count shares :=
  rfl

/-- The shares of files, put together. -/
def sum (shares : List Share) : Share where
  listing := shares.flatMap listing
  diagnostics := shares.flatMap diagnostics
  reports := shares.flatMap reports
  linted := total linted shares
  failed := shares.any failed

/-- Counts of shares that are put together are added. -/
theorem count_sum (shares : List Share) (severity : Severity) :
    (sum shares).count severity = total (·.count severity) shares := by
  induction shares with
  | nil => rfl
  | cons share shares ih =>
    rw [total_cons, ← ih]
    exact List.countP_append

/-- One share put together is this share. -/
theorem sum_singleton (share : Share) : sum [share] = share := by
  simp [sum, total]

/-- Shares that are put together are clean exactly if each of them is. -/
theorem isClean_sum_iff {shares : List Share} :
    (sum shares).IsClean ↔ ∀ share ∈ shares, share.IsClean := by
  constructor
  · intro h share hshare
    refine ⟨by simpa using List.any_eq_false.1 h.1 share hshare, fun diagnostic hdiagnostic => ?_⟩
    exact h.2 diagnostic (List.mem_flatMap.2 ⟨share, hshare, hdiagnostic⟩)
  · intro h
    refine ⟨List.any_eq_false.2 fun share hshare => by simp [(h share hshare).1], ?_⟩
    intro diagnostic hdiagnostic
    obtain ⟨share, hshare, hdiagnostic⟩ := List.mem_flatMap.1 hdiagnostic
    exact (h share hshare).2 diagnostic hdiagnostic

end Share

/-- The share of a file with some bytes. Bytes that are not those of a text, and texts that cannot
be parsed, are told in one line. -/
inductive FileShare (verbose : Bool) (config : Config) (argument : Text) (bytes : List UInt8) :
    Share → Prop
  | unreadable {fault : Utf8.Fault} (hbytes : ∀ text, bytes ≠ Utf8.encode text)
      (hfault : Utf8.decode bytes = .error fault) :
      FileShare verbose config argument bytes
        ⟨[], [], Outcome.printed [argument ++ ": cannot read: " ++ fault.message], 0, true⟩
  | unparsable {text : Text} {error : ParseError} (hbytes : bytes = Utf8.encode text)
      (hparse : Stylesheet.parse (Utf8.normalizeNewlines text) = .error error) :
      FileShare verbose config argument bytes
        ⟨[], [], Outcome.printed [argument ++ [':'] ++ error.location.text ++ ": Parse error: " ++
          error.message], 0, true⟩
  | linted {text : Text} {sheet : Stylesheet} {diagnostics : List Diagnostic} {selectors : Nat}
      (hbytes : bytes = Utf8.encode text)
      (hparse : Stylesheet.parse (Utf8.normalizeNewlines text) = .ok sheet)
      (hlint : config.lintSource (Utf8.normalizeNewlines text) (Path.normalize argument) =
        .ok ⟨Path.normalize argument, diagnostics, selectors⟩) :
      FileShare verbose config argument bytes
        ⟨Outcome.printed (diagnostics.map fun diagnostic =>
            Path.normalize argument ++ [':'] ++ diagnostic.text),
          diagnostics,
          Outcome.verboseLines verbose [.stylesheetParsed sheet.rules.length,
            .linted (Path.normalize argument) selectors diagnostics.length],
          1, false⟩

variable {verbose : Bool} {files : Files} {config : Config}

/-- The share of the file that an argument names. -/
def shareOf (verbose : Bool) (config : Config) (files : Files) (argument : Text) : Share where
  listing := Outcome.printed ((results config files [argument]).flatMap resultLines)
  diagnostics := (results config files [argument]).flatMap LintResult.diagnostics
  reports := fileErrors verbose config files argument
  linted := (results config files [argument]).length
  failed := (results config files [argument]).isEmpty

/-- The results of several files are those of each, one after the other. -/
theorem results_cons (argument : Text) (arguments : List Text) :
    results config files (argument :: arguments) =
      results config files [argument] ++ results config files arguments := by
  rw [results, results, results, ← List.filterMap_append]
  rfl

/-- The sum of the shares of files. -/
theorem sum_shareOf (arguments : List Text) :
    Share.sum (arguments.map (shareOf verbose config files)) =
      { listing := Outcome.printed ((results config files arguments).flatMap resultLines)
        diagnostics := (results config files arguments).flatMap LintResult.diagnostics
        reports := arguments.flatMap (fileErrors verbose config files)
        linted := (results config files arguments).length
        failed := arguments.any fun argument => (results config files [argument]).isEmpty } := by
  induction arguments with
  | nil => simp [Share.sum, Share.total, results, Outcome.printed_nil]
  | cons argument arguments ih =>
    rw [results_cons, List.flatMap_append, List.flatMap_append, Outcome.printed_append,
      List.length_append]
    rw [Share.sum, Share.mk.injEq] at ih ⊢
    obtain ⟨hlisting, hdiagnostics, hreports, hlinted, hfailed⟩ := ih
    rw [List.map_cons, List.flatMap_cons, List.flatMap_cons, List.flatMap_cons, Share.total_cons,
      List.any_cons, hlisting, hdiagnostics, hreports, hlinted, hfailed]
    exact ⟨rfl, rfl, rfl, rfl, rfl⟩

/-- The number of diagnostics of some sort in results, file by file and in all. -/
theorem total_filter (kind : Diagnostic → Bool) (results : List LintResult) :
    total (fun result => (result.diagnostics.filter kind).length) results =
      (results.flatMap LintResult.diagnostics).countP kind := by
  induction results with
  | nil => rfl
  | cons result results ih =>
    rw [List.flatMap_cons, List.countP_append, List.countP_eq_length_filter, ← ih]
    rfl

/-- A share is summed up as the results that it is made of. -/
theorem summary_of_results {share : Share} {results : List LintResult}
    (hdiagnostics : share.diagnostics = results.flatMap LintResult.diagnostics)
    (hlinted : share.linted = results.length) : share.summary = summaryLine results := by
  have herrors : share.count .error = total (·.errors.length) results := by
    rw [Share.count, hdiagnostics]
    exact (total_filter Diagnostic.isError results).symm
  have hwarnings : share.count .warning = total (·.warnings.length) results := by
    rw [Share.count, hdiagnostics]
    exact (total_filter Diagnostic.isWarning results).symm
  unfold Share.summary summaryLine
  rw [herrors, hwarnings, hlinted]

/-- The result of an argument alone. -/
theorem results_singleton (argument : Text) :
    results config files [argument] = (lintArgument config files argument).toOption.toList := by
  rw [results, List.filterMap_cons]
  cases (lintArgument config files argument).toOption <;> rfl

/-- Files are clean exactly if their shares are. -/
theorem isClean_iff {arguments : List Text} :
    isClean config files arguments = true ↔
      ∀ argument ∈ arguments, (shareOf verbose config files argument).IsClean := by
  rw [isClean, List.all_eq_true]
  refine forall₂_congr fun argument _ => ?_
  rw [Share.IsClean, shareOf]
  dsimp only
  rw [results_singleton]
  cases lintArgument config files argument with
  | error error => simp [Except.toOption]
  | ok result => simp [Except.toOption, LintResult.hasErrors, Diagnostic.isError]

/-- A run that obtains its configuration is that of the sum of its files' shares. -/
theorem runWith_eq_outcome {settings : Settings} {base : Config} (hform : settings.form = .text)
    (hconfig : settings.config files = .ok base) (arguments : List Text) :
    runWith verbose files settings arguments =
      (Share.sum (arguments.map (shareOf verbose (settings.selectRules base) files))).outcome
        (Outcome.verboseLines verbose (settings.configEvents files)) := by
  have hclean : isClean (settings.selectRules base) files arguments = true ↔
      (Share.sum (arguments.map (shareOf verbose (settings.selectRules base) files))).IsClean := by
    rw [Share.isClean_sum_iff, List.forall_mem_map, isClean_iff]
  rw [runWith, hconfig, hform, Share.outcome]
  dsimp only
  rw [if_congr hclean rfl rfl, sum_shareOf, report, Outcome.printed_append,
    summary_of_results rfl rfl]

/-- The share of an argument that could be linted. -/
theorem shareOf_of_ok {argument : Text} {result : LintResult}
    (h : lintArgument config files argument = .ok result) :
    shareOf verbose config files argument =
      ⟨Outcome.printed (resultLines result), result.diagnostics,
        Outcome.verboseLines verbose (fileEvents files (Path.normalize argument) result), 1,
        false⟩ := by
  rw [shareOf, results_singleton, fileErrors, h]
  simp [Except.toOption]

/-- The share of an argument that failed. -/
theorem shareOf_of_error {argument : Text} {error : FileLintError}
    (h : lintArgument config files argument = .error error) :
    shareOf verbose config files argument =
      ⟨[], [], Outcome.printed [failureLine argument error], 0, true⟩ := by
  rw [shareOf, results_singleton, fileErrors, h]
  simp [Except.toOption, Outcome.printed_nil]

/-- The result of an argument is that of the text that it names. -/
theorem lintArgument_of_ok {argument source : Text} {result : LintResult}
    (hread : files.readText (Path.normalize argument) = .ok source)
    (hlint : config.lintSource source (Path.normalize argument) = .ok result) :
    lintArgument config files argument = .ok result := by
  rw [lintArgument, Config.lintFile, hread]
  dsimp only
  rw [hlint]

/-- What happens while a file that can be parsed is linted. -/
theorem fileEvents_of_parse {path source : Text} {sheet : Stylesheet} {result : LintResult}
    (hread : files.readText path = .ok source) (hparse : Stylesheet.parse source = .ok sheet) :
    fileEvents files path result = [.stylesheetParsed sheet.rules.length,
      .linted result.filename result.selectorCount result.diagnostics.length] := by
  rw [fileEvents, hread]
  dsimp only
  rw [hparse]

/-- The share of an argument that names a file is the share of the file's bytes. -/
theorem fileShare_shareOf {argument : Text} {bytes : List UInt8}
    (hknown : RuleLevels.Known config.rules)
    (hfile : files (Path.normalize argument) = .file bytes) :
    FileShare verbose config argument bytes (shareOf verbose config files argument) := by
  have hread := Files.readText_of_file hfile
  cases hdecode : Utf8.decode bytes with
  | error fault =>
    rw [hdecode] at hread
    have hlint : lintArgument config files argument = .error (.read (.undecodable fault)) := by
      rw [lintArgument, Config.lintFile, hread]
    rw [shareOf_of_error hlint]
    refine .unreadable (fun text htext => ?_) hdecode
    rw [Utf8.decode_eq_ok_iff.2 htext] at hdecode
    cases hdecode
  | ok text =>
    rw [hdecode] at hread
    have hbytes := Utf8.decode_eq_ok_iff.1 hdecode
    cases hparse : Stylesheet.parse (Utf8.normalizeNewlines text) with
    | error error =>
      have hlint : lintArgument config files argument = .error (.lint (.parse error)) := by
        rw [lintArgument, Config.lintFile, hread]
        dsimp only
        rw [Config.lintSource, hparse]
      rw [shareOf_of_error hlint]
      exact .unparsable hbytes hparse
    | ok sheet =>
      obtain ⟨rules, hrules⟩ := LintRule.exists_levels hknown
      have hsource := Config.lintSource_eq_flatMap (Path.normalize argument) hparse hrules
      have hlint := lintArgument_of_ok hread hsource
      rw [shareOf_of_ok hlint, fileEvents_of_parse hread hparse]
      exact .linted hbytes hparse hsource

/-! ## Runs -/

/-- A configuration that is obtained has known rules. -/
theorem known_of_config {settings : Settings} {base : Config}
    (h : settings.config files = .ok base) : RuleLevels.Known base.rules := by
  obtain ⟨members, -, h⟩ := bind_eq_ok_iff.1 h
  obtain ⟨merged, -, h⟩ := bind_eq_ok_iff.1 h
  exact Config.known_of_ofJson (show Config.ofJson (.object merged) = .ok base from h)

/-- Arguments that name files pass the check of the arguments. -/
theorem checkArguments_of_files {arguments : List Text} (hsome : arguments ≠ [])
    (hfiles : ∀ argument ∈ arguments, ∃ bytes, files argument = .file bytes) :
    checkArguments files arguments = .ok () := by
  rw [checkArguments, if_neg (by simpa using hsome), Settings.forM_eq_ok_iff]
  intro argument hargument
  obtain ⟨bytes, hbytes⟩ := hfiles argument hargument
  rw [Settings.checkFile, hbytes]

/-- A run whose command line is used as it should be. -/
theorem run_eq_runWith {commandLine : List Text} {given : Given} {settings : Settings}
    (hline : CommandLine.read Settings.lintSpecs true commandLine = .ok given)
    (hsettings : Settings.ofGiven files given = .ok settings)
    (harguments : checkArguments files given.arguments = .ok ()) :
    run verbose files commandLine = runWith verbose files settings given.arguments := by
  rw [run, hline]
  dsimp only [bind, Except.bind]
  rw [hsettings, harguments]

/-- Linting several files is the sum of linting each. Every file has a share, which its bytes
decide. A run over one file ends with its share, and a run over several files ends with the sum of
their shares: their diagnostics are listed in the order of the arguments, each file's as when it is
linted alone, with one summary of the added counts, and the exit code is zero exactly if no file
failed and no diagnostic is an error. -/
theorem run_is_sum_of_shares {commandLine : List Text} {options : List GivenOption}
    {arguments : List Text} {settings : Settings} {base : Config}
    (hline : CommandLine.read Settings.lintSpecs true commandLine = .ok ⟨options, arguments⟩)
    (hsettings : Settings.ofGiven files ⟨options, arguments⟩ = .ok settings)
    (hform : settings.form = .text) (hconfig : settings.config files = .ok base)
    (hsome : arguments ≠ [])
    (hfiles : ∀ argument ∈ arguments, ∃ bytes, files argument = .file bytes)
    (htidy : ∀ path bytes, files path = .file bytes →
      files (Path.normalize path) = .file bytes) (verbose : Bool) :
    let events := Outcome.verboseLines verbose (settings.configEvents files)
    ∃ share : Text → Share,
      (∀ argument ∈ arguments, ∀ bytes, files argument = .file bytes →
        FileShare verbose (settings.selectRules base) argument bytes (share argument)) ∧
      (∀ argument ∈ arguments, ∀ alone,
        CommandLine.read Settings.lintSpecs true alone = .ok ⟨options, [argument]⟩ →
        run verbose files alone = (share argument).outcome events) ∧
      run verbose files commandLine = (Share.sum (arguments.map share)).outcome events ∧
      ∀ severity, (Share.sum (arguments.map share)).count severity =
        Share.total (·.count severity) (arguments.map share) := by
  intro events
  have hknown : RuleLevels.Known (settings.selectRules base).rules :=
    Settings.known_selectRules (known_of_config hconfig) (Settings.rules_of_ofGiven hsettings)
  refine ⟨shareOf verbose (settings.selectRules base) files, ?_, ?_, ?_, ?_⟩
  · intro argument _ bytes hbytes
    exact fileShare_shareOf hknown (htidy argument bytes hbytes)
  · intro argument hargument alone halone
    have hcheck : checkArguments files [argument] = .ok () :=
      checkArguments_of_files (List.cons_ne_nil _ _) fun other hother =>
        hfiles other (List.mem_singleton.1 hother ▸ hargument)
    -- The settings come from the options alone, which the two command lines share.
    rw [run_eq_runWith halone hsettings hcheck, runWith_eq_outcome hform hconfig,
      List.map_singleton, Share.sum_singleton]
  · rw [run_eq_runWith hline hsettings (checkArguments_of_files hsome hfiles),
      runWith_eq_outcome hform hconfig]
  · exact Share.count_sum _

/-- A file that is named twice, once by a path that is not tidy, one whose bytes are those of no
text, and one that cannot be parsed, with a rule chosen. -/
theorem run_is_sum_of_shares_mixed :
    let tree : FileTree := [⟨["a.css"], some (Utf8.encode ".a .b\x7b\x7d")⟩,
      ⟨["b.css"], some [0xFF]⟩, ⟨["c.css"], some (Utf8.encode "\x7b")⟩]
    let config : Config := { rules := [(LintRule.classFormat.name, .error)] }
    ∃ share : Text → Share,
      FileShare false config "./a.css" (Utf8.encode ".a .b\x7b\x7d") (share "./a.css") ∧
      FileShare false config "b.css" [0xFF] (share "b.css") ∧
      FileShare false config "c.css" (Utf8.encode "\x7b") (share "c.css") ∧
      run false tree.files ["--rule", "class-format", "b.css"] = (share "b.css").outcome [] ∧
      run false tree.files ["./a.css", "b.css", "--rule=class-format", "a.css", "c.css"] =
        (Share.sum [share "./a.css", share "b.css", share "a.css", share "c.css"]).outcome [] := by
  intro tree config
  have hline : CommandLine.read Settings.lintSpecs true
      ["./a.css", "b.css", "--rule=class-format", "a.css", "c.css"] =
      .ok ⟨[⟨"--rule", "class-format"⟩], ["./a.css", "b.css", "a.css", "c.css"]⟩ := by
    with_unfolding_all rfl
  have hsettings : Settings.ofGiven tree.files
      ⟨[⟨"--rule", "class-format"⟩], ["./a.css", "b.css", "a.css", "c.css"]⟩ =
      .ok { rules := [LintRule.classFormat.name] } := by
    with_unfolding_all rfl
  have hconfig : Settings.config { rules := [LintRule.classFormat.name] } tree.files = .ok {} := by
    with_unfolding_all rfl
  have halone : CommandLine.read Settings.lintSpecs true ["--rule", "class-format", "b.css"] =
      .ok ⟨[⟨"--rule", "class-format"⟩], ["b.css"]⟩ := by
    with_unfolding_all rfl
  have hfirst : tree.files "./a.css" = .file (Utf8.encode ".a .b\x7b\x7d") := by
    with_unfolding_all rfl
  have hsecond : tree.files "b.css" = .file [0xFF] := by
    with_unfolding_all rfl
  have hthird : tree.files "c.css" = .file (Utf8.encode "\x7b") := by
    with_unfolding_all rfl
  have hfiles : ∀ argument ∈ (["./a.css", "b.css", "a.css", "c.css"] : List Text),
      ∃ bytes, tree.files argument = .file bytes := by
    simp only [List.forall_mem_cons]
    exact ⟨⟨_, hfirst⟩, ⟨_, hsecond⟩, ⟨_, FileTree.files_normalize hfirst⟩, ⟨_, hthird⟩, nofun⟩
  obtain ⟨share, hshares, hruns, hrun, -⟩ := run_is_sum_of_shares hline hsettings rfl hconfig
    (List.cons_ne_nil _ _) hfiles (fun path bytes => FileTree.files_normalize) false
  exact ⟨share, hshares _ (by simp) _ hfirst, hshares _ (by simp) _ hsecond,
    hshares _ (by simp) _ hthird, hruns _ (by simp) _ halone, hrun⟩

end LintCommand

end ClassLint
