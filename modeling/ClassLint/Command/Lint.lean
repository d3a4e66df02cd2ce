import ClassLint.Command.Outcome
import ClassLint.Command.Settings
import ClassLint.Json.Printer
import ClassLint.Lint.Basic

/-!
# The linting command

Lints files and reports their diagnostics as text or as JSON. A file that cannot be read or
parsed is reported on its own and does not keep the others from being linted. The exit code is
one if such a file or an error was found.
-/

namespace ClassLint.LintCommand

/-- The report of a file that could not be linted. -/
def failureLine (argument : Text) : FileLintError → Text
  | .read error => argument ++ ": cannot read: " ++ error.message
  | .lint (.parse error) =>
    argument ++ [':'] ++ error.location.text ++ ": Parse error: " ++ error.message
  | .lint error => argument ++ ": " ++ error.message

/-- What happens while a file is linted. -/
def fileEvents (files : Files) (path : Text) (result : LintResult) : List Event :=
  match files.readText path with
  | .error _ => []
  | .ok source =>
    match Stylesheet.parse source with
    | .error _ => []
    | .ok stylesheet =>
      [.stylesheetParsed stylesheet.rules.length,
        .linted result.filename result.selectorCount result.diagnostics.length]

/-- The result for one file. -/
def lintArgument (config : Config) (files : Files) (argument : Text) :
    Except FileLintError LintResult :=
  config.lintFile files (Path.normalize argument)

/-- What is told about one file while it is linted. -/
def fileErrors (verbose : Bool) (config : Config) (files : Files) (argument : Text) : Text :=
  match lintArgument config files argument with
  | .ok result =>
    Outcome.verboseLines verbose (fileEvents files (Path.normalize argument) result)
  | .error error => Outcome.printed [failureLine argument error]

/-- The results of the files that could be linted, in order. -/
def results (config : Config) (files : Files) (arguments : List Text) : List LintResult :=
  arguments.filterMap fun argument => (lintArgument config files argument).toOption

/-- The lines of a result. -/
def resultLines (result : LintResult) : List Text :=
  result.diagnostics.map fun diagnostic => result.filename ++ [':'] ++ diagnostic.text

/-- The sum of a count over results. -/
def total (count : LintResult → Nat) (results : List LintResult) : Nat :=
  results.foldr (fun result sum => count result + sum) 0

/-- The line that sums up results. -/
def summaryLine (results : List LintResult) : Text :=
  "Summary: " ++ Text.ofNat (total (·.errors.length) results) ++ " error(s), " ++
    Text.ofNat (total (·.warnings.length) results) ++ " warning(s) in " ++
    Text.ofNat results.length ++ " file(s)"

/-- The report of results in a form. -/
def report (form : ReportForm) (results : List LintResult) : Text :=
  match form with
  | .json => Outcome.printed [Json.print 0 (.list (results.map LintResult.toJson))]
  | .text => Outcome.printed (results.flatMap resultLines ++ [summaryLine results])

/-- Whether every file could be linted and no error was found. -/
def isClean (config : Config) (files : Files) (arguments : List Text) : Bool :=
  arguments.all fun argument =>
    match lintArgument config files argument with
    | .ok result => !result.hasErrors
    | .error _ => false

/-- Run the command with settings on files. -/
def runWith (verbose : Bool) (files : Files) (settings : Settings) (arguments : List Text) :
    Outcome :=
  let events := Outcome.verboseLines verbose (settings.configEvents files)
  match settings.config files with
  | .error failure => .ofConfigFailure events failure
  | .ok base =>
    let config := settings.selectRules base
    .exited (if isClean config files arguments then 0 else 1)
      (report settings.form (results config files arguments))
      (events ++ arguments.flatMap (fileErrors verbose config files))

/-- The files that arguments name, at least one. -/
def checkArguments (files : Files) (arguments : List Text) : Except UsageError Unit :=
  if arguments.isEmpty then .error (.argumentMissing "FILES...")
  else arguments.forM (Settings.checkFile files "FILES...")

/-- Run the command on its part of the command line. -/
def run (verbose : Bool) (files : Files) (commandLine : List Text) : Outcome :=
  let prepared : Except UsageError (Settings × List Text) := do
    let given ← CommandLine.read Settings.lintSpecs true commandLine
    let settings ← Settings.ofGiven files given
    checkArguments files given.arguments
    .ok (settings, given.arguments)
  match prepared with
  | .error error => .ofUsageError error
  | .ok (settings, arguments) => runWith verbose files settings arguments

end ClassLint.LintCommand
