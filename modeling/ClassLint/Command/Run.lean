import ClassLint.Command.Inspect
import ClassLint.Command.Lint

/-!
# Running the program

The program takes options of its own, then a command and the command line of that command.
-/

namespace ClassLint

/-- The program's own options. -/
def programSpecs : List OptionSpec :=
  [{ name := "--version", takesValue := false },
    { name := "--verbose", letter := some 'v', takesValue := false }]

/-- The line that tells the version. -/
def versionLine : Text := "rscss, version 0.3.0"

/-- The end of a run that tells the version. -/
def versionOutcome : Outcome := .exited 0 (Text.lines [versionLine]) []

/-- The end of a run whose command is unknown. If the name is written like an option, a misuse of
options is reported first. -/
def unknownCommand (name : Text) (rest : List Text) : Outcome :=
  match CommandLine.read programSpecs false (name :: rest) with
  | .error error => .ofUsageError error
  | .ok given =>
    if given.has "--version" then versionOutcome else .misused (.noSuchCommand name)

/-- Run the program on its arguments. -/
def run (files : Files) (arguments : List Text) : Outcome :=
  match CommandLine.read programSpecs false arguments with
  | .error error => .ofUsageError error
  | .ok given =>
    let verbose := given.has "--verbose"
    if given.has "--version" then versionOutcome
    else match given.arguments with
      | [] => .misused .commandMissing
      | name :: rest =>
        if name = "lint" then LintCommand.run verbose files rest
        else if name = "inspect" then InspectCommand.run verbose files rest
        else unknownCommand name rest

end ClassLint
