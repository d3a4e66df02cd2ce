import ClassLint.Command.Arguments
import ClassLint.Config.Error
import ClassLint.Lint.Event
import ClassLint.Text.ControlSequence

/-!
# Outcomes

How a run of the program ends: with an exit code and what it printed, with a misuse of the
command line, or with a failure that it does not handle. What it prints holds no control sequences
for terminals; the lines that tell of events are kept as they are.
-/

namespace ClassLint

/-- The end of a run. -/
inductive Outcome where
  | exited (code : Nat) (output errors : Text)
  | misused (error : UsageError)
  | crashed (failure : ConfigFailure) (output errors : Text)

namespace Outcome

/-- The lines that tell of events, in verbose mode. -/
def verboseLines (verbose : Bool) (events : List Event) : Text :=
  if verbose then Text.lines (events.map Event.line) else []

/-- The end of a run whose command line is misused. A path that cannot be asked for is a failure. -/
def ofUsageError : UsageError → Outcome
  | .nullInPath => .crashed .nullInPath [] []
  | error => .misused error

/-- Lines as they are printed. -/
def printed (lines : List Text) : Text := Text.withoutSequences (Text.lines lines)

/-- The end of a run that could not obtain its configuration. -/
def ofConfigFailure (errors : Text) : ConfigFailure → Outcome
  | .rejected error => .exited 2 [] (errors ++ printed ["Config error: " ++ error.message])
  | failure => .crashed failure [] errors

end Outcome

end ClassLint
