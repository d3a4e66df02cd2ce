import ClassLint.Check.Finding
import ClassLint.Json.Basic
import ClassLint.Text.Location

/-!
# Diagnostics

A diagnostic is a finding of a rule at a place in a source, with a severity. A collector turns
findings into diagnostics of its rule.
-/

namespace ClassLint

/-- How serious a diagnostic is. -/
inductive Severity where
  | error
  | warning
  deriving DecidableEq, Repr

namespace Severity

/-- The name of a severity in capitals. -/
def name : Severity → Text
  | .error => "ERROR"
  | .warning => "WARNING"

/-- The severity with a name. -/
def ofName? (name : Text) : Option Severity :=
  [Severity.error, .warning].find? fun severity => severity.name == name

end Severity

/-- A finding of a rule at a place. -/
structure Diagnostic where
  rule : Text
  kind : Kind
  location : Location := .start
  data : Values := []
  severity : Severity := .error
  deriving DecidableEq, Repr

namespace Diagnostic

/-- Whether a diagnostic is an error. -/
def isError (diagnostic : Diagnostic) : Bool := diagnostic.severity == .error

/-- Whether a diagnostic is a warning. -/
def isWarning (diagnostic : Diagnostic) : Bool := diagnostic.severity == .warning

/-- The message of a diagnostic. -/
def message (diagnostic : Diagnostic) : Text := diagnostic.kind.message diagnostic.data

/-- A diagnostic as one line of a report. -/
def text (diagnostic : Diagnostic) : Text :=
  diagnostic.location.text ++ [' '] ++ diagnostic.severity.name ++ [' '] ++ diagnostic.message ++
    " [" ++ diagnostic.rule ++ ['/'] ++ diagnostic.kind.name ++ "]"

/-- A diagnostic as a JSON object. -/
def toJson (diagnostic : Diagnostic) : Json :=
  .object [
    ("rule", .text diagnostic.rule),
    ("kind", .text diagnostic.kind.name),
    ("severity", .text diagnostic.severity.name),
    ("line", .integer diagnostic.location.line),
    ("column", .integer diagnostic.location.column),
    ("message", .text diagnostic.message),
    ("data", .object (diagnostic.data.map fun (name, value) => (name, .text value)))]

/-- Diagnostics in the order of their locations; those at one location keep their order. -/
def sortByLocation (diagnostics : List Diagnostic) : List Diagnostic :=
  diagnostics.mergeSort fun a b => a.location.le b.location

end Diagnostic

/-- The diagnostic that a finding is at a place, for a rule. -/
def Finding.toDiagnostic (finding : Finding) (rule : Text) (severity : Severity)
    (location : Location) : Diagnostic :=
  { rule, kind := finding.kind, location, data := finding.data, severity }

/-- A rule's name, the severity of its diagnostics, and those reported so far. -/
structure Collector where
  rule : Text
  severity : Severity := .error
  diagnostics : List Diagnostic := []
  deriving DecidableEq, Repr

namespace Collector

/-- Report a finding at a place. -/
def report (collector : Collector) (location : Location) (finding : Finding) : Collector :=
  { collector with
    diagnostics := collector.diagnostics ++
      [finding.toDiagnostic collector.rule collector.severity location] }

/-- Report findings at one place, in order. -/
def reportAll (collector : Collector) (location : Location) (findings : List Finding) : Collector :=
  findings.foldl (fun collector finding => collector.report location finding) collector

/-- What is reported at one place comes behind what was reported before, in order. -/
theorem diagnostics_reportAll (collector : Collector) (location : Location)
    (findings : List Finding) :
    (collector.reportAll location findings).diagnostics =
      collector.diagnostics ++ findings.map fun finding =>
        finding.toDiagnostic collector.rule collector.severity location := by
  induction findings generalizing collector with
  | nil => exact (List.append_nil _).symm
  | cons finding findings ih =>
    have hreport : collector.reportAll location (finding :: findings) =
        (collector.report location finding).reportAll location findings := rfl
    rw [hreport, ih]
    exact List.append_assoc _ _ _

end Collector

end ClassLint
