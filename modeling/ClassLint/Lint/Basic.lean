import ClassLint.Config.Basic
import ClassLint.Stylesheet.Parse

/-!
# Linting

Every selector of a style sheet is given to every enabled rule. The diagnostics are put in the
order of their locations; those at one location keep the order of the rules.
-/

namespace ClassLint

/-- The diagnostics of one style sheet. -/
structure LintResult where
  filename : Text
  diagnostics : List Diagnostic
  selectorCount : Nat
  deriving DecidableEq, Repr

namespace LintResult

/-- The diagnostics that are errors. -/
def errors (result : LintResult) : List Diagnostic := result.diagnostics.filter Diagnostic.isError

/-- The diagnostics that are warnings. -/
def warnings (result : LintResult) : List Diagnostic :=
  result.diagnostics.filter Diagnostic.isWarning

/-- Whether some diagnostic is an error. -/
def hasErrors (result : LintResult) : Bool := result.diagnostics.any Diagnostic.isError

/-- A result as a JSON object. -/
def toJson (result : LintResult) : Json :=
  .object [
    ("filename", .text result.filename),
    ("selectors", .integer result.selectorCount),
    ("errors", .integer result.errors.length),
    ("warnings", .integer result.warnings.length),
    ("diagnostics", .list (result.diagnostics.map Diagnostic.toJson))]

end LintResult

/-- The causes for which a source cannot be linted. -/
inductive LintError where
  | parse (error : ParseError)
  | unknownRule (name : Text)
  deriving DecidableEq, Repr

/-- The report of a cause. -/
def LintError.message : LintError → Text
  | .parse error => error.message
  | .unknownRule name => Text.quoted name

namespace Config

/-- The diagnostics of the given rules for one selector, in order of the rules. -/
def diagnoseWith (options : Options) (source : SelectorSource) :
    RuleLevels → Except LintError (List Diagnostic)
  | [] => .ok []
  | (name, severity) :: rest =>
    match LintRule.ofName? name with
    | none => .error (.unknownRule name)
    | some rule => do
      let diagnostics := (rule.diagnose source options).map ({ · with severity })
      let others ← diagnoseWith options source rest
      .ok (diagnostics ++ others)

/-- The diagnostics of the enabled rules for selectors, in order. -/
def diagnoseAll (config : Config) : List SelectorSource → Except LintError (List Diagnostic)
  | [] => .ok []
  | source :: rest => do
    let diagnostics ← diagnoseWith config.options source config.rules
    let others ← diagnoseAll config rest
    .ok (diagnostics ++ others)

/-- Lint a style sheet that has been read. -/
def lintStylesheet (config : Config) (stylesheet : Stylesheet) (filename : Text) :
    Except LintError LintResult := do
  let selectors := stylesheet.selectors
  let diagnostics ← config.diagnoseAll selectors
  .ok ⟨filename, Diagnostic.sortByLocation diagnostics, selectors.length⟩

/-- Lint a source. -/
def lintSource (config : Config) (source filename : Text) : Except LintError LintResult :=
  match Stylesheet.parse source with
  | .ok stylesheet => config.lintStylesheet stylesheet filename
  | .error error => .error (.parse error)

end Config

/-- The causes for which a file cannot be linted. -/
inductive FileLintError where
  | read (error : ReadError)
  | lint (error : LintError)
  deriving DecidableEq, Repr

/-- The report of a cause. -/
def FileLintError.message : FileLintError → Text
  | .read error => error.message
  | .lint error => error.message

/-- Lint the file that a path names. -/
def Config.lintFile (config : Config) (files : Files) (path : Text) :
    Except FileLintError LintResult :=
  match files.readText path with
  | .error error => .error (.read error)
  | .ok source =>
    match config.lintSource source path with
    | .ok result => .ok result
    | .error error => .error (.lint error)

end ClassLint
