import ClassLint.Command.Outcome
import ClassLint.Command.Settings

/-!
# The inspecting command

Shows how a selector is cut and how its tokens are classified, and the findings for it. The exit
code is one if there are findings.
-/

namespace ClassLint.InspectCommand

/-- The line of a token. -/
def tokenLine (options : Options) (level : Nat) (token : ClassToken) : Text :=
  let classification := token.classify level options
  let status : Text := if classification.valid then "valid" else "INVALID"
  "      " ++ token.text ++ "  " ++ classification.role.name ++ "  " ++ status

/-- The lines of a compound: its place in the chain, and its tokens. -/
def compoundLines (options : Options) (index level : Nat) (combinator : Option Combinator)
    (compound : Compound) : List Text :=
  let shown := combinator.elim ['-'] fun combinator => Text.lower combinator.name
  ("  [" ++ Text.ofNat index ++ "] level=" ++ Text.ofNat level ++ " combinator=" ++ shown ++
    " \"" ++ compound.text ++ "\"") :: compound.tokens.map (tokenLine options level)

/-- The lines of the compounds. -/
def chainLines (options : Options) (chain : Chain Compound) : List Text :=
  ((chain.parts.zip chain.levels).zipIdx).flatMap fun (((combinator, compound), level), index) =>
    compoundLines options index level combinator compound

/-- The lines that show a selector. -/
def selectorLines (options : Options) (selector : Selector) : List Text :=
  ["Selector: " ++ selector.text,
    "Depth: " ++ Text.ofNat selector.chain.depth ++ " (max " ++ Text.ofNat options.maxDepth ++ ")",
    [], "Segments:"] ++ chainLines options selector.chain ++ [[]]

/-- The lines that show findings. -/
def findingLines (findings : List Finding) : List Text :=
  match findings with
  | [] => ["OK: no diagnostics"]
  | _ :: _ =>
    "Diagnostics:" :: findings.map fun finding =>
      "  " ++ finding.kind.name ++ ": " ++ finding.message

/-- Run the command with settings on a selector. -/
def runWith (verbose : Bool) (files : Files) (settings : Settings) (text : Text) : Outcome :=
  let events := Outcome.verboseLines verbose (settings.configEvents files)
  match settings.config files with
  | .error failure => .ofConfigFailure events failure
  | .ok config =>
    let selector := Selector.ofText text
    let findings := selector.check config.options
    .exited (if findings.isEmpty then 0 else 1)
      (Outcome.printed (selectorLines config.options selector ++ findingLines findings)) events

/-- The one selector among arguments. -/
def checkArguments : List Text → Except UsageError Text
  | [] => .error (.argumentMissing "SELECTOR")
  | [selector] => .ok selector
  | _ :: extra => .error (.extraArguments extra)

/-- Run the command on its part of the command line. -/
def run (verbose : Bool) (files : Files) (commandLine : List Text) : Outcome :=
  let prepared : Except UsageError (Settings × Text) := do
    let given ← CommandLine.read Settings.sharedSpecs true commandLine
    let settings ← Settings.ofGiven files given
    let selector ← checkArguments given.arguments
    .ok (settings, selector)
  match prepared with
  | .error error => .ofUsageError error
  | .ok (settings, selector) => runWith verbose files settings selector

end ClassLint.InspectCommand
