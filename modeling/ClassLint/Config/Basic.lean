import ClassLint.Check.Rule
import ClassLint.Config.Options

/-!
# Configurations

A configuration says which rules run, how severe their diagnostics are, and with which options.
It is described by an object with the keys `rules` and `options`. Rules that are not mentioned
run as errors; a rule that is off does not run.
-/

namespace ClassLint

/-- The rules that run, with their severities and in order, and the options of the checks. -/
structure Config where
  options : Options := {}
  rules : List (Text × Severity) := LintRule.names.map fun name => (name, .error)
  deriving DecidableEq, Repr

/-- Severities by rule, in order. -/
abbrev RuleLevels := List (Text × Severity)

namespace RuleLevels

/-- Give a rule a severity: at the rule's place if it has one, at the end otherwise. -/
def put (rules : RuleLevels) (name : Text) (severity : Severity) : RuleLevels :=
  match rules with
  | [] => [(name, severity)]
  | (other, old) :: rest =>
    if other = name then (name, severity) :: rest else (other, old) :: put rest name severity

/-- Take a rule out. -/
def remove (rules : RuleLevels) (name : Text) : RuleLevels :=
  rules.filter fun (other, _) => other ≠ name

/-- The severities that a sequence of rules and severities leaves: of a repeated rule the last
severity, at the place of the first. -/
def ofList (entries : List (Text × Severity)) : RuleLevels :=
  entries.foldl (fun rules (name, severity) => put rules name severity) []

end RuleLevels

namespace Config

/-- What a configuration says about a rule. -/
inductive Level where
  | off
  | on (severity : Severity)
  deriving DecidableEq, Repr

/-- The level that a word stands for. -/
def levelOfWord? (word : Text) : Option Level :=
  if word = "off" then some .off
  else if word = "error" then some (.on .error)
  else if word = "warn" ∨ word = "warning" then some (.on .warning)
  else none

/-- The level that a value gives to a rule. -/
def readLevel (rule : Text) (value : Json) : Except ConfigFailure Level :=
  let unknown := .error (.ofShown "rules" (.unknownSeverity rule) value)
  match value with
  | .text word =>
    match levelOfWord? word with
    | some level => .ok level
    | none => unknown
  | .list _ | .object _ => .error (.compositeSeverity value)
  | _ => unknown

/-- Apply the levels of an object's members to the rules, in order. -/
def readRules (rules : RuleLevels) : Members → Except ConfigFailure RuleLevels
  | [] => .ok rules
  | (name, value) :: rest =>
    if !LintRule.names.contains name then
      .error (.ofOption "rules" (.unknownRule name))
    else do
      match ← readLevel name value with
      | .off => readRules (rules.remove name) rest
      | .on severity => readRules (rules.put name severity) rest

/-- The rules that a configuration's members enable. -/
def rulesOfMembers (members : Members) : Except ConfigFailure RuleLevels :=
  match members.get? "rules" with
  | none => .ok ({} : Config).rules
  | some (.object levels) => readRules ({} : Config).rules levels
  | some _ => .error (.ofOption "rules" .mustBeObject)

/-- The options that a configuration's members hold. -/
def optionsOfMembers (members : Members) : Except ConfigFailure Options :=
  Options.ofJson ((members.get? "options").getD .null)

/-- The configuration that members describe. -/
def ofMembers (members : Members) : Except ConfigFailure Config :=
  match members.unknownKeys ["rules", "options"] with
  | [] => do
    let rules ← rulesOfMembers members
    let options ← optionsOfMembers members
    .ok { options, rules }
  | unknown => .error (.ofProblem (.unknownConfigKeys unknown))

/-- The configuration that a value describes. -/
def ofJson (value : Json) : Except ConfigFailure Config :=
  match value with
  | .object members => ofMembers members
  | _ => .error (.ofProblem (.configNotObject value))

/-- The custom patterns that reading members as a configuration goes through, with their options. -/
def customPatterns (members : Members) : List (Text × Text) :=
  match members.unknownKeys ["rules", "options"], rulesOfMembers members with
  | [], .ok _ => Options.customPatternsOf ((members.get? "options").getD .null)
  | _, _ => []

/-- The object that a configuration file holds. -/
def readFile (files : Files) (path : Text) : Except ConfigFailure Members := do
  let source ←
    match files.readText path with
    | .ok source => .ok source
    | .error (.cannotOpen fault path) => .error (.ofProblem (.unreadable path fault))
    | .error .nullInPath => .error .nullInPath
    | .error (.undecodable fault) => .error (.undecodable fault)
  match Json.read source with
  | .ok (.object members) => .ok members
  | .ok _ => .error (.ofProblem (.notJsonObject path))
  | .error ⟨.longNumber digits, _⟩ => .error (.longNumber digits)
  | .error fault => .error (.ofProblem (.notJson path source fault))

/-- The configuration of a file. -/
def load (files : Files) (path : Text) : Except ConfigFailure Config := do
  ofMembers (← readFile files path)

end Config

end ClassLint
