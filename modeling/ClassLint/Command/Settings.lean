import ClassLint.Command.Arguments
import ClassLint.Files.Basic
import ClassLint.Config.Basic
import ClassLint.Text.Integer
import ClassLint.Files.Path
import ClassLint.Lint.Event

/-!
# Settings

The options of the commands and their values. Values are converted in the order in which the
options first appear, and the first bad one is reported; of an option that is given several times
the last value counts, unless the option collects its values.
-/

namespace ClassLint

/-- The forms of a report. -/
inductive ReportForm where
  | text
  | json
  deriving DecidableEq, Repr

/-- The values of the options of a command. -/
structure Settings where
  configPath : Option Text := none
  maxDepth : Option Int := none
  whitelist : List Text := []
  formats : Role → Option Text := fun _ => none
  rules : List Text := []
  form : ReportForm := .text

namespace Settings

/-- The option that gives a role its format. -/
def roleOption (role : Role) : Text := "--" ++ role.name

/-- The options that all commands take. -/
def sharedSpecs : List OptionSpec :=
  let names : List Text := ["--config", "--max-depth", "--whitelist"]
  (names ++ Role.all.map roleOption).map fun name => { name }

/-- The options of the linting command. -/
def lintSpecs : List OptionSpec :=
  sharedSpecs ++ [{ name := "--rule" }, { name := "--format" }]

/-- A path that must name a file. -/
def checkFile (files : Files) (parameter path : Text) : Except UsageError Unit :=
  let bad (reason : Text) : Except UsageError Unit :=
    .error (.badValue parameter ("File " ++ Text.quoted path ++ reason))
  match files path with
  | .missing | .belowFile | .nameTooLong => bad " does not exist."
  | .nullInPath => .error .nullInPath
  | .directory => bad " is a directory."
  | .file _ => .ok ()

/-- A value that must be one of the given ones. -/
def checkChoice (parameter : Text) (choices : List Text) (value : Text) : Except UsageError Unit :=
  if choices.contains value then .ok ()
  else .error (.badValue parameter (Text.quoted value ++ " is not one of " ++
    Text.join ", " (choices.map Text.quoted) ++ "."))

/-- A value that must be an integer from one on. -/
def readDepth (value : Text) : Except UsageError Int :=
  let bad (reason : Text) : Except UsageError Int := .error (.badValue "--max-depth" reason)
  match Text.readInteger? value with
  | none => bad (Text.quoted value ++ " is not a valid integer range.")
  | some depth =>
    if depth < 1 then bad (Text.ofInt depth ++ " is not in the range x>=1.") else .ok depth

/-- The forms of a report by name. -/
def formNames : List Text := ["text", "json"]

/-- Convert the values of one option. -/
def apply (files : Files) (given : Given) (settings : Settings) (name : Text) :
    Except UsageError Settings :=
  let values := given.valuesOf name
  let value := values.getLast?.getD []
  if name = "--config" then
    (checkFile files name value).map fun _ => { settings with configPath := some value }
  else if name = "--max-depth" then
    (readDepth value).map fun depth => { settings with maxDepth := some depth }
  else if name = "--whitelist" then .ok { settings with whitelist := values }
  else if name = "--rule" then
    (values.forM (checkChoice name LintRule.names)).map fun _ => { settings with rules := values }
  else if name = "--format" then
    (checkChoice name formNames value).map fun _ =>
      { settings with form := if value = "json" then .json else .text }
  else
    .ok { settings with
      formats := fun role => if roleOption role = name then some value else settings.formats role }

/-- The settings that the options of a command line give. -/
def ofGiven (files : Files) (given : Given) : Except UsageError Settings :=
  given.optionNames.foldlM (apply files given) {}

/-- The value that an option gives to a format: the name of a shape, or a pattern. -/
def formatValue (value : Text) : Json :=
  if (Shape.ofName? value).isSome then .text value
  else .object [("type", .text "custom"), ("pattern", .text value)]

/-- Put the formats of roles into options. -/
def putFormats (formats : Role → Option Text) (options : Members) : Members :=
  Role.all.foldl (fun options role =>
    match formats role with
    | some value => options.put role.name (formatValue value)
    | none => options) options

/-- Put the settings into options, over what is there. -/
def override (settings : Settings) (options : Members) : Members :=
  let options := putFormats settings.formats options
  let options :=
    match settings.maxDepth with
    | some depth => options.put "maxDepth" (.integer depth)
    | none => options
  if settings.whitelist.isEmpty then options
  else options.put "componentWhitelist" (.list (settings.whitelist.map Json.text))

/-- The members of a configuration with the settings put into its options. -/
def merge (settings : Settings) (members : Members) : Except ConfigFailure Members :=
  let merged (options : Members) : Except ConfigFailure Members :=
    .ok (members.put "options" (.object (settings.override options)))
  match members.get? "options" with
  | none => merged []
  | some value =>
    if value.isVoid then merged []
    else match value with
      | .object options => merged options
      | _ => .error (.ofOption "options" .mustBeObject)

/-- The members of the configuration file, if one is given. -/
def fileMembers (settings : Settings) (files : Files) : Except ConfigFailure Members :=
  match settings.configPath with
  | none => .ok []
  | some path => Config.readFile files (Path.normalize path)

/-- The configuration that the file and the settings give. -/
def config (settings : Settings) (files : Files) : Except ConfigFailure Config := do
  let members ← settings.fileMembers files
  let merged ← settings.merge members
  Config.ofMembers merged

/-- What happens while the configuration is obtained. -/
def configEvents (settings : Settings) (files : Files) : List Event :=
  match settings.fileMembers files with
  | .error _ => []
  | .ok members =>
    let loaded := settings.configPath.toList.map fun path =>
      Event.configLoaded (Path.normalize path)
    let patterns :=
      match settings.merge members with
      | .error _ => []
      | .ok merged => Config.customPatterns merged
    loaded ++ patterns.map fun (option, source) => Event.patternRead option source

/-- The configuration with only the chosen rules, in the order of choice and at their severity;
all rules stay if none is chosen. -/
def selectRules (settings : Settings) (config : Config) : Config :=
  if settings.rules.isEmpty then config
  else { config with
    rules := RuleLevels.ofList (settings.rules.map fun name =>
      (name, (config.rules.lookup name).getD .error)) }

end Settings

end ClassLint
