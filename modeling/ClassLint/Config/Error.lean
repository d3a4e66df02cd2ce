import ClassLint.Files.Basic
import ClassLint.Json.Display
import ClassLint.Json.Reader
import ClassLint.Naming.Format

/-!
# Configuration errors

Every reason for which a configuration is refused, with the option that it concerns, and the
wording of each. Beside them stand the failures that are not reported as configuration errors: a
severity that is a list or an object, a path with a null character, bytes that are not text, an
integer of too many digits, be it read or to be shown, and a pattern with numbers beyond the limits
or with flags that contradict one another.
-/

namespace ClassLint

/-- The reasons for which a configuration is refused. -/
inductive ConfigProblem where
  | unknownFormat (name : Text)
  | customNeedsObject
  | customNeedsPattern
  | typeNotCustom
  | patternMissing
  | unexpectedKeys (keys : List Text)
  | invalidPattern (source : Text) (fault : PatternFault)
  | notAFormat (value : Json)
  | optionsNotObject (value : Json)
  | unknownOptions (keys : List Text)
  | depthNotPositive (value : Json)
  | whitelistNotList
  | whitelistEntryNotText
  | countingNotBool (value : Json)
  | configNotObject (value : Json)
  | unknownConfigKeys (keys : List Text)
  | mustBeObject
  | unknownRule (name : Text)
  | unknownSeverity (rule : Text) (level : Json)
  | unreadable (path : Text) (fault : OpenFault)
  | notJson (path : Text) (source : Text) (fault : Json.Fault)
  | notJsonObject (path : Text)

/-- A reason and the option that it concerns. -/
structure ConfigError where
  problem : ConfigProblem
  option : Option Text := none

/-- The wording of a reason. -/
def ConfigProblem.text : ConfigProblem → Text
  | .unknownFormat name =>
    "unknown format " ++ Text.quoted name ++ "; use one of " ++
      Text.join ", " (Shape.all.map Shape.name) ++ " or a custom object"
  | .customNeedsObject => "'custom' needs an object with a pattern"
  | .customNeedsPattern => "a custom format needs a pattern; use FormatSpec.custom()"
  | .typeNotCustom => "format objects must have type 'custom'"
  | .patternMissing => "custom format needs a non-empty 'pattern' string"
  | .unexpectedKeys keys => "unexpected keys " ++ Json.bracketed (keys.map Text.quoted)
  | .invalidPattern source fault =>
    "invalid pattern " ++ Text.quoted source ++ ": " ++ fault.message source
  | .notAFormat value => "expected a format name or object, got " ++ value.kindName
  | .optionsNotObject value => "options must be an object, got " ++ value.kindName
  | .unknownOptions keys => "unknown option(s): " ++ Text.join ", " keys
  | .depthNotPositive value => "must be a positive integer, got " ++ value.display
  | .whitelistNotList => "must be a list of class names"
  | .whitelistEntryNotText => "entries must be strings"
  | .countingNotBool value => "must be true or false, got " ++ value.display
  | .configNotObject value => "config must be an object, got " ++ value.kindName
  | .unknownConfigKeys keys => "unknown config key(s): " ++ Text.join ", " keys
  | .mustBeObject => "must be an object"
  | .unknownRule name => "unknown rule " ++ Text.quoted name
  | .unknownSeverity rule level =>
    "severity for " ++ Text.quoted rule ++ " must be error, warn or off, got " ++ level.display
  | .unreadable path fault =>
    "cannot read " ++ path ++ ": " ++ (ReadError.cannotOpen fault path).message
  | .notJson path source fault => path ++ " is not valid JSON: " ++ fault.message source
  | .notJsonObject path => path ++ " must hold a JSON object"

/-- The report of an error: the option before the reason, if the option has a name. -/
def ConfigError.message (error : ConfigError) : Text :=
  match error.option with
  | none | some [] => error.problem.text
  | some option => option ++ ": " ++ error.problem.text

/-- A failure to obtain a configuration. -/
inductive ConfigFailure where
  | rejected (error : ConfigError)
  | compositeSeverity (level : Json)
  | undecodable (fault : Utf8.Fault)
  | nullInPath
  | longNumber (digits : Nat)
  | unshowableNumber
  | unusablePattern (kind : PatternFaultKind)

/-- The failure of a reason that concerns an option. -/
def ConfigFailure.ofOption (option : Text) (problem : ConfigProblem) : ConfigFailure :=
  .rejected ⟨problem, some option⟩

/-- The failure of a reason that concerns no option. -/
def ConfigFailure.ofProblem (problem : ConfigProblem) : ConfigFailure := .rejected ⟨problem, none⟩

/-- The failure of a reason that concerns an option and shows its value, if the value can be
shown. -/
def ConfigFailure.ofShown (option : Text) (problem : Json → ConfigProblem) (value : Json) :
    ConfigFailure :=
  if value.isShowable then .ofOption option (problem value) else .unshowableNumber

/-- The report of a failure. -/
def ConfigFailure.message : ConfigFailure → Text
  | .rejected error => error.message
  | .compositeSeverity level => "unhashable type: '" ++ level.kindName ++ "'"
  | .undecodable fault => fault.message
  | .nullInPath => nullInPathMessage
  | .longNumber digits => Text.longNumberMessage digits
  | .unshowableNumber => Text.unshowableNumberMessage
  | .unusablePattern kind => kind.text

end ClassLint
