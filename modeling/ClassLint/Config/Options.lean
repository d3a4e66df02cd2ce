import ClassLint.Config.Error
import ClassLint.Naming.Classification

/-!
# Reading options

Options are an object with a format for each role, the greatest depth, the whitelist of component
names, and whether names on it count as components. Every key is optional, and a value that
stands for nothing gives the defaults. Of several mistakes the first in that order is reported,
after unknown keys.
-/

namespace ClassLint

namespace Format

/-- The format of a shape by name; a custom format cannot be had by its name alone. -/
def ofSortName? (name : Text) : Option (Except ConfigFailure Format) :=
  if name = "custom" then some (.error (.ofProblem .customNeedsPattern))
  else (Shape.ofName? name).map fun shape => .ok (.builtin shape)

/-- The custom format of a written pattern. -/
def ofPattern (source : Text) (option : Text) : Except ConfigFailure Format :=
  match Pattern.read source with
  | .ok pattern => .ok (.custom source pattern)
  | .error fault =>
    if fault.kind.isInvalid then .error (.ofOption option (.invalidPattern source fault))
    else .error (.unusablePattern fault.kind)

/-- The custom format that an object describes. -/
def ofMembers (members : Members) (option : Text) : Except ConfigFailure Format :=
  match members.get? "type" with
  | some (.text name) =>
    if name ≠ "custom" then .error (.ofOption option .typeNotCustom)
    else match members.get? "pattern" with
      | some (.text (first :: rest)) =>
        match members.unknownKeys ["type", "pattern"] with
        | [] => ofPattern (first :: rest) option
        | keys => .error (.ofOption option (.unexpectedKeys keys))
      | _ => .error (.ofOption option .patternMissing)
  | _ => .error (.ofOption option .typeNotCustom)

/-- The format that a value describes: the name of a shape, or an object with a pattern. -/
def ofJson (value : Json) (option : Text) : Except ConfigFailure Format :=
  match value with
  | .text name =>
    match Shape.ofName? name with
    | some shape => .ok (.builtin shape)
    | none =>
      if name = "custom" then .error (.ofOption option .customNeedsObject)
      else .error (.ofOption option (.unknownFormat name))
  | .object members => ofMembers members option
  | _ => .error (.ofOption option (.notAFormat value))

end Format

namespace Options

/-- The keys of the options. -/
def keys : List Text :=
  let others : List Text := ["maxDepth", "componentWhitelist", "whitelistCountsAsComponent"]
  Role.all.map Role.name ++ others

/-- The formats that the members give to the roles, over those given. -/
def readFormats (members : Members) : List Role → Formats → Except ConfigFailure Formats
  | [], formats => .ok formats
  | role :: rest, formats =>
    match members.get? role.name with
    | none => readFormats members rest formats
    | some value => do
      let format ← Format.ofJson value role.name
      readFormats members rest (formats.set role format)

/-- The greatest depth that the members give. -/
def readMaxDepth (members : Members) : Except ConfigFailure Nat :=
  match members.get? "maxDepth" with
  | none => .ok ({} : Options).maxDepth
  | some (.integer value) =>
    if value < 1 then .error (.ofShown "maxDepth" .depthNotPositive (.integer value))
    else .ok value.toNat
  | some value => .error (.ofShown "maxDepth" .depthNotPositive value)

/-- The texts of a list that holds nothing else. -/
def textItems? : List Json → Option (List Text)
  | [] => some []
  | .text text :: rest => (textItems? rest).map (text :: ·)
  | _ :: _ => none

/-- The whitelist that the members give: each name once, in order of code points. -/
def readWhitelist (members : Members) : Except ConfigFailure (List Text) :=
  match members.get? "componentWhitelist" with
  | none => .ok []
  | some (.list items) =>
    match textItems? items with
    | some names => .ok (Text.sortUnique names)
    | none => .error (.ofOption "componentWhitelist" .whitelistEntryNotText)
  | some _ => .error (.ofOption "componentWhitelist" .whitelistNotList)

/-- Whether names on the whitelist count as components. -/
def readCounting (members : Members) : Except ConfigFailure Bool :=
  match members.get? "whitelistCountsAsComponent" with
  | none => .ok true
  | some (.bool value) => .ok value
  | some value => .error (.ofShown "whitelistCountsAsComponent" .countingNotBool value)

/-- The options that members describe, whose keys are known. -/
def ofKnownMembers (members : Members) : Except ConfigFailure Options := do
  let formats ← readFormats members Role.all {}
  let maxDepth ← readMaxDepth members
  let whitelist ← readWhitelist members
  let whitelistCounts ← readCounting members
  .ok { formats, maxDepth, whitelist, whitelistCounts }

/-- The options that members describe. -/
def ofMembers (members : Members) : Except ConfigFailure Options :=
  match members.unknownKeys keys with
  | [] => ofKnownMembers members
  | unknown => .error (.ofProblem (.unknownOptions unknown))

/-- The options that a value describes. -/
def ofJson (value : Json) : Except ConfigFailure Options :=
  if value.isVoid then .ok {}
  else match value with
    | .object members => ofMembers members
    | _ => .error (.ofProblem (.optionsNotObject value))

/-- The custom patterns that reading the formats of the roles goes through, with their options, up
to the first mistake. -/
def customPatterns (members : Members) : List Role → List (Text × Text)
  | [] => []
  | role :: rest =>
    match members.get? role.name with
    | none => customPatterns members rest
    | some value =>
      match Format.ofJson value role.name with
      | .error _ => []
      | .ok (.builtin _) => customPatterns members rest
      | .ok (.custom source _) => (role.name, source) :: customPatterns members rest

/-- The custom patterns that reading a value as options goes through. -/
def customPatternsOf (value : Json) : List (Text × Text) :=
  match value with
  | .object members =>
    if (Members.unknownKeys members keys).isEmpty then customPatterns members Role.all else []
  | _ => []

end Options

end ClassLint
