import ClassLint.Files.Basic
import ClassLint.Text.Quoted

/-!
# Command-line arguments

The grammar of a command line. An argument that starts with a hyphen and is longer than it is an
option; a double hyphen ends the options. The value of an option is the next argument, whatever
it is, or stands after an equals sign. Options of one hyphen are single letters without values and
may be written together. A command that has commands of its own takes no options after the first
argument that is none.
-/

namespace ClassLint

/-- The ways to misuse the command line. -/
inductive UsageError where
  | noSuchOption (name : Text)
  | noSuchCommand (name : Text)
  | valueMissing (option : Text)
  | valueNotTaken (option : Text)
  | argumentMissing (name : Text)
  | badValue (parameter reason : Text)
  | extraArguments (arguments : List Text)
  | commandMissing
  | nullInPath
  deriving DecidableEq, Repr

/-- The report of a misuse. -/
def UsageError.message : UsageError → Text
  | .noSuchOption name => "No such option " ++ Text.quoted name ++ "."
  | .noSuchCommand name => "No such command " ++ Text.quoted name ++ "."
  | .valueMissing option => "Option " ++ Text.quoted option ++ " requires an argument."
  | .valueNotTaken option => "Option " ++ Text.quoted option ++ " does not take a value."
  | .argumentMissing name => "Missing argument '" ++ name ++ "'."
  | .badValue parameter reason => "Invalid value for '" ++ parameter ++ "': " ++ reason
  | .extraArguments arguments =>
    let noun : Text := if arguments.length = 1 then "argument" else "arguments"
    "Got unexpected extra " ++ noun ++ " (" ++ Text.join " " arguments ++ ")"
  | .commandMissing => "Missing command."
  | .nullInPath => nullInPathMessage

/-- An option: its name with hyphens, the letter for it, and whether it takes a value. -/
structure OptionSpec where
  name : Text
  letter : Option Char := none
  takesValue : Bool := true
  deriving DecidableEq, Repr

/-- An option on a command line, with its value if it takes one. -/
structure GivenOption where
  name : Text
  value : Text := []
  deriving DecidableEq, Repr

/-- What a command line gives: options in order, and the other arguments in order. -/
structure Given where
  options : List GivenOption := []
  arguments : List Text := []
  deriving DecidableEq, Repr

namespace Given

/-- Put an option first. -/
def pushOption (given : Given) (option : GivenOption) : Given :=
  { given with options := option :: given.options }

/-- Put an argument first. -/
def pushArgument (given : Given) (argument : Text) : Given :=
  { given with arguments := argument :: given.arguments }

/-- The values given to an option, in order. -/
def valuesOf (given : Given) (name : Text) : List Text :=
  (given.options.filter fun option => option.name == name).map GivenOption.value

/-- Whether an option is given. -/
def has (given : Given) (name : Text) : Bool := given.options.any fun option => option.name == name

/-- The names of the options, each once, in order of their first appearance. -/
def optionNames (given : Given) : List Text := (given.options.map GivenOption.name).eraseDups

end Given

namespace CommandLine

/-- Whether an argument is written like an option. -/
def isOption : Text → Bool
  | '-' :: _ :: _ => true
  | _ => false

/-- An argument before its first equals sign, and what follows the sign. -/
def splitValue (argument : Text) : Text × Option Text :=
  let name := argument.takeWhile (· ≠ '=')
  match argument.drop name.length with
  | [] => (argument, none)
  | _ :: value => (name, some value)

/-- The options that letters after one hyphen stand for. -/
def letterOptions (specs : List OptionSpec) : Text → Except UsageError (List GivenOption)
  | [] => .ok []
  | c :: rest =>
    match specs.find? fun spec => spec.letter == some c with
    | none => .error (.noSuchOption ['-', c])
    | some spec => do
      let others ← letterOptions specs rest
      .ok ({ name := spec.name } :: others)

/-- Read a command line. With `interspersed`, options may follow other arguments. -/
def read (specs : List OptionSpec) (interspersed : Bool) : List Text → Except UsageError Given
  | [] => .ok {}
  | argument :: rest =>
    if argument = "--" then .ok { arguments := rest }
    else if !isOption argument then
      if interspersed then (read specs interspersed rest).map (·.pushArgument argument)
      else .ok { arguments := argument :: rest }
    else
      let (name, value?) := splitValue argument
      match specs.find? fun spec => spec.name == name with
      | none =>
        if (Text.after? "--" argument).isSome then .error (.noSuchOption name)
        else do
          let letters ← letterOptions specs (argument.drop 1)
          let given ← read specs interspersed rest
          .ok { given with options := letters ++ given.options }
      | some spec =>
        match spec.takesValue, value? with
        | true, some value => (read specs interspersed rest).map (·.pushOption ⟨name, value⟩)
        | true, none =>
          match rest with
          | [] => .error (.valueMissing name)
          | value :: after => (read specs interspersed after).map (·.pushOption ⟨name, value⟩)
        | false, some _ => .error (.valueNotTaken name)
        | false, none => (read specs interspersed rest).map (·.pushOption { name })

end CommandLine

end ClassLint
