import ClassLint.Command.Run

/-!
# The command line

The outer layer: it looks up the paths that the arguments can name, runs the program on what it
found, prints, and gives the exit code.
-/

namespace ClassLint

/-- The paths that an argument can name: itself, and its value after an equals sign. -/
def candidatePaths (argument : Text) : List Text :=
  let paths := argument :: (CommandLine.splitValue argument).2.toList
  paths ++ paths.map Path.normalize

/-- Look up a path. A directory cannot be read, and neither can a path below a file. -/
def lookUp (path : Text) : IO Entry := do
  if path.contains '\x00' then return .nullInPath
  try
    let bytes ← IO.FS.readBinFile (String.ofList path)
    return .file bytes.toList
  catch error =>
    match error with
    | .inappropriateType _ code _ => return if code = 21 then .directory else .belowFile
    | .invalidArgument _ code _ => return if code = 36 then .nameTooLong else .missing
    | _ => return .missing

/-- Look up all paths that the arguments can name. -/
def lookUpAll (arguments : List Text) : IO Files := do
  let paths := (arguments.flatMap candidatePaths).eraseDups
  let entries ← paths.mapM fun path => do return (path, ← lookUp path)
  return fun path => (entries.lookup path).getD .missing

/-- Print the end of a run and give its exit code. -/
def finish : Outcome → IO UInt32
  | .exited code output errors => do
    IO.print (String.ofList output)
    IO.eprint (String.ofList errors)
    return UInt32.ofNat code
  | .misused error => do
    IO.eprintln ("Error: " ++ String.ofList error.message)
    return 2
  | .crashed failure output errors => do
    IO.print (String.ofList output)
    IO.eprint (String.ofList errors)
    IO.eprintln (String.ofList failure.message)
    return 1

end ClassLint

/-- Run the program on the process's arguments. -/
def main (arguments : List String) : IO UInt32 := do
  let texts := arguments.map String.toList
  ClassLint.finish (ClassLint.run (← ClassLint.lookUpAll texts) texts)
