import ClassLint.Text.Quoted
import ClassLint.Text.Utf8

/-!
# Files

What the program sees of the world: the entry that a path names. A path with a null character
cannot even be asked for. A text file is UTF-8, and its line ends are read as line feeds.
-/

namespace ClassLint

/-- What a path names. -/
inductive Entry where
  | missing
  | belowFile
  | nameTooLong
  | nullInPath
  | directory
  | file (bytes : List UInt8)
  deriving DecidableEq, Repr

/-- The entries by path. -/
abbrev Files := Text → Entry

/-- The causes for which a path cannot be opened. -/
inductive OpenFault where
  | missing
  | belowFile
  | nameTooLong
  | directory
  deriving DecidableEq, Repr

/-- The number and the wording of a cause. -/
def OpenFault.text : OpenFault → Text
  | .missing => "[Errno 2] No such file or directory"
  | .belowFile => "[Errno 20] Not a directory"
  | .nameTooLong => "[Errno 36] File name too long"
  | .directory => "[Errno 21] Is a directory"

/-- The causes for which a text file cannot be read. -/
inductive ReadError where
  | cannotOpen (fault : OpenFault) (path : Text)
  | nullInPath
  | undecodable (fault : Utf8.Fault)
  deriving DecidableEq, Repr

/-- The report of a path with a null character. -/
def nullInPathMessage : Text := "embedded null byte"

/-- The report of a cause. -/
def ReadError.message : ReadError → Text
  | .cannotOpen fault path => fault.text ++ ": " ++ Text.quoted path
  | .nullInPath => nullInPathMessage
  | .undecodable fault => fault.message

namespace Files

/-- The bytes of the file that a path names. -/
def readBytes (files : Files) (path : Text) : Except ReadError (List UInt8) :=
  match files path with
  | .missing => .error (.cannotOpen .missing path)
  | .belowFile => .error (.cannotOpen .belowFile path)
  | .nameTooLong => .error (.cannotOpen .nameTooLong path)
  | .nullInPath => .error .nullInPath
  | .directory => .error (.cannotOpen .directory path)
  | .file bytes => .ok bytes

/-- The text of the file that a path names. -/
def readText (files : Files) (path : Text) : Except ReadError Text := do
  let bytes ← files.readBytes path
  match Utf8.decode bytes with
  | .ok text => .ok (Utf8.normalizeNewlines text)
  | .error fault => .error (.undecodable fault)

/-- The text of a file is what its bytes encode, with line feeds as the only ends of lines. -/
theorem readText_of_file {files : Files} {path : Text} {bytes : List UInt8}
    (h : files path = .file bytes) :
    files.readText path =
      match Utf8.decode bytes with
      | .ok text => .ok (Utf8.normalizeNewlines text)
      | .error fault => .error (.undecodable fault) := by
  rw [readText, readBytes, h]
  rfl

end Files

end ClassLint
