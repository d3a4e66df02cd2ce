import ClassLint.Files.Basic
import ClassLint.Files.Path

/-!
# File trees

A set of files and directories below a current directory, and how a path is followed in it. A
directory exists if it is listed or if something is listed below it. Names and paths have a
greatest length, in bytes. Of what lies above the current directory only the directories
themselves are known, and of a path from the root only what every system has: some directories,
and a device that is always empty.
-/

namespace ClassLint

/-- A listed file or directory: the parts of its path, and the bytes of a file. -/
structure ListedEntry where
  path : List Text
  content : Option (List UInt8)
  deriving DecidableEq, Repr

/-- The listed entries of a file tree. -/
abbrev FileTree := List ListedEntry

namespace FileTree

/-- What a path without dots names, by its parts. -/
def entryAt (tree : FileTree) (path : List Text) : Entry :=
  match tree.find? fun listed => listed.path == path with
  | some ⟨_, some bytes⟩ => .file bytes
  | some ⟨_, none⟩ => .directory
  | none => if tree.any fun listed => path.isPrefixOf listed.path then .directory else .missing

/-- The greatest number of bytes of a name. -/
def nameLimit : Nat := 255

/-- The number of bytes from which on a path is too long. -/
def pathLimit : Nat := 4096

/-- The number of bytes of a text. -/
def byteCount (text : Text) : Nat := text.foldl (fun count c => count + c.utf8Size) 0

/-- Follow the parts of a path from a directory, given by its parts, or from above the current
directory. -/
def follow (tree : FileTree) : Option (List Text) → List Text → Entry
  | _, [] => .directory
  | directory, part :: rest =>
    if part = [] ∨ part = ['.'] then follow tree directory rest
    else if part = ['.', '.'] then
      match directory with
      | none | some [] => follow tree none rest
      | some inside => follow tree (some inside.dropLast) rest
    else if nameLimit < byteCount part then .nameTooLong
    else match directory with
      | none => .missing
      | some inside =>
        match tree.entryAt (inside ++ [part]) with
        | .file bytes => if rest.isEmpty then .file bytes else .belowFile
        | .directory => follow tree (some (inside ++ [part])) rest
        | other => other

/-- What lies below the root on every system. -/
def system : FileTree :=
  let directories : List Text :=
    ["bin", "dev", "etc", "home", "lib", "opt", "proc", "root", "tmp", "usr", "var"]
  ⟨["dev", "null"], some []⟩ :: directories.map fun name => ⟨[name], none⟩

/-- The entries of a tree by path. -/
def files (tree : FileTree) : Files := fun path =>
  if path.contains '\x00' then .nullInPath
  else if pathLimit ≤ byteCount path then .nameTooLong
  else match path with
    | [] => .missing
    | '/' :: rest => system.follow (some []) (Path.parts rest)
    | _ => tree.follow (some []) (Path.parts path)

/-- The listed entry of a name; one that ends in a slash is a directory. -/
def listed (name : Text) (bytes : List UInt8) : ListedEntry where
  path := (Path.parts name).filter fun part => part ≠ [] ∧ part ≠ ['.']
  content := if name.getLast? = some '/' then none else some bytes

end FileTree

end ClassLint
