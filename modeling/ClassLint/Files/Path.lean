import ClassLint.Text.Basic

/-!
# Paths

A path is tidied by dropping empty parts and parts that name the directory they stand in. Parts
that name the directory above are kept, and so are exactly two slashes at the start.
-/

namespace ClassLint.Path

/-- The parts of a path between its slashes. -/
def parts : Text → List Text
  | [] => [[]]
  | c :: rest =>
    if c = '/' then [] :: parts rest
    else match parts rest with
      | [] => [[c]]
      | part :: others => (c :: part) :: others

/-- The slashes that a tidied path starts with. -/
def root : Text → Text
  | '/' :: '/' :: '/' :: _ => ['/']
  | '/' :: '/' :: _ => ['/', '/']
  | '/' :: _ => ['/']
  | _ => []

/-- The tidied path; a path without parts names the current directory. -/
def normalize (path : Text) : Text :=
  let kept := (parts path).filter fun part => part ≠ [] ∧ part ≠ ['.']
  match root path ++ Text.join ['/'] kept with
  | [] => ['.']
  | tidied => tidied

end ClassLint.Path
