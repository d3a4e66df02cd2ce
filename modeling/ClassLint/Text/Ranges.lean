/-!
# Tables of character ranges

A set of characters is given by the code points at which membership changes, in increasing order:
the first member, the first non-member after it, the next member, and so on.
-/

namespace ClassLint.Text

/-- Whether a number of changes of membership up to and including `n` is odd. -/
def inRanges (changes : List Nat) (n : Nat) : Bool :=
  (changes.takeWhile (· ≤ n)).length % 2 == 1

end ClassLint.Text
