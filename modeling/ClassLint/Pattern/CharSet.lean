import ClassLint.Text.Blank
import ClassLint.Text.Digit
import ClassLint.Text.LetterCase
import ClassLint.Text.Word

/-!
# Character sets

The sets of characters in patterns: single characters, ranges, and named classes, all of them or
their complement. The named classes know either the letters, digits and blanks of every script or
those of ASCII alone. A set may pass over letter case. It then compares small letters, and small
letters that share a capital are the same. This reaches as far as the basic plane; beyond it, a
character of a set is compared as it is written, so that a capital there matches nothing, and a
range compares both the small letter and its capital.
-/

namespace ClassLint

/-- The characters whose letters, digits and blanks count. -/
inductive Alphabet where
  | ascii
  | unicode
  deriving DecidableEq, Repr

namespace Alphabet

/-- The code point of the small letter. -/
def small (alphabet : Alphabet) (n : Nat) : Nat :=
  match alphabet with
  | .ascii => if 'A'.toNat ≤ n && n ≤ 'Z'.toNat then n + 32 else n
  | .unicode => Text.smallLetter n

/-- The code points that are the same as a small letter but for their case. -/
def variants (alphabet : Alphabet) (small : Nat) : List Nat :=
  match alphabet with
  | .ascii => if 'a'.toNat ≤ small && small ≤ 'z'.toNat then [small, small - 32] else [small]
  | .unicode => Text.caseVariants small

end Alphabet

/-- A class of characters with a name of its own. -/
inductive CharClass where
  | digit
  | blank
  | word
  deriving DecidableEq, Repr

namespace CharClass

/-- Whether a character of ASCII belongs to a class. -/
def holdsAscii : CharClass → Char → Bool
  | .digit, c => c.isDigit
  | .blank, c => c == ' ' || ('\t' ≤ c && c ≤ '\r')
  | .word, c => c.isAlphanum || c == '_'

/-- Whether a character belongs to a class. -/
def holds (alphabet : Alphabet) (charClass : CharClass) (c : Char) : Bool :=
  match alphabet, charClass with
  | .ascii, _ => charClass.holdsAscii c
  | .unicode, .digit => Text.isDecimalDigit c
  | .unicode, .blank => Text.isBlank c
  | .unicode, .word => Text.isWord c

end CharClass

/-- An entry of a character set: a code point, a range of them, or a class or its complement. -/
inductive SetEntry where
  | char (code : Nat)
  | range (first last : Nat)
  | named (charClass : CharClass) (alphabet : Alphabet) (negated : Bool)
  deriving DecidableEq, Repr

namespace SetEntry

/-- The first code point beyond the basic plane. -/
def planeEnd : Nat := 0x10000

/-- Whether a code point is one of those of an entry; a class has none of its own. -/
def hasCode : SetEntry → Nat → Bool
  | .char code, n => code == n
  | .range first last, n => first ≤ n && n ≤ last
  | .named _ _ _, _ => false

/-- Whether a small letter is in an entry up to letter case. -/
def holdsSmall (alphabet : Alphabet) (entry : SetEntry) (small : Nat) : Bool :=
  ((alphabet.variants small).any fun n => n < planeEnd && entry.hasCode n) ||
    match entry with
    | .char code => planeEnd ≤ code && small == code
    | .range _ last =>
      planeEnd ≤ last && (entry.hasCode small || entry.hasCode (Text.capitalLetter small))
    | .named _ _ _ => false

/-- Whether a character is in an entry; with `casing`, up to the letter case of that alphabet. -/
def holds (casing : Option Alphabet) (entry : SetEntry) (c : Char) : Bool :=
  match entry, casing with
  | .named charClass alphabet negated, _ => charClass.holds alphabet c != negated
  | _, none => entry.hasCode c.toNat
  | _, some alphabet => entry.holdsSmall alphabet (alphabet.small c.toNat)

end SetEntry

/-- The characters that are in some entry, or if `negated` in none; with `casing`, up to the letter
case of that alphabet. -/
structure CharSet where
  entries : List SetEntry
  negated : Bool := false
  casing : Option Alphabet := none
  deriving DecidableEq, Repr

namespace CharSet

/-- Whether a character is in a set. -/
def holds (chars : CharSet) (c : Char) : Bool :=
  (chars.entries.any fun entry => entry.holds chars.casing c) != chars.negated

/-- The set of one character, or of all others. A character alone stands for its small letter. -/
def single (casing : Option Alphabet) (code : Nat) (negated : Bool) : CharSet where
  entries := [.char (casing.elim code fun alphabet => alphabet.small code)]
  negated := negated
  casing := casing

/-- The set of the characters in some ranges. -/
def ofRanges (ranges : List (Char × Char)) : CharSet where
  entries := ranges.map fun (first, last) => .range first.toNat last.toNat

/-- The set of all characters. -/
def any : CharSet := { entries := [], negated := true }

/-- The set of all characters but the line feed. -/
def anyButNewline : CharSet := { entries := [.char '\n'.toNat], negated := true }

end CharSet

end ClassLint
