import ClassLint.Text.Digit
import ClassLint.Text.Basic
import ClassLint.Text.CharName.Alphabets
import ClassLint.Text.CharName.SouthernAsia
import ClassLint.Text.CharName.Syllabaries
import ClassLint.Text.CharName.Symbols
import ClassLint.Text.CharName.EasternAsia
import ClassLint.Text.CharName.Supplements
import ClassLint.Text.CharName.HistoricScripts
import ClassLint.Text.CharName.Hieroglyphs
import ClassLint.Text.CharName.Notation
import ClassLint.Text.CharName.Pictographs
import ClassLint.Text.CharName.FurtherNames

/-!
# Names of characters

The names by which patterns write characters, as of version 14 of the character database: those in
the tables, the ideographs and signs that are numbered by their code points, and the syllables of
Hangul, which are named by their letters. Letter case does not matter but for the names of unified
ideographs and of syllables of Hangul. Names of rows of several characters write no character.

A table of names is a row of entries divided by semicolons. An entry that starts with a commercial
at sign gives the code point of the name behind it in base sixteen. Any other entry is a name, of
the code point after the last one: a digit tells how many words it has in common with the name
before, and its other words follow.
-/

namespace ClassLint.Text

/-! ## Tables -/

/-- The texts between the characters `separator`. -/
def cutAt (separator : Char) : Text → List Text
  | [] => [[]]
  | c :: rest =>
    if c = separator then [] :: cutAt separator rest
    else match cutAt separator rest with
      | [] => [[c]]
      | text :: texts => (c :: text) :: texts

/-- The words that an entry writes, which may be none. -/
def writtenWords (written : Text) : List Text :=
  if written.isEmpty then [] else cutAt ' ' written

/-- The code point that the entries of a table give to the name with some words, from the code point
of the next name and the words of the last one on. -/
def findWords? (name : List Text) (code : Nat) (last : List Text) : List Text → Option Nat
  | [] => none
  | [] :: rest => findWords? name code last rest
  | (mark :: written) :: rest =>
    if mark = '@' then findWords? name (ofDigits 16 written) last rest
    else
      let words := last.take (ofDigits 10 [mark]) ++ writtenWords written
      if words = name then some code else findWords? name (code + 1) words rest

/-- The code point that a table gives to the name with some words. -/
def findInTable? (name : List Text) (table : List String) : Option Nat :=
  findWords? name 0 [] (table.flatMap fun line => cutAt ';' line.toList)

/-- The tables of names. -/
def nameTables : List (List String) :=
  [alphabetNames, southernAsianNames, syllabaryNames, symbolNames, easternAsianNames,
    supplementNames, historicNames, hieroglyphNames, notationNames, pictographNames, furtherNames]

/-! ## Numbered characters -/

/-- Whether a character is a digit in base sixteen with a capital. -/
def isCapitalHexDigit (c : Char) : Bool := c.isDigit || ('A' ≤ c && c ≤ 'F')

/-- The code point that a name writes behind `lead` in four or five digits, if it is in one of the
ranges. -/
def numberBehind? (lead : String) (ranges : List (Nat × Nat)) (name : Text) : Option Nat := do
  let digits ← after? lead.toList name
  let code := ofDigits 16 digits
  if (digits.length == 4 || digits.length == 5) && digits.all isCapitalHexDigit &&
      (ranges.any fun (first, last) => first ≤ code && code ≤ last) then some code
  else none

/-- The ranges of the unified ideographs. -/
def unifiedIdeographs : List (Nat × Nat) := [
    (0x3400, 0x4DBF), (0x4E00, 0x9FFF), (0x20000, 0x2A6DF), (0x2A700, 0x2B738), (0x2B740, 0x2B81D),
    (0x2B820, 0x2CEA1), (0x2CEB0, 0x2EBE0), (0x30000, 0x3134A)]

/-- How the names of the other numbered characters start, and their ranges. -/
def numberedRanges : List (String × List (Nat × Nat)) := [
    ("CJK COMPATIBILITY IDEOGRAPH-", [(0xF900, 0xFA6D), (0xFA70, 0xFAD9), (0x2F800, 0x2FA1D)]),
    ("KHITAN SMALL SCRIPT CHARACTER-", [(0x18B00, 0x18CD5)]),
    ("NUSHU CHARACTER-", [(0x1B170, 0x1B2FB)])]

/-- The code point of a numbered character by its name. Only the number of a unified ideograph may
have a zero in front. -/
def numbered? (name capitals : Text) : Option Nat :=
  (numberBehind? "CJK UNIFIED IDEOGRAPH-" unifiedIdeographs name).or
    (numberedRanges.findSome? fun (lead, ranges) => do
      let code ← numberBehind? lead ranges capitals
      if (after? lead.toList capitals).any (·.head? == some '0') then none else some code)

/-! ## Syllables of Hangul -/

/-- The letters that start a syllable, in order. -/
def hangulInitials : List String :=
  ["G", "GG", "N", "D", "DD", "R", "M", "B", "BB", "S", "SS", "", "J", "JJ", "C", "K", "T", "P", "H"]

/-- The vowels of syllables, in order. -/
def hangulVowels : List String :=
  ["A", "AE", "YA", "YAE", "EO", "E", "YEO", "YE", "O", "WA", "WAE", "OE", "YO", "U", "WEO", "WE",
    "WI", "YU", "EU", "YI", "I"]

/-- The letters that end a syllable, in order. -/
def hangulFinals : List String :=
  ["", "G", "GG", "GS", "N", "NJ", "NH", "D", "L", "LG", "LM", "LB", "LS", "LT", "LP", "LH", "M",
    "B", "BS", "S", "SS", "NG", "J", "C", "K", "T", "P", "H"]

/-- Whether a character belongs to the vowel of a syllable. -/
def isHangulVowel (c : Char) : Bool := "AEIOUWY".toList.contains c

/-- The place of a text among some. -/
def placeOf? (text : Text) (texts : List String) : Option Nat :=
  texts.findIdx? fun other => other.toList == text

/-- The code point of a syllable by its name. -/
def syllable? (name : Text) : Option Nat := do
  let letters ← after? "HANGUL SYLLABLE ".toList name
  let behind := letters.dropWhile fun c => !isHangulVowel c
  let first ← placeOf? (letters.takeWhile fun c => !isHangulVowel c) hangulInitials
  let vowel ← placeOf? (behind.takeWhile isHangulVowel) hangulVowels
  let final ← placeOf? (behind.dropWhile isHangulVowel) hangulFinals
  some (0xAC00 + (first * hangulVowels.length + vowel) * hangulFinals.length + final)

/-! ## All names -/

/-- The code point of the character with a name. -/
def characterNamed? (name : Text) : Option Nat :=
  let capitals := name.map Char.toUpper
  (nameTables.findSome? (findInTable? (cutAt ' ' capitals))).or
    ((numbered? name capitals).or (syllable? name))

end ClassLint.Text
