import ClassLint.Text.Basic

/-!
# Blank characters

Two sets of white space. The larger one is what a text is trimmed of: the controls from tab to
carriage return, the four separators before the space, and every space, line and paragraph
separator of the standard. The zero-width space and the byte order mark are not in it. The smaller
one is the white space of style sheets.
-/

namespace ClassLint.Text

/-- Whether a character is white space to `strip`. -/
def isBlank (c : Char) : Bool :=
  let n := c.toNat
  (0x09 ≤ n && n ≤ 0x0D) || (0x1C ≤ n && n ≤ 0x20) || n == 0x85 || n == 0xA0 || n == 0x1680 ||
    (0x2000 ≤ n && n ≤ 0x200A) || n == 0x2028 || n == 0x2029 || n == 0x202F || n == 0x205F ||
    n == 0x3000

/-- White space of style sheets: space, tab, line feed, carriage return and form feed. -/
def isSheetSpace (c : Char) : Bool :=
  c == ' ' || c == '\t' || c == '\n' || c == '\r' || c == '\x0c'

/-- The text without the blanks at its end. -/
def stripRight (text : Text) : Text := (text.reverse.dropWhile isBlank).reverse

/-- The text without the blanks at its two ends. -/
def strip (text : Text) : Text := stripRight (text.dropWhile isBlank)

end ClassLint.Text
