import ClassLint.Text.Basic
import ClassLint.Text.Printable

/-!
# Quoted texts

A text inside a message stands in single quotes, or in double quotes if it holds single quotes
and no double quotes. Backslashes and the quote in use are escaped by a backslash, line feed,
carriage return and tab by their letters, and every other character that is not printable by its
code point in base sixteen, with two, four or eight digits.
-/

namespace ClassLint.Text

/-- The quote that a text is put in. -/
def quoteFor (text : Text) : Char :=
  if text.contains '\'' && !text.contains '"' then '"' else '\''

/-- A character as it is written between the given quotes. -/
def escapeChar (quote c : Char) : Text :=
  if c = quote || c = '\\' then ['\\', c]
  else if c = '\n' then "\\n"
  else if c = '\r' then "\\r"
  else if c = '\t' then "\\t"
  else if isPrintable c then [c]
  else if c.toNat < 0x100 then "\\x" ++ hex 2 c.toNat
  else if c.toNat < 0x10000 then "\\u" ++ hex 4 c.toNat
  else "\\U" ++ hex 8 c.toNat

/-- A text in quotes. -/
def quoted (text : Text) : Text :=
  let quote := quoteFor text
  [quote] ++ text.flatMap (escapeChar quote) ++ [quote]

end ClassLint.Text
