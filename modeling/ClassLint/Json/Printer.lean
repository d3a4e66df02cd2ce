import ClassLint.Json.Basic

/-!
# Printing JSON

JSON text over several lines: every entry of a list or an object stands on a line of its own,
indented by two spaces for each level, and an empty list or object stays on its line. The text
is plain ASCII: every other character is escaped by the four base-sixteen digits of its UTF-16
units.
-/

namespace ClassLint.Json

/-- The escape of one UTF-16 unit. -/
def unitEscape (unit : Nat) : Text := "\\u" ++ Text.hex 4 unit

/-- A character as it is printed inside a string. -/
def printChar (c : Char) : Text :=
  if c = '"' then "\\\""
  else if c = '\\' then "\\\\"
  else if c = '\n' then "\\n"
  else if c = '\r' then "\\r"
  else if c = '\t' then "\\t"
  else if c = '\x0c' then "\\f"
  else if c = '\x08' then "\\b"
  else if ' ' ≤ c && c ≤ '~' then [c]
  else if c.toNat < 0x10000 then unitEscape c.toNat
  else
    let offset := c.toNat - 0x10000
    unitEscape (0xD800 + offset / 0x400) ++ unitEscape (0xDC00 + offset % 0x400)

/-- A text as a JSON string. -/
def printText (text : Text) : Text := ['"'] ++ text.flatMap printChar ++ ['"']

/-- A line break and the indentation of a level. -/
def newline (level : Nat) : Text := '\n' :: List.replicate (2 * level) ' '

/-- Entries between two brackets, each on its own line one level deeper. -/
def enclose (level : Nat) (opening closing : Char) (entries : List Text) : Text :=
  match entries with
  | [] => [opening, closing]
  | _ :: _ =>
    [opening] ++ newline (level + 1) ++ Text.join (',' :: newline (level + 1)) entries ++
      newline level ++ [closing]

mutual

/-- A value printed at a level of indentation. -/
def print (level : Nat) : Json → Text
  | .null => "null"
  | .bool true => "true"
  | .bool false => "false"
  | .integer value => Text.ofInt value
  | .floating value => value.text
  | .text value => printText value
  | .list items => enclose level '[' ']' (printItems (level + 1) items)
  | .object members => enclose level '\x7b' '\x7d' (printMembers (level + 1) members)

/-- The items of a list printed at a level. -/
def printItems (level : Nat) : List Json → List Text
  | [] => []
  | item :: rest => print level item :: printItems level rest

/-- The members of an object printed at a level. -/
def printMembers (level : Nat) : List (Text × Json) → List Text
  | [] => []
  | (key, value) :: rest =>
    (printText key ++ ": " ++ print level value) :: printMembers level rest

end

end ClassLint.Json
