import ClassLint.Json.Basic
import ClassLint.Text.Integer
import ClassLint.Text.Quoted

/-!
# JSON values in messages

How a message shows a value that it complains about: texts in quotes, lists in brackets and
objects in braces with a comma and a space between their entries. A value with an integer of too
many digits cannot be shown.

Values are shown at any depth of nesting: the limit that a running program has on the depth of its
recursion is left out.
-/

namespace ClassLint.Json

/-- Texts in brackets with commas between them. -/
def bracketed (texts : List Text) : Text := ['['] ++ Text.join ", " texts ++ [']']

mutual

/-- A value as a message shows it. -/
def display : Json → Text
  | .null => "None"
  | .bool true => "True"
  | .bool false => "False"
  | .integer value => Text.ofInt value
  | .floating value => value.text
  | .text value => Text.quoted value
  | .list items => bracketed (displayItems items)
  | .object members => ['\x7b'] ++ Text.join ", " (displayMembers members) ++ ['\x7d']

/-- The items of a list as a message shows them. -/
def displayItems : List Json → List Text
  | [] => []
  | item :: rest => display item :: displayItems rest

/-- The members of an object as a message shows them. -/
def displayMembers : List (Text × Json) → List Text
  | [] => []
  | (key, value) :: rest => (Text.quoted key ++ ": " ++ display value) :: displayMembers rest

end

mutual

/-- Whether a message can show a value: no integer in it has too many digits. -/
def isShowable : Json → Bool
  | .integer value => (Text.ofNat value.natAbs).length ≤ Text.digitLimit
  | .list items => itemsShowable items
  | .object members => membersShowable members
  | .null | .bool _ | .floating _ | .text _ => true

/-- Whether a message can show the items of a list. -/
def itemsShowable : List Json → Bool
  | [] => true
  | item :: rest => isShowable item && itemsShowable rest

/-- Whether a message can show the members of an object. -/
def membersShowable : List (Text × Json) → Bool
  | [] => true
  | (_, value) :: rest => isShowable value && membersShowable rest

end

end ClassLint.Json
