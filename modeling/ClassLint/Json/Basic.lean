import ClassLint.Decimal.Shortest

/-!
# JSON values

The members of an object keep the order in which their keys first appeared; a whole number
without fraction and exponent is an integer, any other number is floating.
-/

namespace ClassLint

/-- A JSON value. -/
inductive Json where
  | null
  | bool (value : Bool)
  | integer (value : Int)
  | floating (value : Floating)
  | text (value : Text)
  | list (items : List Json)
  | object (members : List (Text × Json))

/-- The members of an object, in order. -/
abbrev Members := List (Text × Json)

namespace Members

/-- The keys in order. -/
def keys (members : Members) : List Text := members.map Prod.fst

/-- The value of a key. -/
def get? (members : Members) (key : Text) : Option Json := members.lookup key

/-- Give a key a value: at the key's place if it has one, at the end otherwise. -/
def put (members : Members) (key : Text) (value : Json) : Members :=
  match members with
  | [] => [(key, value)]
  | (other, old) :: rest =>
    if other = key then (key, value) :: rest else (other, old) :: put rest key value

/-- The members that a sequence of keys and values leaves: of a repeated key the last value, at
the place of the first. -/
def ofList (entries : List (Text × Json)) : Members :=
  entries.foldl (fun members (key, value) => put members key value) []

/-- The keys that are not among `known`, each once, in order of code points. -/
def unknownKeys (members : Members) (known : List Text) : List Text :=
  Text.sortUnique (members.keys.filter fun key => !known.contains key)

end Members

namespace Json

/-- Whether a value stands for nothing given: null, false, a zero, or something without content. -/
def isVoid : Json → Bool
  | .null => true
  | .bool value => !value
  | .integer value => value == 0
  | .floating value => value.isZero
  | .text value => value.isEmpty
  | .list items => items.isEmpty
  | .object members => members.isEmpty

/-- The sort of a value, by the name that messages use. -/
def kindName : Json → Text
  | .null => "NoneType"
  | .bool _ => "bool"
  | .integer _ => "int"
  | .floating _ => "float"
  | .text _ => "str"
  | .list _ => "list"
  | .object _ => "dict"

end Json

end ClassLint
