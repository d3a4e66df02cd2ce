import ClassLint.Text.Blank
import ClassLint.Text.Digit

/-!
# Reading integers

An integer may stand between blanks and have a sign; its digits may be those of any script, with
single underscores between them. The four separators before the space are not blank here. The
number of digits is limited, and zeros at the start count.
-/

namespace ClassLint.Text

/-- The greatest number of digits of a written integer. -/
def digitLimit : Nat := 4300

/-- The report of an integer with too many digits. -/
def longNumberMessage (digits : Nat) : Text :=
  "Exceeds the limit (" ++ ofNat digitLimit ++ " digits) for integer string conversion: " ++
    "value has " ++ ofNat digits ++ " digits; use sys.set_int_max_str_digits() to increase the limit"

/-- The report of an integer that has too many digits to be shown. -/
def unshowableNumberMessage : Text :=
  "Exceeds the limit (" ++ ofNat digitLimit ++ " digits) for integer string conversion; " ++
    "use sys.set_int_max_str_digits() to increase the limit"

/-- Whether a character may stand around an integer. -/
def isIntegerSpace (c : Char) : Bool := isBlank c && !(0x1C ≤ c.toNat && c.toNat ≤ 0x1F)

/-- The text without what may stand around an integer. -/
def stripIntegerSpace (text : Text) : Text :=
  ((text.dropWhile isIntegerSpace).reverse.dropWhile isIntegerSpace).reverse

/-- The values of digits with single underscores between them. -/
def digitValues? : Text → Option (List Nat)
  | [] => none
  | [c] => (digitValue? c).map ([·])
  | c :: '_' :: rest => do
    let value ← digitValue? c
    let values ← digitValues? rest
    some (value :: values)
  | c :: rest => do
    let value ← digitValue? c
    let values ← digitValues? rest
    some (value :: values)

/-- The number that digits write, if they are not too many. -/
def readDigits? (text : Text) : Option Nat := do
  let values ← digitValues? text
  if values.length ≤ digitLimit then some (values.foldl (fun number value => 10 * number + value) 0)
  else none

/-- The integer that a text writes. -/
def readInteger? (text : Text) : Option Int :=
  match stripIntegerSpace text with
  | '-' :: digits => (readDigits? digits).map fun number => -(number : Int)
  | '+' :: digits => (readDigits? digits).map Int.ofNat
  | digits => (readDigits? digits).map Int.ofNat

end ClassLint.Text
