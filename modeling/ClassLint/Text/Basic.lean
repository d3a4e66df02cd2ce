/-!
# Texts

A text is the list of its characters, so that every reader below recurses on it directly and
every length, column and offset counts characters. String literals stand for their characters.
-/

namespace ClassLint

/-- A text: the list of its characters. -/
abbrev Text := List Char

/-- A string literal stands for its list of characters. -/
instance : Coe String Text := ⟨String.toList⟩

namespace Text

/-- The texts one after the other, with `separator` between neighbours. -/
def join (separator : Text) : List Text → Text
  | [] => []
  | [text] => text
  | text :: next :: rest => text ++ separator ++ join separator (next :: rest)

/-- What follows `lead` in a text that starts with it. -/
def after? : (lead text : Text) → Option Text
  | [], text => some text
  | _ :: _, [] => none
  | c :: lead, d :: text => if c = d then after? lead text else none

/-- Each text followed by a line break. -/
def lines (texts : List Text) : Text :=
  texts.flatMap (· ++ ['\n'])

/-- The decimal digits of a number. -/
def ofNat (n : Nat) : Text := Nat.toDigits 10 n

/-- The decimal digits of an integer, after a minus sign if it is negative. -/
def ofInt : Int → Text
  | .ofNat n => ofNat n
  | .negSucc n => '-' :: ofNat (n + 1)

/-- The digits of `n` in base sixteen, in small letters, padded with zeros to `width`. -/
def hex (width n : Nat) : Text :=
  let digits := Nat.toDigits 16 n
  List.replicate (width - digits.length) '0' ++ digits

/-- The text with the letters `A` to `Z` made small; all other characters stay. -/
def lower (text : Text) : Text := text.map Char.toLower

/-- Texts are ordered by the code point of the first character in which they differ. -/
def le : Text → Text → Bool
  | [], _ => true
  | _ :: _, [] => false
  | a :: as, b :: bs => if a = b then le as bs else decide (a.toNat < b.toNat)

/-- The distinct texts in order. -/
def sortUnique (texts : List Text) : List Text := texts.eraseDups.mergeSort le

end Text

end ClassLint
