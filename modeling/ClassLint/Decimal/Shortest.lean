import ClassLint.Decimal.Binary64
import ClassLint.Text.Basic

/-!
# The shortest decimal of a double

A double-precision number is written with the fewest digits that read back as the same number,
and among those with the digits nearest to it. Exponents from -4 to 15 are written positionally,
with at least one digit after the point; others with a signed exponent of at least two digits.
-/

namespace ClassLint

namespace Binary64

/-- Compare `a * 2 ^ binary` with `b * 10 ^ decimal`. -/
def comparePowers (a : Nat) (binary : Int) (b : Nat) (decimal : Int) : Ordering :=
  compareOfLessAndEq (a * twoTo binary.toNat * tenTo (-decimal).toNat)
    (b * tenTo decimal.toNat * twoTo (-binary).toNat)

/-- Whether `digits * 10 ^ decimal` reads back as the double `value`. -/
def readsBack (value : Dyadic) (digits : Nat) (decimal : Int) : Bool :=
  let narrow := value.mantissa = twoTo (precision - 1) && value.exponent > leastExponent
  let below := 4 * value.mantissa - if narrow then 1 else 2
  let lower := comparePowers below (value.exponent - 2) digits decimal
  let upper := comparePowers (4 * value.mantissa + 2) (value.exponent - 2) digits decimal
  if value.mantissa % 2 = 0 then lower != .gt && upper != .lt else lower == .lt && upper == .gt

/-- The whole number of times that `10 ^ decimal` goes into the double `value`. -/
def floorAt (value : Dyadic) (decimal : Int) : Nat :=
  (value.mantissa * twoTo value.exponent.toNat * tenTo (-decimal).toNat) /
    (tenTo decimal.toNat * twoTo (-value.exponent).toNat)

/-- The multiple of `10 ^ decimal` next to the double `value` that reads back as it, if one does:
the nearer of two, and the even one of two that are equally near. -/
def neighbour? (value : Dyadic) (decimal : Int) : Option Nat :=
  let below := floorAt value decimal
  match readsBack value below decimal, readsBack value (below + 1) decimal with
  | true, true =>
    match comparePowers (2 * value.mantissa) value.exponent (2 * below + 1) decimal with
    | .lt => some below
    | .gt => some (below + 1)
    | .eq => some (if below % 2 = 0 then below else below + 1)
  | true, false => some below
  | false, true => some (below + 1)
  | false, false => none

/-- The first neighbour that reads back, on ever finer grids from `10 ^ decimal` down. -/
def search (value : Dyadic) : Nat → Int → Decimal
  | 0, decimal => { digits := floorAt value decimal, exponent := decimal }
  | fuel + 1, decimal =>
    match neighbour? value decimal with
    | some digits => { digits := digits, exponent := decimal }
    | none => search value fuel (decimal - 1)

/-- The shortest decimal that reads back as a double. -/
def shortest (value : Dyadic) : Decimal :=
  let estimate := ((value.mantissa.log2 : Int) + value.exponent) * 30103 / 100000
  search value 24 (estimate + 2)

end Binary64

namespace Decimal

/-- The digits with a point `places` digits from the left, which lies inside or outside of them. -/
def positional (digits : Text) (places : Int) : Text :=
  if places ≤ 0 then "0." ++ List.replicate (-places).toNat '0' ++ digits
  else if places.toNat < digits.length then
    digits.take places.toNat ++ ['.'] ++ digits.drop places.toNat
  else digits ++ List.replicate (places.toNat - digits.length) '0' ++ ".0"

/-- The digits with the point after the first one and a signed exponent. -/
def scientific (digits : Text) (exponent : Int) : Text :=
  let sign := if exponent < 0 then '-' else '+'
  let magnitude := Text.ofNat exponent.natAbs
  let padding := List.replicate (2 - magnitude.length) '0'
  digits.take 1 ++ (if digits.length > 1 then '.' :: digits.drop 1 else []) ++
    ['e', sign] ++ padding ++ magnitude

/-- A positive decimal as it is shown. -/
def magnitudeText (decimal : Decimal) : Text :=
  let digits := Text.ofNat decimal.digits
  let places := digits.length + decimal.exponent
  if -4 < places && places ≤ 16 then positional digits places else scientific digits (places - 1)

end Decimal

namespace Floating

/-- A minus sign for a negative number. -/
def signText (negative : Bool) : Text := if negative then ['-'] else []

/-- A floating-point number as it is shown: that of the double nearest to it. -/
def text : Floating → Text
  | .finite decimal =>
    signText decimal.negative ++
      match Binary64.nearest decimal.digits decimal.exponent with
      | .zero => "0.0"
      | .infinite => "inf"
      | .finite value => (Binary64.shortest value).magnitudeText
  | .infinity negative => signText negative ++ "inf"
  | .nan => "nan"

/-- Whether the double nearest to a floating-point number is zero. -/
def isZero : Floating → Bool
  | .finite decimal => Binary64.nearest decimal.digits decimal.exponent == .zero
  | _ => false

end Floating

end ClassLint
