/-!
# Decimal numbers

A decimal is kept exactly as it is written: sign, digits and a power of ten. Beside it stand the
two infinities and the value that is not a number.
-/

namespace ClassLint

/-- The number `digits * 10 ^ exponent`, negated if `negative`. -/
structure Decimal where
  negative : Bool := false
  digits : Nat
  exponent : Int := 0
  deriving DecidableEq, Repr

/-- A floating-point number as it is written. -/
inductive Floating where
  | finite (decimal : Decimal)
  | infinity (negative : Bool)
  | nan
  deriving DecidableEq, Repr

end ClassLint
