import ClassLint.Decimal.Basic

/-!
# Double precision

The double-precision number nearest to a decimal, by exact arithmetic on natural numbers: 53
bits, ties to the even neighbour, gradual underflow below the least normal number, and infinity
past the greatest number.
-/

namespace ClassLint

/-- The positive number `mantissa * 2 ^ exponent`. -/
structure Dyadic where
  mantissa : Nat
  exponent : Int
  deriving DecidableEq, Repr

/-- The magnitude of a double-precision number. -/
inductive Magnitude where
  | zero
  | finite (value : Dyadic)
  | infinite
  deriving DecidableEq, Repr

namespace Binary64

/-- The number of bits of a normal mantissa. -/
def precision : Nat := 53

/-- The exponent of the least positive number. -/
def leastExponent : Int := -1074

/-- The exponent of the greatest number. -/
def greatestExponent : Int := 971

/-- A power of two. -/
def twoTo (n : Nat) : Nat := Nat.pow 2 n

/-- A power of ten. -/
def tenTo (n : Nat) : Nat := Nat.pow 10 n

/-- A quotient rounded to the nearest whole number; a tie goes to the even one. -/
def roundDiv (numerator denominator : Nat) : Nat :=
  let quotient := numerator / denominator
  let twice := 2 * (numerator % denominator)
  if twice > denominator || (twice == denominator && quotient % 2 == 1) then quotient + 1
  else quotient

/-- The greatest `k` with `2 ^ k ≤ numerator / denominator`. -/
def floorLog2 (numerator denominator : Nat) : Int :=
  let estimate : Int := (numerator.log2 : Int) - (denominator.log2 : Int)
  let below :=
    if estimate ≥ 0 then numerator < denominator * twoTo estimate.toNat
    else numerator * twoTo (-estimate).toNat < denominator
  if below then estimate - 1 else estimate

/-- The double-precision number nearest to a positive fraction. -/
def ofFraction (numerator denominator : Nat) : Magnitude :=
  let normal := floorLog2 numerator denominator + 1 - precision
  let exponent := if normal < leastExponent then leastExponent else normal
  let mantissa :=
    if exponent ≥ 0 then roundDiv numerator (denominator * twoTo exponent.toNat)
    else roundDiv (numerator * twoTo (-exponent).toNat) denominator
  let (mantissa, exponent) :=
    if mantissa = twoTo precision then (twoTo (precision - 1), exponent + 1)
    else (mantissa, exponent)
  if mantissa = 0 then .zero
  else if exponent > greatestExponent then .infinite
  else .finite ⟨mantissa, exponent⟩

/-- The magnitude of the double-precision number nearest to `digits * 10 ^ exponent`. Numbers far
outside the range are decided by their number of digits alone. -/
def nearest (digits : Nat) (exponent : Int) : Magnitude :=
  let size : Int := (Nat.toDigits 10 digits).length + exponent
  if digits = 0 || size < -400 then .zero
  else if size > 400 then .infinite
  else if exponent ≥ 0 then ofFraction (digits * tenTo exponent.toNat) 1
  else ofFraction digits (tenTo (-exponent).toNat)

end Binary64

end ClassLint
