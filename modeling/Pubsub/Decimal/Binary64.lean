/-! Binary floating point numbers of 64 bits, as exact values, and the rounding of a decimal to
the nearest of them. -/

namespace Pubsub

/-- A finite number is `mantissa * 2 ^ exponent`. The mantissa has 53 bits, or fewer at the least
exponent, -1074. -/
inductive Binary64 where
  | nan
  | infinite (negative : Bool)
  | finite (negative : Bool) (mantissa : Nat) (exponent : Int)
deriving DecidableEq

namespace Binary64

def leastExponent : Int := -1074

def greatestExponent : Int := 971

/-- The least mantissa of 53 bits. -/
def leastMantissa : Nat := 0x10000000000000

def zero (negative : Bool) : Binary64 := .finite negative 0 leastExponent

/-- The nearest whole number to a quotient; a half goes to the even neighbour. -/
def roundQuotient (numerator denominator : Nat) : Nat :=
  let quotient := numerator / denominator
  let twice := 2 * (numerator % denominator)
  if twice < denominator then quotient
  else if twice > denominator then quotient + 1
  else if quotient % 2 = 0 then quotient else quotient + 1

/-- A quotient in units of `2 ^ exponent`, again as a quotient. -/
def inUnits (numerator denominator : Nat) (exponent : Int) : Nat × Nat :=
  (numerator <<< (-exponent).toNat, denominator <<< exponent.toNat)

/-- The exponent at which a positive quotient has 53 bits before the point, but at least the
least one. -/
def exponentFor (numerator denominator : Nat) : Int :=
  let guess : Int := (numerator.log2 : Int) - (denominator.log2 : Int) - 52
  let (scaled, unit) := inUnits numerator denominator guess
  max leastExponent (if scaled / unit < leastMantissa then guess - 1 else guess)

def ofQuotient (negative : Bool) (numerator denominator : Nat) : Binary64 :=
  let exponent := exponentFor numerator denominator
  let (scaled, unit) := inUnits numerator denominator exponent
  let mantissa := roundQuotient scaled unit
  let (mantissa, exponent) := if mantissa = 2 * leastMantissa then (leastMantissa, exponent + 1) else (mantissa, exponent)
  if exponent > greatestExponent then .infinite negative else .finite negative mantissa exponent

/-- The nearest number to `digits * 10 ^ exponent`. What is certainly too great or too small to
be told from infinity or zero is not worked out. -/
def ofDecimal (negative : Bool) (digits : Nat) (exponent : Int) : Binary64 :=
  let size : Int := (Nat.toDigits 10 digits).length + exponent
  if digits = 0 then zero negative
  else if size > 310 then .infinite negative
  else if size < -330 then zero negative
  else ofQuotient negative (digits * Nat.pow 10 exponent.toNat) (Nat.pow 10 (-exponent).toNat)

end Binary64
end Pubsub
