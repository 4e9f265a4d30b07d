import Pubsub.Text.Basic
import Pubsub.Decimal.Binary64

/-! The fewest decimal digits that read back as a number, and how they are written: with a point
from a ten-thousandth up to, not including, ten to the sixteenth, with an exponent elsewhere. -/

namespace Pubsub.Binary64

/-- The digits of a decimal `0.d₁d₂… * 10 ^ point`, without zeros at the end. -/
structure Digits where
  digits : List Char
  point : Int

/-- A positive quotient is at least `10 ^ n` and less than the next power for this `n`. -/
def decimalExponent (numerator denominator : Nat) : Int :=
  if denominator ≤ numerator then ((Nat.toDigits 10 (numerator / denominator)).length : Int) - 1
  else
    let power := (Nat.toDigits 10 (denominator / numerator)).length - 1
    if denominator ≤ numerator * Nat.pow 10 power then -(power : Int) else -(power : Int) - 1

/-- The decimals with units of `10 ^ unit` next to a number that lie among those that round to
it: the nearer one, and of two equally near the even one. -/
def candidate? (mantissa : Nat) (exponent : Int) (unit : Int) : Option Nat :=
  let lowest := mantissa = leastMantissa ∧ exponent ≠ leastExponent
  let scale := Nat.pow 10 (-unit).toNat <<< (exponent - 2).toNat
  let step := Nat.pow 10 unit.toNat <<< (2 - exponent).toNat
  let value := 4 * mantissa * scale
  let low := (if lowest then 4 * mantissa - 1 else 4 * mantissa - 2) * scale
  let high := (4 * mantissa + 2) * scale
  let fits (n : Nat) : Bool :=
    if mantissa % 2 = 0 then decide (low ≤ n * step ∧ n * step ≤ high)
    else decide (low < n * step ∧ n * step < high)
  let below := value / step
  let above := below + 1
  match fits below, fits above with
  | false, false => none
  | true, false => some below
  | false, true => some above
  | true, true =>
    let lack := value - below * step
    let excess := above * step - value
    some (if lack < excess then below else if excess < lack then above
      else if below % 2 = 0 then below else above)

/-- Tries one digit, then two, and so on; seventeen always suffice. -/
def search (mantissa : Nat) (exponent place : Int) : Nat → Option (Nat × Int)
  | 0 => none
  | more + 1 =>
    let unit := place - (16 - more : Int)
    match candidate? mantissa exponent unit with
    | some digits => some (digits, unit)
    | none => search mantissa exponent place more

def shortest (mantissa : Nat) (exponent : Int) : Digits :=
  let place := decimalExponent (mantissa <<< exponent.toNat) (1 <<< (-exponent).toNat)
  match search mantissa exponent place 17 with
  | none => ⟨['0'], 1⟩
  | some (number, unit) =>
    let digits := Nat.toDigits 10 number
    ⟨(digits.reverse.dropWhile (· == '0')).reverse, digits.length + unit⟩

/-- Positional writing always has a digit on either side of the point. -/
def Digits.positional (shown : Digits) : List Char :=
  if shown.point ≤ 0 then ['0', '.'] ++ List.replicate (-shown.point).toNat '0' ++ shown.digits
  else
    let whole := shown.point.toNat
    let filled := shown.digits ++ List.replicate (whole - shown.digits.length) '0'
    let fraction := filled.drop whole
    filled.take whole ++ '.' :: (if fraction.isEmpty then ['0'] else fraction)

/-- An exponent has a sign and at least two digits. -/
def Digits.scientific (shown : Digits) : List Char :=
  let exponent := shown.point - 1
  let sign := if exponent < 0 then '-' else '+'
  let digits := Nat.toDigits 10 exponent.natAbs
  let padded := List.replicate (2 - digits.length) '0' ++ digits
  match shown.digits with
  | [] => []
  | [digit] => digit :: 'e' :: sign :: padded
  | digit :: rest => digit :: '.' :: rest ++ 'e' :: sign :: padded

def Digits.text (shown : Digits) : List Char :=
  if -4 < shown.point ∧ shown.point ≤ 16 then shown.positional else shown.scientific

def magnitude : Nat → Int → List Char
  | 0, _ => ['0', '.', '0']
  | mantissa, exponent => (shortest mantissa exponent).text

def text : Binary64 → Text
  | .nan => "nan"
  | .infinite negative => if negative then "-inf" else "inf"
  | .finite negative mantissa exponent =>
    ((if negative then ['-'] else []) ++ magnitude mantissa exponent).map .char

end Pubsub.Binary64
