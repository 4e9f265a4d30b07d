import Pubsub.Text.Blank
import Pubsub.Decimal.Binary64

/-! Numbers written by hand, as settings hold them. White space around a number is skipped, digits
of every script count, and an underscore may stand between two digits. -/

namespace Pubsub.Binary64

/-- Spells digits and white space of every script in ASCII; other characters beyond it are no
part of a number. -/
def plain? (point : CodePoint) : Option Char :=
  if point.val < 0x7f then point.char?
  else if point.isBlank then some ' '
  else point.digit?.map Nat.digitChar

def isSpace (c : Char) : Bool := c = ' ' || decide ('\t' ≤ c ∧ c ≤ '\r')

def trimmed (chars : List Char) : List Char :=
  ((chars.dropWhile isSpace).reverse.dropWhile isSpace).reverse

/-- Removes underscores, each of which must follow a digit and precede one. -/
def ungrouped? : List Char → Option (List Char)
  | [] => some []
  | '_' :: _ => none
  | digit :: '_' :: next :: rest =>
    if digit.isDigit ∧ next.isDigit then (ungrouped? (next :: rest)).map (digit :: ·) else none
  | c :: rest => (ungrouped? rest).map (c :: ·)

def digitsValue (digits : List Char) : Nat :=
  digits.foldl (fun value digit => value * 10 + (digit.toNat - '0'.toNat)) 0

/-- A sign and what follows it. -/
def signed : List Char → Bool × List Char
  | '-' :: rest => (true, rest)
  | '+' :: rest => (false, rest)
  | rest => (false, rest)

def exponent? : List Char → Option Int
  | [] => some 0
  | mark :: rest =>
    let (negative, digits) := signed rest
    if (mark = 'e' ∨ mark = 'E') ∧ digits ≠ [] ∧ digits.all Char.isDigit then
      some (if negative then -(digitsValue digits : Int) else digitsValue digits)
    else none

/-- Digits with at most one point among or around them, and an exponent. -/
def unsigned? (negative : Bool) (chars : List Char) : Option Binary64 :=
  let whole := chars.takeWhile Char.isDigit
  let (fraction, rest) :=
    match chars.dropWhile Char.isDigit with
    | '.' :: after => (after.takeWhile Char.isDigit, after.dropWhile Char.isDigit)
    | rest => ([], rest)
  if whole.isEmpty ∧ fraction.isEmpty then none
  else (exponent? rest).map fun exponent =>
    ofDecimal negative (digitsValue (whole ++ fraction)) (exponent - fraction.length)

def ofChars? (chars : List Char) : Option Binary64 :=
  let (negative, rest) := signed chars
  let name := String.ofList (rest.map Char.toLower)
  if name = "inf" ∨ name = "infinity" then some (.infinite negative)
  else if name = "nan" then some .nan
  else unsigned? negative rest

def ofText? (text : Text) : Option Binary64 := do
  let chars ← text.mapM plain?
  let plain ← ungrouped? (trimmed chars)
  ofChars? plain

end Pubsub.Binary64
