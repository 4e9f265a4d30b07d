/-! Text is a list of code points. An escape may spell one half of a surrogate pair on its
own, so a code point is a character or such a half. Order is by code point number. -/

namespace Pubsub

inductive CodePoint where
  | char (c : Char)
  | half (offset : Fin 0x800)
deriving DecidableEq

namespace CodePoint

def val : CodePoint → Nat
  | .char c => c.toNat
  | .half offset => 0xD800 + offset.val

def char? : CodePoint → Option Char
  | .char c => some c
  | .half _ => none

/-- Numbers past the last code point stand for no character and become NUL. -/
def ofNat (n : Nat) : CodePoint :=
  if h : 0xD800 ≤ n ∧ n < 0xE000 then .half ⟨n - 0xD800, by omega⟩ else .char (Char.ofNat n)

instance : LT CodePoint := ⟨fun first second => first.val < second.val⟩

instance : DecidableRel (fun (first second : CodePoint) => first < second) :=
  fun first second => inferInstanceAs (Decidable (first.val < second.val))

/-- The two halves of a pair spell one character beyond the basic plane. -/
def join (high low : Nat) : CodePoint :=
  .char (Char.ofNat (0x10000 + (high - 0xD800) * 0x400 + (low - 0xDC00)))

def isHigh (n : Nat) : Bool := decide (0xD800 ≤ n ∧ n < 0xDC00)

def isLow (n : Nat) : Bool := decide (0xDC00 ≤ n ∧ n < 0xE000)

end CodePoint

abbrev Text := List CodePoint

namespace Text

def ofString (s : String) : Text := s.toList.map .char

instance : Coe String Text := ⟨ofString⟩

instance : Inhabited Text := ⟨[]⟩

/-- Only text without a lone half is a string. -/
def toString? (text : Text) : Option String :=
  (text.mapM CodePoint.char?).map String.ofList

def ofNat (n : Nat) : Text := (Nat.toDigits 10 n).map .char

def ofInt : Int → Text
  | .ofNat n => ofNat n
  | .negSucc n => .char '-' :: ofNat (n + 1)

/-- Lower case hexadecimal, padded with zeros to a least width. -/
def hex (width n : Nat) : Text :=
  let digits := Nat.toDigits 16 n
  (List.replicate (width - digits.length) '0' ++ digits).map .char

def join (separator : Text) : List Text → Text
  | [] => []
  | [last] => last
  | first :: rest => first ++ separator ++ join separator rest

def le (first second : Text) : Bool := !decide (second < first)

def sort (names : List Text) : List Text := names.mergeSort le

end Text
end Pubsub
