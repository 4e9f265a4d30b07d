import Pubsub.Text.Basic

/-! Strict UTF-8, read byte by byte. A character that is not complete carries the range its next
byte must lie in, so overlong forms, halves of pairs and numbers past the last code point are
refused at the byte that spells them. -/

namespace Pubsub.Utf8

inductive Reason where
  | invalidStart
  | invalidContinuation
  | unexpectedEnd
deriving DecidableEq

/-- The offending bytes are `length` many, from `start`; the first of them is `lead`. -/
structure Fault where
  reason : Reason
  start : Nat
  length : Nat
  lead : UInt8
deriving DecidableEq

/-- A character of which `seen` bytes are read and `left` are still to come. -/
structure Unfinished where
  lead : UInt8
  value : Nat
  seen : Nat
  left : Nat
  low : UInt8
  high : UInt8

def begin? (byte : UInt8) : Option Unfinished :=
  if byte < 0xc2 then none
  else if byte < 0xe0 then some ⟨byte, byte.toNat - 0xc0, 1, 1, 0x80, 0xbf⟩
  else if byte < 0xf0 then
    some ⟨byte, byte.toNat - 0xe0, 1, 2, if byte = 0xe0 then 0xa0 else 0x80, if byte = 0xed then 0x9f else 0xbf⟩
  else if byte < 0xf5 then
    some ⟨byte, byte.toNat - 0xf0, 1, 3, if byte = 0xf0 then 0x90 else 0x80, if byte = 0xf4 then 0x8f else 0xbf⟩
  else none

def Unfinished.extend (partly : Unfinished) (byte : UInt8) : Unfinished :=
  { partly with
    value := partly.value * 64 + (byte.toNat - 0x80), seen := partly.seen + 1, left := partly.left - 1,
    low := 0x80, high := 0xbf }

/-- `position` is that of the next byte, `read` holds the characters before it, last first. -/
def decodeFrom (position : Nat) (read : Text) : Option Unfinished → List UInt8 → Except Fault Text
  | none, [] => .ok read.reverse
  | some partly, [] => .error ⟨.unexpectedEnd, position - partly.seen, partly.seen, partly.lead⟩
  | none, byte :: rest =>
    if byte < 0x80 then decodeFrom (position + 1) (.char (Char.ofNat byte.toNat) :: read) none rest
    else
      match begin? byte with
      | none => .error ⟨.invalidStart, position, 1, byte⟩
      | some partly => decodeFrom (position + 1) read (some partly) rest
  | some partly, byte :: rest =>
    if partly.low ≤ byte ∧ byte ≤ partly.high then
      let longer := partly.extend byte
      if longer.left = 0 then decodeFrom (position + 1) (.char (Char.ofNat longer.value) :: read) none rest
      else decodeFrom (position + 1) read (some longer) rest
    else .error ⟨.invalidContinuation, position - partly.seen, partly.seen, partly.lead⟩

def decode (bytes : List UInt8) : Except Fault Text := decodeFrom 0 [] none bytes

def Reason.message : Reason → Text
  | .invalidStart => "invalid start byte"
  | .invalidContinuation => "invalid continuation byte"
  | .unexpectedEnd => "unexpected end of data"

/-- One byte is shown, several are counted. -/
def Fault.message (fault : Fault) : Text :=
  let place : Text :=
    if fault.length = 1 then "byte 0x" ++ Text.hex 2 fault.lead.toNat ++ " in position " ++ Text.ofNat fault.start
    else
      "bytes in position " ++ Text.ofNat fault.start ++ "-" ++ Text.ofNat (fault.start + fault.length - 1)
  "'utf-8' codec can't decode " ++ place ++ ": " ++ fault.reason.message

end Pubsub.Utf8
