import Pubsub.Json.Basic
import Pubsub.Decimal.Shortest

/-! Compact JSON in ASCII, as frames are sent: no white space, and whatever lies outside the
printable ASCII characters is written by number, in two halves where it has to be. -/

namespace Pubsub

def CodePoint.numbered (n : Nat) : Text := "\\u" ++ Text.hex 4 n

def CodePoint.escaped (point : CodePoint) : Text :=
  match point with
  | .char '"' => "\\\""
  | .char '\\' => "\\\\"
  | .char '\n' => "\\n"
  | .char '\r' => "\\r"
  | .char '\t' => "\\t"
  | .char '\x0c' => "\\f"
  | .char '\x08' => "\\b"
  | _ =>
    if 0x20 ≤ point.val ∧ point.val < 0x7f then [point]
    else if point.val < 0x10000 then numbered point.val
    else
      let beyond := point.val - 0x10000
      numbered (0xD800 + beyond / 0x400) ++ numbered (0xDC00 + beyond % 0x400)

/-- A text as a JSON string. -/
def Text.literal (text : Text) : Text :=
  .char '"' :: text.flatMap CodePoint.escaped ++ [.char '"']

def Binary64.literal : Binary64 → Text
  | .nan => "NaN"
  | .infinite negative => if negative then "-Infinity" else "Infinity"
  | number => number.text

namespace Json

mutual

def compact : Json → Text
  | .null => "null"
  | .bool value => if value then "true" else "false"
  | .int value => Text.ofInt value
  | .float value => value.literal
  | .text value => value.literal
  | .list items => .char '[' :: compactItems items ++ [.char ']']
  | .object members => .char '{' :: compactMembers members ++ [.char '}']

def compactItems : List Json → Text
  | [] => []
  | [last] => compact last
  | item :: rest => compact item ++ .char ',' :: compactItems rest

def compactMembers : List (Text × Json) → Text
  | [] => []
  | [(name, value)] => name.literal ++ .char ':' :: compact value
  | (name, value) :: rest => name.literal ++ .char ':' :: compact value ++ .char ',' :: compactMembers rest

end

end Json
end Pubsub
