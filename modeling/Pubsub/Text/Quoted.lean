import Pubsub.Text.Printable

/-! Quoted text, as error previews show it. Single quotes enclose it unless it holds some and no
double quotes; what cannot be shown is written by its number. -/

namespace Pubsub

/-- The quotation mark for a text. -/
def Text.mark (text : Text) : Char :=
  if .char '\'' ∈ text ∧ .char '"' ∉ text then '"' else '\''

def CodePoint.quoted (mark : Char) (point : CodePoint) : Text :=
  if point = .char '\\' ∨ point = .char mark then [.char '\\', point]
  else if point = .char '\t' then "\\t"
  else if point = .char '\n' then "\\n"
  else if point = .char '\r' then "\\r"
  else if point.isPrintable then [point]
  else if point.val < 0x100 then "\\x" ++ Text.hex 2 point.val
  else if point.val < 0x10000 then "\\u" ++ Text.hex 4 point.val
  else "\\U" ++ Text.hex 8 point.val

def Text.quoted (text : Text) : Text :=
  .char text.mark :: text.flatMap (CodePoint.quoted text.mark) ++ [.char text.mark]

/-- Bytes are quoted like the characters of their numbers, but only ASCII is shown. -/
def Utf8.quoted (bytes : List UInt8) : Text :=
  let points : Text := bytes.map fun byte => .char (Char.ofNat byte.toNat)
  let one (point : CodePoint) : Text :=
    if point.val < 0x80 then point.quoted points.mark else "\\x" ++ Text.hex 2 point.val
  .char 'b' :: .char points.mark :: points.flatMap one ++ [.char points.mark]

/-- Previews are cut at one hundred code points. -/
def Text.preview (text : Text) : Text := text.take 100

end Pubsub
