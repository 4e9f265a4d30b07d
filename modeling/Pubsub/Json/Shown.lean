import Pubsub.Json.Basic
import Pubsub.Text.Quoted
import Pubsub.Decimal.Shortest

/-! Values as they are shown to people, in error texts and statistics. Texts inside a value are
quoted, a text on its own is not. -/

namespace Pubsub.Json

mutual

def shown : Json → Text
  | .null => "None"
  | .bool value => if value then "True" else "False"
  | .int value => Text.ofInt value
  | .float value => value.text
  | .text value => value.quoted
  | .list items => .char '[' :: Text.join ", " (shownItems items) ++ [.char ']']
  | .object members => .char '\x7b' :: Text.join ", " (shownMembers members) ++ [.char '\x7d']

def shownItems : List Json → List Text
  | [] => []
  | item :: rest => shown item :: shownItems rest

def shownMembers : List (Text × Json) → List Text
  | [] => []
  | (name, value) :: rest => (name.quoted ++ ": " ++ shown value) :: shownMembers rest

end

def plain : Json → Text
  | .text value => value
  | value => value.shown

end Pubsub.Json
