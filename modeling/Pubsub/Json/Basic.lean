import Pubsub.Text.Basic
import Pubsub.Decimal.Binary64

/-! JSON values. Members of an object keep their order; whole numbers have any size. -/

namespace Pubsub

inductive Json where
  | null
  | bool (value : Bool)
  | int (value : Int)
  | float (value : Binary64)
  | text (value : Text)
  | list (items : List Json)
  | object (members : List (Text × Json))

instance : Inhabited Json := ⟨.null⟩

abbrev Members := List (Text × Json)

namespace Members

/-- A name that is already there keeps its place and takes the new value. -/
def put (members : Members) (name : Text) (value : Json) : Members :=
  if members.any (·.1 == name) then
    members.map fun member => if member.1 == name then (name, value) else member
  else members ++ [(name, value)]

/-- Of several members of one name, the place is the first one's and the value the last one's. -/
def ofList (members : Members) : Members :=
  members.foldl (fun kept (name, value) => kept.put name value) []

def get? (members : Members) (name : Text) : Option Json :=
  (members.find? (·.1 == name)).map (·.2)

end Members

namespace Json

/-- The kinds of value, as error texts name them. -/
def kindName : Json → Text
  | .null => "NoneType"
  | .bool _ => "bool"
  | .int _ => "int"
  | .float _ => "float"
  | .text _ => "str"
  | .list _ => "list"
  | .object _ => "dict"

end Json
end Pubsub
