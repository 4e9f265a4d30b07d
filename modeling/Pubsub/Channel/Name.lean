import Pubsub.Error

/-! Names are checked against the family that a channel is made for. -/

namespace Pubsub.Family

/-- A name must not be missing or empty, nor match a pattern that the family refuses. -/
def validate (family : Family) : Option Text → Except Error Text
  | none | some [] => .error (.emptyName family)
  | some name =>
    if family.refusals.any (·.applies name) then .error (.refusedName name family) else .ok name

end Pubsub.Family
