import Pubsub.Text.Basic

/-! A channel's name tells who may use it. General channels are open to anyone; personal and
presence channels are restricted, and each has names of its own. -/

namespace Pubsub

inductive Family where
  | general
  | personal
  | presence
deriving DecidableEq

namespace Family

def personalPrefix : Text := "private-"

def presencePrefix : Text := "presence-"

def label : Family → Text
  | .general => "Public"
  | .personal => "Private"
  | .presence => "Presence"

def restricted : Family → Bool
  | .general => false
  | .personal | .presence => true

/-- The family whose naming rules a name belongs to. -/
def ofName (name : Text) : Family :=
  if personalPrefix.isPrefixOf name then .personal
  else if presencePrefix.isPrefixOf name then .presence
  else .general

/-- A pattern of names, matched from a place in a name on. -/
inductive Pattern where
  /-- Matches at the beginning of the name only, and takes nothing. -/
  | origin
  | literal (text : Text)
  /-- Matches where the other pattern does not, and takes nothing. -/
  | lacking (pattern : Pattern)
  | chain (first second : Pattern)
deriving DecidableEq

/-- Matches a pattern at a place: `position` code points stand before it, and `rest` from it on. A match
ends at another place. -/
def Pattern.match? : Pattern → Nat → Text → Option (Nat × Text)
  | .origin, position, rest => if position = 0 then some (position, rest) else none
  | .literal text, position, rest =>
    if text.isPrefixOf rest then some (position + text.length, rest.drop text.length) else none
  | .lacking pattern, position, rest =>
    if (pattern.match? position rest).isSome then none else some (position, rest)
  | .chain first second, position, rest =>
    (first.match? position rest).bind fun (position, rest) => second.match? position rest

/-- Whether a pattern matches where the name begins. -/
def Pattern.applies (pattern : Pattern) (name : Text) : Bool := (pattern.match? 0 name).isSome

/-- The names that begin with a text. -/
def Pattern.beginning (text : Text) : Pattern := .chain .origin (.literal text)

/-- The names that do not begin with a text. -/
def Pattern.notBeginning (text : Text) : Pattern := .chain .origin (.lacking (.literal text))

/-- The patterns that a family refuses. -/
def refusals : Family → List Pattern
  | .general => [.beginning personalPrefix, .beginning presencePrefix]
  | .personal => [.notBeginning personalPrefix]
  | .presence => [.notBeginning presencePrefix]

end Family
end Pubsub
