import Pubsub.Text.Basic

/-! Which listeners are bound to which events of a channel. An event has an entry only while it has
listeners, and a listener is bound to an event at most once. -/

namespace Pubsub

/-- Listeners are told apart by their names. -/
abbrev Listener := Text

structure Bindings where
  entries : List (Text × List Listener) := []
deriving DecidableEq

namespace Bindings

def listenersFor (bindings : Bindings) (event : Text) : List Listener :=
  ((bindings.entries.find? (·.1 == event)).map (·.2)).getD []

def contains (bindings : Bindings) (event : Text) : Bool :=
  bindings.entries.any (·.1 == event)

def events (bindings : Bindings) : List Text := bindings.entries.map (·.1)

def size (bindings : Bindings) : Nat := bindings.entries.length

/-- A listener that is bound already is not bound again. -/
def add (bindings : Bindings) (event : Text) (listener : Listener) : Bindings :=
  if bindings.contains event then
    ⟨bindings.entries.map fun entry =>
      if entry.1 == event ∧ listener ∉ entry.2 then (entry.1, entry.2 ++ [listener]) else entry⟩
  else ⟨bindings.entries ++ [(event, [listener])]⟩

/-- An entry goes with its last listener. -/
def remove (bindings : Bindings) (event : Text) (listener : Listener) : Bindings :=
  ⟨bindings.entries.filterMap fun entry =>
    if entry.1 == event then
      let left := entry.2.filter (· != listener)
      if left.isEmpty then none else some (event, left)
    else some entry⟩

end Bindings
end Pubsub
