import Pubsub.Channel.Bindings

/-! Bindings that others share. The listeners of an event stand on a sheet that is written on in place, so whoever
holds that sheet sees every change. To keep what stands there now, one takes a copy, which is a fresh sheet. -/

namespace Pubsub

/-- Sheets are numbered as they are issued. -/
abbrev SheetId := Nat

structure Roster where
  sheets : List (List Listener) := []
  /-- The sheets of the events. Copies, and sheets of events that have lost their listeners, are not among them. -/
  entries : List (Text × SheetId) := []
deriving DecidableEq

namespace Roster

/-- What stands on a sheet now. -/
def read (roster : Roster) (sheet : SheetId) : List Listener := roster.sheets.getD sheet []

/-- The bindings that the sheets show now. -/
def bindings (roster : Roster) : Bindings := ⟨roster.entries.map fun entry => (entry.1, roster.read entry.2)⟩

def sheet? (roster : Roster) (event : Text) : Option SheetId :=
  (roster.entries.find? (·.1 == event)).map (·.2)

def write (roster : Roster) (sheet : SheetId) (listeners : List Listener) : Roster :=
  { roster with sheets := roster.sheets.set sheet listeners }

def issue (roster : Roster) (listeners : List Listener) : Roster × SheetId :=
  ({ roster with sheets := roster.sheets ++ [listeners] }, roster.sheets.length)

/-- Gives an event a sheet. -/
def enter (roster : Roster) (event : Text) (listeners : List Listener) : Roster :=
  let (issued, sheet) := roster.issue listeners
  { issued with entries := issued.entries ++ [(event, sheet)] }

/-- Takes its sheet from an event. -/
def drop (roster : Roster) (event : Text) : Roster :=
  { roster with entries := roster.entries.filter (·.1 != event) }

def add (roster : Roster) (event : Text) (listener : Listener) : Roster :=
  match roster.sheet? event with
  | none => roster.enter event [listener]
  | some sheet =>
    let listeners := roster.read sheet
    if listeners.contains listener then roster else roster.write sheet (listeners ++ [listener])

/-- An event has no sheet any more when it has lost its last listener. -/
def remove (roster : Roster) (event : Text) (listener : Listener) : Roster :=
  match roster.sheet? event with
  | none => roster
  | some sheet =>
    let left := (roster.read sheet).filter (· != listener)
    let written := roster.write sheet left
    if left.isEmpty then written.drop event else written

/-- Copies who is bound to an event now, for somebody to keep. -/
def copy (roster : Roster) (event : Text) : Roster × SheetId :=
  roster.issue (((roster.sheet? event).map roster.read).getD [])

end Roster
end Pubsub
