import Pubsub.Channel.Basic
import Pubsub.Work.Failure

/-! The listener of the program, which logs what it is told. -/

namespace Pubsub.Reporter

/-- What a record shows of an event's data. Only a text can be cut, so an object with members has
no excerpt. -/
def excerpt : Payload → Option Text
  | .absent | .object [] => some []
  | .text content => some (content.take 200)
  | .object _ => none

/-- A notice without an excerpt makes the listener fail. -/
def failure : Notice → Option Failure
  | .subscribed _ => none
  | .event _ _ data =>
    match excerpt data with
    | some _ => none
    | none => some (.error "unhashable type: 'slice'")

/-- What is logged when the listener is told something. -/
def record : Notice → Record
  | .subscribed channel => ⟨.program, .info, "Subscribed to " ++ channel, []⟩
  | .event channel event data =>
    match excerpt data with
    | some shown => ⟨.program, .info, "[" ++ channel ++ "] " ++ event ++ ": " ++ shown, []⟩
    | none => ⟨.dispatcher, .error, "Listener task failed", []⟩

end Pubsub.Reporter
