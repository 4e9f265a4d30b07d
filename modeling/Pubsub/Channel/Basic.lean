import Pubsub.Channel.Bindings
import Pubsub.Channel.Name
import Pubsub.Frame.Envelope
import Pubsub.Frame.Request
import Pubsub.Log

/-! One channel: its phase, the token to resume after, and who listens to it. An operation that can
fail changes nothing when it does. Listeners are never called here; an operation names the
callbacks that follow from it. -/

namespace Pubsub

inductive Notice where
  | event (channel name : Text) (data : Payload)
  | subscribed (channel : Text)

structure Callback where
  listener : Listener
  notice : Notice

structure Channel where
  name : Text
  family : Family := .general
  phase : Phase := .initial
  token : Option Text := none
  /-- The one listener that is told when the subscription succeeds. -/
  lifecycle : Option Listener := none
  bindings : Bindings := {}
deriving DecidableEq

/-- A channel after an operation, and what follows from it. -/
structure Reaction where
  channel : Channel
  records : List Record := []
  callbacks : List Callback := []

namespace Channel

def make (name : Option Text) (family : Family) : Except Error Channel :=
  (family.validate name).map fun name => { name, family }

def describe (channel : Channel) : Text :=
  "[" ++ channel.family.label ++ " Channel: name=" ++ channel.name ++ "]"

/-- What a binding needs, in the order in which faults are reported. -/
def checkBinding (channel : Channel) (event : Option Text) (listener : Option Listener) :
    Except Error (Text × Listener) :=
  match event, listener with
  | none, _ | some [], _ => .error (.emptyEvent channel.name)
  | some _, none => .error (.missingListener channel.name)
  | some event, some listener =>
    if Envelope.reservedPrefix.isPrefixOf event then .error (.reservedEvent channel.name event)
    else if channel.phase = .ended then .error (.bindingEnded channel.name)
    else .ok (event, listener)

def bind (channel : Channel) (event : Option Text) (listener : Option Listener) : Except Error Channel :=
  (channel.checkBinding event listener).map fun (event, listener) =>
    { channel with bindings := channel.bindings.add event listener }

def unbind (channel : Channel) (event : Option Text) (listener : Option Listener) : Except Error Channel :=
  (channel.checkBinding event listener).map fun (event, listener) =>
    { channel with bindings := channel.bindings.remove event listener }

/-- Binds a listener to several events; the first fault ends it. -/
def bindAll (channel : Channel) (listener : Listener) : List (Option Text) → Except Error Channel
  | [] => .ok channel
  | event :: rest => do (← channel.bind event (some listener)).bindAll listener rest

def request (channel : Channel) : Request := .subscribe channel.name channel.token

def farewell (channel : Channel) : Request := .unsubscribe channel.name

def debug (channel : Channel) (message : Text) : Record :=
  ⟨.channel, .debug, "Channel " ++ channel.name ++ ": " ++ message, []⟩

/-- Moves to a phase; the last phase is never left. Whenever the subscription succeeds, the
lifecycle listener is told. -/
def moveTo (channel : Channel) (phase : Phase) : Except Error Reaction :=
  if channel.phase = .ended ∧ phase ≠ .ended then .error (.phaseEnded channel.name phase)
  else .ok {
    channel := { channel with phase }
    records := [channel.debug (channel.phase.label ++ " -> " ++ phase.label)]
    callbacks :=
      if phase = .subscribed then
        channel.lifecycle.toList.map fun listener => ⟨listener, .subscribed channel.name⟩
      else [] }

/-- The token that a success carries: none where it is missing or null. -/
def tokenOf (channel : Channel) (members : Members) (data : Payload) : Except Error (Option Text) :=
  match members.get? "resume_after" with
  | none | some .null => .ok none
  | some (.text token) => .ok (some token)
  | some value => .error (.undecodable (.token value.kindName data channel.name))

/-- A success takes its token and moves to the subscribed phase. -/
def succeed (channel : Channel) (depth : Nat) (data : Payload) : Except Error Reaction := do
  let members ← data.members depth
  let token ← channel.tokenOf members data
  { channel with token }.moveTo .subscribed

/-- Any other event takes its id as token, if it has one, and goes to those bound to it now. -/
def announce (channel : Channel) (event : Text) (envelope : Envelope) : Reaction :=
  let listeners := channel.bindings.listenersFor event
  { channel := { channel with token := envelope.id <|> channel.token }
    records := if listeners.isEmpty then [channel.debug ("no listeners for " ++ event)] else []
    callbacks := listeners.map fun listener => ⟨listener, .event channel.name event envelope.data⟩ }

/-- Takes a frame that came for this channel. After the end, frames are not even decoded. -/
def receive (channel : Channel) (event : Text) (frame : Frame) : Except Error Reaction :=
  if channel.phase = .ended then
    .ok { channel, records := [channel.debug ("ignoring " ++ event ++ " after unsubscribe")] }
  else do
    let envelope ← Envelope.ofDelivery frame
    if event = Envelope.succeededEvent then channel.succeed frame.room.success envelope.data
    else pure (channel.announce event envelope)

end Channel
end Pubsub
