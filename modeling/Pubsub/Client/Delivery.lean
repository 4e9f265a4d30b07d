import Pubsub.Client.Basic

/-! What happens to channels one at a time: moves, frames, and the loss of the connection. Callbacks
that follow are submitted last, so a refusal to take them leaves the channel as it has become. -/

namespace Pubsub.Client

/-- Submits callbacks. None are taken once the queue for them is shut down. -/
def submit (client : Client) (callbacks : List Callback) : Client × Except Error Unit :=
  if callbacks.isEmpty ∨ client.accepting then
    ({ client with waiting := client.waiting ++ callbacks }, .ok ())
  else (client, .error .queueClosed)

def react (client : Client) (id : ChannelId) (reaction : Reaction) : Client × Except Error Unit :=
  { client.setChannel id reaction.channel with records := client.records ++ reaction.records }.submit
    reaction.callbacks

def moveTo (client : Client) (id : ChannelId) (phase : Phase) : Client × Except Error Unit :=
  match client.channels[id]? with
  | none => (client, .ok ())
  | some channel =>
    match channel.moveTo phase with
    | .error error => (client, .error error)
    | .ok reaction => client.react id reaction

def receive (client : Client) (id : ChannelId) (event : Text) (frame : Frame) : Client × Except Error Unit :=
  match client.channels[id]? with
  | none => (client, .ok ())
  | some channel =>
    match channel.receive event frame with
    | .error error => (client, .error error)
    | .ok reaction => client.react id reaction

def deliver (client : Client) (name event : Text) (frame : Frame) : Client × Except Error Unit :=
  match client.lookup name with
  | none => (client.log .manager .debug ("Dropping " ++ event ++ " for unknown channel " ++ name), .ok ())
  | some id => client.receive id event frame

/-- Moves channels to the initial phase one after another, until one refuses. -/
def resetAll : List ChannelId → Client → Client × Except Error Unit
  | [], client => (client, .ok ())
  | id :: rest, client =>
    match client.moveTo id .initial with
    | (client, .ok ()) => resetAll rest client
    | (client, .error error) => (client, .error error)

/-- The connection is lost but may be resumed: channels stay registered and keep their tokens. -/
def suspendAll (client : Client) : Client × Except Error Unit :=
  resetAll client.registered client

/-- The connection is gone: every registered channel ends, and none stays registered. -/
def endAll (client : Client) : Client :=
  let ended := client.registered.foldl (fun client id => (client.moveTo id .ended).1) client
  let client := ended.log .manager .info
    ("Dropped " ++ Text.ofNat ended.registered.length ++ " channel(s) after connection teardown")
  { client with registered := [] }

end Pubsub.Client
