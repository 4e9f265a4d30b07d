import Pubsub.Client.Delivery

/-! Subscribing, unsubscribing and sending. A request is handed over after its channel has moved to
the requested phase, so whatever the server answers meanwhile is not overwritten afterwards. -/

namespace Pubsub.Client

def target (client : Client) : Except Error (Option SocketId) :=
  match client.transport with
  | .absent => .error .noTransport
  | .direct _ => .ok none
  | .connection =>
    if client.isConnected then .ok client.connection.socket else .error (.notConnected client.connection.url)

/-- Hands a frame over and suspends the call until it is sent. -/
def send (client : Client) (task : Task) (content : Outgoing) (stage : Stage) : Client × Except Error CallId :=
  match client.target with
  | .error error => (client, .error error)
  | .ok socket =>
    let client : Client := { client with sent := client.sent ++ [⟨socket, content⟩] }
    let (client, call) := client.suspend task stage
    (client, .ok call)

/-- After a failed send a channel that is still in the requested phase goes back to the initial
one, whoever moved it there. -/
def rollBack (client : Client) (id : ChannelId) : Client :=
  match client.channels[id]? with
  | some { phase := .requested, .. } => (client.moveTo id .initial).1
  | _ => client

inductive Attempt where
  | skipped
  | suspended (call : CallId)
  | failed (error : Error)

/-- Sends the request of a channel that is still registered and has not ended. -/
def requestChannel (client : Client) (task : Task) (id : ChannelId) (stage : Stage) : Client × Attempt :=
  match client.channels[id]? with
  | none => (client, .skipped)
  | some channel =>
    if client.lookup channel.name ≠ some id then
      (client.log .manager .debug ("Skipping subscribe for removed channel " ++ channel.name), .skipped)
    else if channel.phase = .ended then (client, .skipped)
    else
      match (client.moveTo id .requested).1.send task (.request id channel.request) stage with
      | (client, .ok call) => (client, .suspended call)
      | (client, .error error) => (client.rollBack id, .failed error)

/-- Makes the channel of a new subscription, or tells what is wrong with it. -/
def newChannel (client : Client) (name : Option Text) (listener : Option Listener) (events : List (Option Text)) :
    Except Error Channel :=
  let given := name.getD []
  if (Family.ofName given).restricted then .error (.restrictedName given)
  else if (client.lookup given).isSome then .error (.alreadySubscribed given)
  else do
    let channel ← Channel.make name .general
    match listener with
    | none => pure channel
    | some listener => Channel.bindAll { channel with lifecycle := some listener } listener events

def register (client : Client) (channel : Channel) : Client :=
  let registered := client.registered ++ [client.channels.length]
  { client with channels := client.channels ++ [channel], registered }.log .manager .info
    ("Subscribing to channel " ++ channel.name)

/-- Registers a new channel and, if frames can be sent, sends its request. -/
def subscribe (client : Client) (task : Task) (name : Option Text) (listener : Option Listener)
    (events : List (Option Text)) : Client × Progress :=
  match client.newChannel name listener events with
  | .error error => (client, .done (.error error))
  | .ok channel =>
    let id := client.channels.length
    let client := client.register channel
    if client.canSend then
      match client.requestChannel task id (.subscribing id) with
      | (client, .skipped) => (client, .done (.ok (some id)))
      | (client, .suspended call) => (client, .suspended call)
      | (client, .failed error) => (client, .done (.error error))
    else (client, .done (.ok (some id)))

/-- Removes the channel of a name, ends it and, if frames can be sent, says farewell. -/
def unsubscribe (client : Client) (task : Task) (name : Option Text) : Client × Progress :=
  match name.bind client.lookup with
  | none => (client, .done (.error (.unknownChannel (name.getD "None"))))
  | some id =>
    let name := client.nameOf id
    let client := { client with registered := client.registered.erase id }
    let client := (client.moveTo id .ended).1
    let client := client.log .manager .info ("Unsubscribing from channel " ++ name)
    if client.canSend then
      match client.send task (.request id (.unsubscribe name)) .unsubscribing with
      | (client, .ok call) => (client, .suspended call)
      | (client, .error error) => (client, .done (.error error))
    else (client, .done (.ok none))

/-- Sends the requests of channels in turn; the first failure ends it. -/
def resubscribe (task : Task) (reader : Option ReaderId) : List ChannelId → Client → Client × Progress
  | [], client =>
    if client.registered.isEmpty then (client, .done (.ok none))
    else
      let count := Text.ofNat client.registered.length
      (client.log .manager .info ("Resubscribed " ++ count ++ " channel(s)"), .done (.ok none))
  | id :: rest, client =>
    match client.requestChannel task id (.resubscribing id rest reader) with
    | (client, .skipped) => resubscribe task reader rest client
    | (client, .suspended call) => (client, .suspended call)
    | (client, .failed error) => (client, .done (.error error))

/-- Sends the request of every channel that is registered now, by name. -/
def resubscribeAll (client : Client) (task : Task) (reader : Option ReaderId) : Client × Progress :=
  resubscribe task reader client.listing client

def message (client : Client) (task : Task) (text : Text) : Client × Progress :=
  match { client with transport := .connection }.target with
  | .error error => (client, .done (.error error))
  | .ok socket =>
    let client : Client := { client with sent := client.sent ++ [⟨socket, .message text⟩] }
    let (client, call) := client.suspend task .messaging
    (client, .suspended call)

end Pubsub.Client
