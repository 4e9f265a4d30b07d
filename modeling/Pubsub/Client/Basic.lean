import Pubsub.Channel.Basic

/-! The whole of a client: its channels, the sockets it has opened, the readers of those sockets, and
the calls that wait for something outside. A call is suspended while a frame of its is being sent,
or while it waits for a reader to finish; meanwhile anything else may happen. -/

namespace Pubsub

/-- Channels are numbered as they are made, and keep their number for good. -/
abbrev ChannelId := Nat

abbrev SocketId := Nat

/-- Readers are numbered like the sockets they were started for. -/
abbrev ReaderId := Nat

abbrev CallId := Nat

/-- Where frames are sent: nowhere, straight to a peer, or through the client's connection. -/
inductive Transport where
  | absent
  | direct (connected : Bool)
  | connection

inductive Outgoing where
  /-- A request, with the channel that made it. -/
  | request (channel : ChannelId) (request : Request)
  | message (text : Text)

def Outgoing.text : Outgoing → Text
  | .request _ sent => sent.encode
  | .message content => content

/-- A frame that was handed over, to a socket or straight to a peer. -/
structure Sent where
  socket : Option SocketId
  content : Outgoing

inductive Ending where
  | finished
  | closed (code : Nat)
  | broken (code : Nat) (reason : Text)
  | failed (reason : Text)
deriving DecidableEq

inductive Arrival where
  | frame (frame : Frame)
  | ending (ending : Ending)
deriving DecidableEq

structure Socket where
  /-- What has arrived and is not read yet. -/
  incoming : List Arrival := []
  closes : Nat := 0
  /-- Why closing it fails, if it does. -/
  closeError : Option Text := none

inductive Outcome where
  | ended
  | cancelled
  | failed (error : Error)

/-- A reader has not run yet, or reads a socket, or handles a frame of it while a call of its own is
suspended, or has finished. -/
inductive Reading where
  | starting
  | idle (socket : SocketId)
  | busy (socket : SocketId)
  | finished (outcome : Outcome)

structure Reader where
  reading : Reading := .starting
  /-- Whether the reader has been told to stop and has not noticed yet. -/
  cancelling : Bool := false

def Reader.done (reader : Reader) : Bool :=
  match reader.reading with
  | .finished _ => true
  | _ => false

/-- What the client knows of its connection. All sockets share it. -/
structure Connection where
  url : Text
  socket : Option SocketId := none
  established : Bool := false
  closing : Bool := false
  /-- The name that the server gave to the connection. -/
  name : Json := .null
  received : Nat := 0
  /-- The reader that was started last. -/
  reader : Option ReaderId := none
  /-- Whether that reader has waited for itself. Nobody can wait for it after that. -/
  barred : Bool := false

/-- Who runs a call: the application, or a reader that is handling a frame. -/
inductive Task where
  | application
  | reader (id : ReaderId)
deriving DecidableEq

inductive Stage where
  | subscribing (channel : ChannelId)
  /-- A channel's request is being sent again; the rest come after it. A reader may be waiting for the
  last of them. -/
  | resubscribing (channel : ChannelId) (rest : List ChannelId) (reader : Option ReaderId)
  | unsubscribing
  | messaging
  | connecting
  /-- The connection is being given up, once a reader has finished. A reader does not wait for itself. -/
  | disconnecting (reader : Option ReaderId)
  /-- The connection is being given up, and its socket is being closed. -/
  | closing (socket : SocketId)
deriving DecidableEq

structure Call where
  task : Task
  stage : Stage
deriving DecidableEq

structure Client where
  channels : List Channel := []
  /-- The registered channels, in the order of their registration. -/
  registered : List ChannelId := []
  transport : Transport := .absent
  connection : Connection
  sockets : List Socket := []
  readers : List Reader := []
  calls : List (CallId × Call) := []
  /-- The number of the next call that is suspended. -/
  nextCall : CallId := 0
  /-- Callbacks that were submitted and not made yet, oldest first. -/
  waiting : List Callback := []
  /-- Whether callbacks are still accepted. -/
  accepting : Bool := true
  /-- Everything that was handed over, oldest first. -/
  sent : List Sent := []
  /-- The log, oldest record first. -/
  records : List Record := []

/-- What became of a call: a result, the channel that a subscription made among them, or a
suspension. -/
inductive Progress where
  | done (result : Except Error (Option ChannelId))
  | suspended (call : CallId)

namespace Client

def log (client : Client) (source : Source) (level : Level) (message : Text) (details : Members := []) : Client :=
  { client with records := client.records ++ [⟨source, level, message, details⟩] }

def nameOf (client : Client) (id : ChannelId) : Text :=
  (client.channels[id]?.map (·.name)).getD []

def lookup (client : Client) (name : Text) : Option ChannelId :=
  client.registered.find? (client.nameOf · == name)

/-- The registered channels by name. -/
def listing (client : Client) : List ChannelId :=
  client.registered.mergeSort fun first second => Text.le (client.nameOf first) (client.nameOf second)

/-- Whether the server has confirmed the connection, and it is not given up. -/
def isConnected (client : Client) : Bool :=
  client.connection.established && client.connection.socket.isSome

def canSend (client : Client) : Bool :=
  match client.transport with
  | .absent => false
  | .direct connected => connected
  | .connection => client.isConnected

def setChannel (client : Client) (id : ChannelId) (channel : Channel) : Client :=
  { client with channels := client.channels.set id channel }

def reading? (client : Client) (id : ReaderId) : Option Reading :=
  client.readers[id]?.map (·.reading)

def setReading (client : Client) (id : ReaderId) (reading : Reading) : Client :=
  { client with readers := client.readers.modify id fun reader => { reader with reading } }

def isDone (client : Client) (reader : ReaderId) : Bool :=
  client.readers[reader]?.all Reader.done

/-- Whether a task has been told to stop and has not noticed yet. -/
def isCancelling (client : Client) : Task → Bool
  | .application => false
  | .reader id => client.readers[id]?.any (·.cancelling)

def suspend (client : Client) (task : Task) (stage : Stage) : Client × CallId :=
  ({ client with
    calls := client.calls ++ [(client.nextCall, ⟨task, stage⟩)], nextCall := client.nextCall + 1 },
   client.nextCall)

def call? (client : Client) (call : CallId) : Option Call :=
  (client.calls.find? (·.1 == call)).map (·.2)

/-- Forgets a call, because it goes on or never will. -/
def drop (client : Client) (call : CallId) : Client :=
  { client with calls := client.calls.filter (·.1 != call) }

end Client
end Pubsub
