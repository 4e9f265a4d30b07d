import Pubsub.Client.Connecting

/-! Runs of a client. An operation that has to wait is suspended by one event and goes on by another,
so whatever happens in between stands in between in the run. -/

namespace Pubsub

/-- What can happen to a client at one moment. -/
inductive Event where
  /-- A channel that is never registered. -/
  | make (name : Option Text) (family : Family)
  | bind (channel : ChannelId) (event : Option Text) (listener : Option Listener)
  | unbind (channel : ChannelId) (event : Option Text) (listener : Option Listener)
  | setToken (channel : ChannelId) (token : Option Text)
  | setLifecycle (channel : ChannelId) (listener : Option Listener)
  /-- The application moves a channel itself; to end it is also what a farewell does. -/
  | move (channel : ChannelId) (phase : Phase)
  | receive (channel : ChannelId) (event : Text) (frame : Frame)
  | subscribe (task : Task) (name : Option Text) (listener : Option Listener) (events : List (Option Text))
  | unsubscribe (task : Task) (name : Option Text)
  | resubscribe (task : Task)
  | deliver (name event : Text) (frame : Frame)
  | lose (resumable : Bool)
  | attach (transport : Transport)
  | connect (task : Task)
  | send (task : Task) (text : Text)
  | disconnect (task : Task)
  /-- What a suspended call waits for is over. -/
  | resume (call : CallId) (outcome : Except Error Unit)
  | arrive (socket : SocketId) (arrival : Arrival)
  | turn (reader : ReaderId)
  | unwind (reader : ReaderId)
  /-- From now on, closing a socket fails. -/
  | jam (socket : SocketId) (reason : Text)
  /-- The callback that has waited longest is taken to be made. -/
  | callback
  /-- A callback that was made has failed. -/
  | failure
  | shutDown

namespace Client

def initial (url : Text) (transport : Transport) : Client := { connection := { url }, transport }

def fresh (url : Text) : Client := { connection := { url }, transport := .connection }

def change (client : Client) (id : ChannelId) (update : Channel → Except Error Channel) : Client :=
  match client.channels[id]? with
  | none => client
  | some channel =>
    match update channel with
    | .error _ => client
    | .ok channel => client.setChannel id channel

def changeSocket (client : Client) (socket : SocketId) (update : Socket → Socket) : Client :=
  { client with sockets := client.sockets.modify socket update }

/-- A call goes on once what it waits for is over, unless its task has been told to stop. -/
def canResume (client : Client) (id : CallId) : Bool :=
  match client.call? id with
  | none => false
  | some { task, stage } =>
    !client.isCancelling task &&
      match stage with
      | .disconnecting (some reader) => client.isDone reader
      | _ => true

/-- A reader that has been told to stop can only notice that. Frames can always be sent somewhere once
they can. -/
def possible (client : Client) : Event → Bool
  | .attach transport => !(transport matches .absent)
  | .resume call _ => client.canResume call
  | .turn reader => !client.isCancelling (.reader reader)
  | .unwind reader => client.isCancelling (.reader reader)
  | _ => true

def perform (client : Client) : Event → Client
  | .make name family =>
    match Channel.make name family with
    | .error _ => client
    | .ok channel => { client with channels := client.channels ++ [channel] }
  | .bind id event listener => client.change id (·.bind event listener)
  | .unbind id event listener => client.change id (·.unbind event listener)
  | .setToken id token => client.change id fun channel => .ok { channel with token }
  | .setLifecycle id lifecycle => client.change id fun channel => .ok { channel with lifecycle }
  | .move id phase => (client.moveTo id phase).1
  | .receive id event frame => (client.receive id event frame).1
  | .subscribe task name listener events => (client.subscribe task name listener events).1
  | .unsubscribe task name => (client.unsubscribe task name).1
  | .resubscribe task => (client.resubscribeAll task none).1
  | .deliver name event frame => (client.deliver name event frame).1
  | .lose true => client.suspendAll.1
  | .lose false => client.endAll
  | .attach transport => { client with transport }
  | .connect task => (client.connect task).1
  | .send task text => (client.message task text).1
  | .disconnect task => (client.disconnect task).1
  | .resume call outcome => (client.resume call outcome).1
  | .arrive socket arrival =>
    client.changeSocket socket fun socket => { socket with incoming := socket.incoming ++ [arrival] }
  | .turn reader => (client.turn reader).1
  | .unwind reader => client.unwind reader
  | .jam socket reason => client.changeSocket socket fun socket => { socket with closeError := some reason }
  | .callback => { client with waiting := client.waiting.tail }
  | .failure => client.log .dispatcher .error "Listener task failed"
  | .shutDown => { client with accepting := false }

/-- What an event makes of a client. An event that is not possible is no event. -/
def step (client : Client) (event : Event) : Client :=
  if client.possible event then client.perform event else client

def run (client : Client) (events : List Event) : Client := events.foldl step client

@[simp] theorem run_nil (client : Client) : client.run [] = client := rfl

@[simp] theorem run_cons (client : Client) (event : Event) (rest : List Event) :
    client.run (event :: rest) = (client.step event).run rest := rfl

theorem run_append (client : Client) (first second : List Event) :
    client.run (first ++ second) = (client.run first).run second := by
  simp only [run, List.foldl_append]

/-- What holds at first and is kept by every event holds after every run. -/
theorem run_induction {motive : Client → Prop} (kept : ∀ client event, motive client → motive (client.step event))
    {client : Client} (start : motive client) (events : List Event) : motive (client.run events) := by
  induction events generalizing client with
  | nil => exact start
  | cons event rest ih => exact ih (kept client event start)

/-- Whether each event of a run obeys a rule at its moment. -/
def Follows (rule : Client → Event → Bool) : Client → List Event → Bool
  | _, [] => true
  | client, event :: rest => rule client event && Follows rule (client.step event) rest

/-- An event that is not possible keeps everything. -/
theorem step_induction {motive : Client → Prop} {client : Client} {event : Event} (before : motive client)
    (performed : client.possible event → motive (client.perform event)) : motive (client.step event) := by
  unfold step
  split
  · exact performed ‹_›
  · exact before

theorem present_of_possible {client : Client} {call : CallId} {outcome : Except Error Unit}
    (possible : client.possible (.resume call outcome) = true) : (client.call? call).isSome := by
  cases found : client.call? call with
  | none => simp [Client.possible, canResume, found] at possible
  | some _ => rfl

end Client

/-- A frame with some members arrives on the first socket, and the first reader takes it. -/
def Event.arrival (members : Members) : List Event :=
  [.arrive 0 (.frame (.text (Json.object members).compact)), .turn 0]

end Pubsub
