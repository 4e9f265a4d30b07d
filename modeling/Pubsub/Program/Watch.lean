import Pubsub.Client.Connecting
import Pubsub.Client.Statistics
import Pubsub.Program.Reporter
import Pubsub.Json.Shown
import Pubsub.Work.Queue

/-! The program itself: it subscribes to one channel, logs what happens to it until it is stopped, and
then puts everything in order, whatever went wrong before. -/

namespace Pubsub

/-- What can happen between the opening of the socket and the stop. -/
inductive Happening where
  | arrival (arrival : Arrival)
  /-- The reader goes on. -/
  | turn
  /-- The oldest frame that is being sent is sent, or cannot be. -/
  | sent (outcome : Except Error Unit)

/-- What the program meets. -/
structure World where
  /-- Why the socket cannot be opened. -/
  opening : Option Text := none
  happenings : List Happening := []
  /-- Why the socket cannot be closed. -/
  closing : Option Text := none
  /-- Which calls the listener comes back from only when the program is over, by their number. -/
  stalls : Nat → Callback → Bool := fun _ _ => false
  /-- How the time of the last frame is written. -/
  clock : Text

/-- Everything that arrives is handled before the next arrival, and every frame is sent. -/
def World.calm (arrivals : List Arrival) : List Happening :=
  .turn :: arrivals.flatMap fun arrival => [.arrival arrival, .turn, .sent (.ok ())]

namespace Watch

/-- How a run ends: with an error, if something kept it from going on. A run that hangs does not end. -/
structure Report where
  client : Client
  error : Option Error
  hangs : Bool := false

/-- The signals that stop the program. -/
def signals : List Text := ["SIGINT", "SIGTERM"]

/-- The one listener that there is. -/
def listener : Listener := "reporter"

def make (client : Client) (callbacks : List Callback) : Client :=
  { client with records := client.records ++ callbacks.map fun callback => Reporter.record callback.notice }

/-- Goes on with the call that has waited longest. -/
def endSend (client : Client) (outcome : Except Error Unit) : Client :=
  match client.calls with
  | [] => client
  | (call, _) :: _ => (client.resume call outcome).1

def meet (client : Client) : Happening → Client
  | .arrival arrival =>
    let sockets := client.sockets.modify (client.sockets.length - 1) fun socket =>
      { socket with incoming := socket.incoming ++ [arrival] }
    { client with sockets }
  | .turn => (client.turn (client.readers.length - 1)).1
  | .sent outcome => endSend client outcome

/-- Opens a socket, unless that fails for a reason. -/
def connect (client : Client) (failure : Option Text) : Client × Progress :=
  let (client, call) := client.connect .application
  client.resume call (failure.elim (.ok ()) fun reason => .error (.system reason))

/-- Gives the connection up. A reader that still runs stops first. -/
def disconnect (client : Client) : Client × Progress :=
  let reader := client.readers.length - 1
  let stopped :=
    match client.disconnect .application with
    | (client, .suspended call) =>
      if client.isCancelling (.reader reader) then (client.unwind reader).resume call (.ok ())
      else (client, .suspended call)
    | done => done
  match stopped with
  | (client, .suspended call) => client.resume call (.ok ())
  | done => done

/-- Closed while the listener is kept from going on. -/
def gate : Text := "listener"

/-- A callback as the queue has it. -/
def task (stalls : Nat → Callback → Bool) (number : Nat) (callback : Callback) : Work Callback :=
  .task callback (if stalls number callback then some gate else none) ((Reporter.failure callback.notice).toList.map .fail)

/-- The queue that some callbacks have been submitted to. -/
def queue (stalls : Nat → Callback → Bool) (callbacks : List Callback) : Queue Callback :=
  (callbacks.mapIdx (task stalls)).foldl (fun queue work => (queue.submit work).1) {}

/-- Waits for the callbacks, but not forever, and shuts their queue. Those that are kept from being made are made
when everything else is over. -/
def settle (client : Client) (world : World) (error : Option Error) : Report :=
  match (queue world.stalls client.waiting).drain true with
  | (_, .failed failure) => ⟨client, some failure, false⟩
  | (_, .stuck) => ⟨client, error, true⟩
  | (drained, .now calm) =>
    let made := Work.Mark.labels drained.marks
    let client := make { client with waiting := [] } made
    let client := if calm then client else client.log .program .warning "Event queue did not drain before shutdown"
    match drained.shutdown false with
    | (_, .failed failure) => ⟨client, some failure, false⟩
    | (_, .stuck) => ⟨client, error, true⟩
    | (shut, .now ()) =>
      let client := { client with accepting := false }.log .dispatcher .debug "EventQueue shut down"
      let stats := (client.statistics.json world.clock).shown
      let left := (Work.Mark.labels (shut.release gate).settle.marks).drop made.length
      ⟨make (client.log .program .info ("Stats: " ++ stats)) left, error, false⟩

def subscribe (channel : Text) (events : List Text) (url : Text) : Client × Progress :=
  let client : Client := { connection := { url }, transport := .connection }
  client.subscribe .application (some channel) (some listener) (events.map some)

def breakClosing (client : Client) (failure : Option Text) : Client :=
  let sockets := client.sockets.map fun socket => { socket with closeError := failure }
  { client with sockets }

/-- Puts everything in order, whatever error the program ends with. An error that comes up meanwhile takes its place, and leaves
the rest undone. -/
def leave (client : Client) (world : World) (error : Option Error) : Report :=
  match disconnect client with
  | (client, .done (.error failure)) => ⟨client, some failure, false⟩
  | (client, _) => settle client world error

/-- Only a failure to subscribe leaves nothing to put in order. -/
def run (channel : Text) (events : List Text) (url : Text) (world : World) : Report :=
  match subscribe channel events url with
  | (client, .done (.error error)) => ⟨client, some error, false⟩
  | (client, _) =>
    match connect client world.opening with
    | (client, .done (.error error)) => leave client world (some error)
    | (client, _) => leave (world.happenings.foldl meet (breakClosing client world.closing)) world none

end Watch
end Pubsub
