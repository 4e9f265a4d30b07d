import Pubsub.Session.Turns

/-! How much is left for a session to do. The steps and acts to come weigh most, since each of them may bring an arrival, and
an arrival may have every registered channel requested. -/

namespace Pubsub

def total {α : Type} (f : α → Nat) : List α → Nat
  | [] => 0
  | item :: rest => f item + total f rest

/-- How often a call goes on at most, counting the first turn of the reader that it may start. -/
def Stage.weight : Stage → Nat
  | .resubscribing _ rest _ => rest.length + 1
  | .connecting | .disconnecting _ => 2
  | .subscribing _ | .unsubscribing | .messaging | .closing _ => 1

/-- The readers that a call may start. -/
def Stage.starts : Stage → Nat
  | .connecting => 1
  | _ => 0

def Reader.weight (reader : Reader) : Nat :=
  (match reader.reading with
    | .starting => 1
    | _ => 0) + if reader.cancelling then 1 else 0

namespace Client

/-- What has arrived on all sockets and is not read yet. -/
def unread (client : Client) : Nat := total (·.incoming.length) client.sockets

/-- The weight of a client that has so many channels registered at most. -/
def weight (channels : Nat) (client : Client) : Nat :=
  client.unread * (2 * channels + 3) + 2 * total (·.2.stage.weight) client.calls + total (·.weight) client.readers

/-- The readers, and those that calls under way may start. -/
def crew (client : Client) : Nat := client.readers.length + total (·.2.stage.starts) client.calls

end Client

namespace Suspension

/-- The steps that a suspended call still has to live through. -/
def steps (suspension : Suspension) : Nat :=
  match suspension.wait with
  | .sending during _ _ => Step.sizes during
  | .reader _ => 0

/-- The turns that it waits for, and its own. -/
def turns (suspension : Suspension) : Nat :=
  match suspension.wait with
  | .sending _ turns _ => turns + 1
  | .reader _ => 1

end Suspension

namespace Session

def waits (session : Session) : List Suspension := session.suspended.flatMap (·.2)

/-- The steps and acts that have not been taken up yet. -/
def script (session : Session) : Nat :=
  Plan.sizes session.plans + total (·.steps) session.waits + session.play.cast.size

/-- So many channels can be registered at once. -/
def reach (session : Session) : Nat := session.client.registered.length + session.script

/-- So many readers can there be. -/
def crew (session : Session) : Nat := session.client.crew + session.script

def load (channels : Nat) (session : Session) : Nat :=
  session.script * (2 * channels + 8) + session.client.weight channels + total (·.turns) session.waits

/-- The moves until the tasks that can go on now have all had a turn. -/
def round (session : Session) : Nat :=
  2 * (session.ready.length + session.woken.length) + if session.running.isSome then 1 else 0

/-- Whatever takes something of the load may have every task woken up. -/
def weight (session : Session) : Nat :=
  session.load session.reach * (2 * session.crew + 6) + session.round

end Session
end Pubsub
