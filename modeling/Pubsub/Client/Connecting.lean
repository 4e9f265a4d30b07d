import Pubsub.Client.Reading

/-! Opening the connection, giving it up, and going on with calls that were suspended. -/

namespace Pubsub.Client

/-- Begins to open a socket, and suspends the call until it is open. -/
def connect (client : Client) (task : Task) : Client × CallId :=
  let client := { client with connection := { client.connection with closing := false } }
  let client := client.log .connection .info "Connecting" [("url", .text client.connection.url)]
  client.suspend task .connecting

/-- Starts a reader for a socket that has been opened. -/
def opened (client : Client) : Client :=
  let connection := { client.connection with
    socket := some client.sockets.length, reader := some client.readers.length, barred := false }
  { client with sockets := client.sockets ++ [{}], readers := client.readers ++ [{}], connection }

/-- What is left of giving the connection up when its socket is closed. -/
def tearDown (client : Client) : Client × Progress :=
  let client := client.endAll
  let received : Json := .int client.connection.received
  (client.log .connection .info "Disconnected" [("messages_received", received)], .done (.ok none))

/-- Closes the current socket, if there is one, and suspends the call until it is closed. -/
def closeSocket (client : Client) (task : Task) : Client × Progress :=
  match client.connection.socket with
  | none => client.tearDown
  | some socket =>
    let sockets := client.sockets.modify socket fun socket => { socket with closes := socket.closes + 1 }
    let (client, call) := { client with sockets }.suspend task (.closing socket)
    (client, .suspended call)

def detached (client : Client) : Client :=
  { client with connection := { client.connection with socket := none } }

/-- The current socket is forgotten once a socket is closed, even if closing it failed. -/
def closed (client : Client) (socket : SocketId) : Client × Progress :=
  let client := client.detached
  match client.sockets[socket]?.bind (·.closeError) with
  | none => client.tearDown
  | some reason =>
    (client.log .connection .warning "Error closing WebSocket" [("error", .text reason)]).tearDown

/-- A reader that waits for another one passes the order to stop on instead of taking it, and one that waits for
itself takes it for its own. -/
def waitsForReader (client : Client) (reader : ReaderId) : Bool :=
  client.calls.any fun (_, call) =>
    match call with
    | ⟨task, .disconnecting _⟩ => task = .reader reader
    | _ => false

def cancel (client : Client) (reader : ReaderId) : Client :=
  if client.waitsForReader reader then client
  else { client with readers := client.readers.modify reader fun reader => { reader with cancelling := true } }

def bar (client : Client) : Client :=
  { client with connection := { client.connection with barred := true } }

def givingUp (client : Client) : Client :=
  let client := client.log .connection .info "Disconnecting"
  { client with connection := { client.connection with closing := true, established := false } }

/-- Gives the connection up. The reader that was started last is told to stop first and waited for;
if it makes the call itself, it neither stops nor waits, but cannot be waited for any more. -/
def disconnect (client : Client) (task : Task) : Client × Progress :=
  let client := client.givingUp
  match client.connection.reader with
  | none => client.closeSocket task
  | some reader =>
    if client.isDone reader then client.closeSocket task
    else if client.connection.barred then (client.cancel reader, .done (.error .barredReader))
    else if task = .reader reader then
      let (client, call) := client.bar.suspend task (.disconnecting none)
      (client, .suspended call)
    else
      let (client, call) := (client.cancel reader).suspend task (.disconnecting (some reader))
      (client, .suspended call)

/-- Whether a call of a task waits for a socket to be closed. -/
def isClosing (client : Client) (task : Task) : Bool :=
  client.calls.any fun (_, call) =>
    match call with
    | ⟨other, .closing _⟩ => other = task
    | _ => false

/-- Forgets the calls of a reader that was told to stop. If one of them was closing a socket, the current
socket is forgotten all the same. -/
def abandon (client : Client) (reader : ReaderId) : Client :=
  let socket := if client.isClosing (.reader reader) then none else client.connection.socket
  { client with
    connection := { client.connection with socket }
    calls := client.calls.filter (·.2.task ≠ Task.reader reader)
    readers := client.readers.modify reader fun reader => { reader with cancelling := false } }

/-- A reader notices that it was told to stop. Its calls are abandoned where they are; one that has
not run yet has nothing to put in order. -/
def unwind (client : Client) (reader : ReaderId) : Client :=
  let client := client.abandon reader
  match client.reading? reader with
  | some .starting => client.setReading reader (.finished .cancelled)
  | _ => client.finish reader .cancelled

/-- Tells a reader that waits for channels to be requested what became of that. -/
def passOn (reader : Option ReaderId) : Client × Progress → Client × Progress
  | (client, .suspended call) => (client, .suspended call)
  | (client, .done result) =>
    match reader with
    | none => (client, .done result)
    | some reader =>
      match client.reading? reader with
      | some (.busy socket) => (client.settle reader socket result, .done (.ok none))
      | _ => (client, .done result)

/-- Goes on with a suspended call: its frame was sent, or its socket was opened, or that failed, or the
reader that it waited for has finished, or its socket is closed. -/
def resume (client : Client) (id : CallId) (outcome : Except Error Unit) : Client × Progress :=
  match client.call? id with
  | none => (client, .done (.ok none))
  | some { task, stage } =>
    let client := client.drop id
    match stage with
    | .subscribing channel =>
      match outcome with
      | .ok () => (client, .done (.ok (some channel)))
      | .error error => (client.rollBack channel, .done (.error error))
    | .unsubscribing | .messaging => (client, .done (outcome.map fun _ => none))
    | .resubscribing channel rest reader =>
      match outcome with
      | .ok () => passOn reader (resubscribe task reader rest client)
      | .error error => passOn reader (client.rollBack channel, .done (.error error))
    | .connecting =>
      match outcome with
      | .ok () => (client.opened, .done (.ok none))
      | .error error => (client, .done (.error (.cannotConnect error.message client.connection.url)))
    | .disconnecting reader =>
      match reader.bind client.reading? with
      | some (.finished (.failed error)) => (client, .done (.error error))
      | _ => client.closeSocket task
    | .closing socket => client.closed socket

end Pubsub.Client
