import Pubsub.Client.Subscription

/-! Readers. A reader takes what has arrived on its socket, one thing at a turn. Only errors of the
client's own are handled frame by frame; any other error ends the reader, and however it ends, the
connection is no longer established. -/

namespace Pubsub

/-- An error in the last act of a reader replaces its outcome. -/
def Outcome.unless (outcome : Outcome) : Except Error Unit → Outcome
  | .ok () => outcome
  | .error error => .failed error

namespace Client

def lost (client : Client) : Client :=
  { client with connection := { client.connection with established := false } }

/-- The last act of a reader. Unless the connection is being given up, channels are told of its loss;
if one of them refuses, that error is the outcome. -/
def finish (client : Client) (reader : ReaderId) (outcome : Outcome) : Client :=
  let client := client.lost
  if client.connection.closing then client.setReading reader (.finished outcome)
  else
    let (client, result) := client.suspendAll
    client.setReading reader (.finished (outcome.unless result))

/-- An error reaches the reader itself. A socket that broke is expected, whatever else is not. -/
def fail (client : Client) (reader : ReaderId) : Error → Client
  | .socketClosed code reason =>
    (client.log .connection .warning
      ("Connection closed: code=" ++ Text.ofNat code ++ ", reason=" ++ reason)).finish reader .ended
  | error => client.finish reader (.failed error)

/-- Goes on after the channels were requested again, or could not be. -/
def settle (client : Client) (reader : ReaderId) (socket : SocketId) : Except Error (Option ChannelId) → Client
  | .ok _ => client.setReading reader (.idle socket)
  | .error error =>
    if error.own then
      (client.log .connection .error "Resubscribe after connect failed" [("error", .text error.message)]).setReading
        reader (.idle socket)
    else client.fail reader error

/-- The connection is established, under the name that the server gives it. -/
def established (client : Client) (members : Members) : Client :=
  let name := (members.get? "socket_id").getD .null
  let client := { client with connection := { client.connection with name, established := true } }
  client.log .connection .info "Connected" [("socket_id", name)]

def confirm (client : Client) (reader : ReaderId) (socket : SocketId) (members : Members) : Client × Progress :=
  match ((client.established members).setReading reader (.busy socket)).resubscribeAll (.reader reader) (some reader) with
  | (client, .suspended call) => (client, .suspended call)
  | (client, .done result) => (client.settle reader socket result, .done (.ok none))

/-- Handles the frame that confirms the connection. Its data is forgiven if malformed. -/
def establish (client : Client) (reader : ReaderId) (socket : SocketId) (depth : Nat) (data : Payload) :
    Client × Progress :=
  match data.members depth with
  | .ok members => client.confirm reader socket members
  | .error (.undecodable cause) =>
    let client := client.log .connection .warning "Malformed connection_established frame"
      [("error", .text (Error.undecodable cause).message)]
    client.confirm reader socket []
  | .error error => (client.fail reader error, .done (.ok none))

def delivered (client : Client) (reader : ReaderId) (channel event : Text) : Except Error Unit → Client
  | .ok () => client
  | .error (.undecodable cause) =>
    client.log .connection .warning "Dropping malformed channel frame"
      [("channel", .text channel), ("event", .text event), ("error", .text (Error.undecodable cause).message)]
  | .error error =>
    if error.own then
      client.log .connection .error "Channel frame handling failed"
        [("channel", .text channel), ("event", .text event), ("error", .text error.message)]
    else client.fail reader error

def route (client : Client) (reader : ReaderId) (channel event : Text) (frame : Frame) : Client :=
  let (client, result) := client.deliver channel event frame
  client.delivered reader channel event result

def counted (client : Client) : Client :=
  { client with connection := { client.connection with received := client.connection.received + 1 } }

def handle (client : Client) (reader : ReaderId) (socket : SocketId) (frame : Frame) : Client × Progress :=
  let client := client.counted
  match Envelope.ofArrival frame with
  | .error (.undecodable cause) =>
    (client.log .connection .warning "Dropping undecodable frame"
      [("error", .text (Error.undecodable cause).message)], .done (.ok none))
  | .error error => (client.fail reader error, .done (.ok none))
  | .ok envelope =>
    if envelope.event = some Envelope.establishedEvent then client.establish reader socket frame.room.confirmation envelope.data
    else if envelope.event = some Envelope.errorEvent then
      (client.log .connection .warning "Server error" [("data", envelope.data.json)], .done (.ok none))
    else
      match envelope.channel, envelope.event with
      | some channel, some event => (client.route reader channel event frame, .done (.ok none))
      | _, event =>
        let shown := event.getD "None"
        (client.log .connection .debug ("Ignoring connection-level event " ++ shown), .done (.ok none))

def take (client : Client) (reader : ReaderId) (socket : SocketId) : Arrival → Client × Progress
  | .frame frame => client.handle reader socket frame
  | .ending .finished => (client.finish reader .ended, .done (.ok none))
  | .ending (.closed code) =>
    ((client.log .connection .info ("Connection closed: code=" ++ Text.ofNat code)).finish reader .ended,
      .done (.ok none))
  | .ending (.broken code reason) => (client.fail reader (.socketClosed code reason), .done (.ok none))
  | .ending (.failed reason) => (client.fail reader (.system reason), .done (.ok none))

/-- Leaves on a socket what has arrived after the first. -/
def leave (client : Client) (socket : SocketId) (rest : List Arrival) : Client :=
  { client with sockets := client.sockets.modify socket fun socket => { socket with incoming := rest } }

/-- One turn of a reader. A reader that starts takes the socket that is current then. -/
def turn (client : Client) (reader : ReaderId) : Client × Progress :=
  match client.reading? reader with
  | some .starting =>
    match client.connection.socket with
    | none => (client.setReading reader (.finished .ended), .done (.ok none))
    | some socket => (client.setReading reader (.idle socket), .done (.ok none))
  | some (.idle socket) =>
    match client.sockets[socket]?.map (·.incoming) with
    | some (arrival :: rest) => (client.leave socket rest).take reader socket arrival
    | _ => (client, .done (.ok none))
  | _ => (client, .done (.ok none))

end Client
end Pubsub
