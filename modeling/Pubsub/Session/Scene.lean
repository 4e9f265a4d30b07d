import Pubsub.Client.Statistics
import Pubsub.Session.Script

/-! A client and the names that an application has for its channels. A name stays with its channel
for good; a channel that is registered without having a name is given one. -/

namespace Pubsub

/-- Why a step fails: it names a channel, or a socket, that there is not, or the client refuses. -/
inductive Fault where
  | unknown (name : Text)
  | refused (error : Error)

def Fault.reason : Fault → Text
  | .unknown name => name
  | .refused error => error.message

inductive Value where
  | nothing
  | flag (flag : Bool)
  | text (text : Text)
  | texts (texts : List Text)
  | handle (handle : Option Handle)
  | made (name label : Text)
  | statistics (statistics : Statistics)

abbrev StepResult := Except Fault Value

structure Scene where
  client : Client
  handles : List (Handle × ChannelId) := []

namespace Scene

def handleOf (scene : Scene) (id : ChannelId) : Option Handle :=
  (scene.handles.find? (·.2 == id)).map (·.1)

def setHandle (scene : Scene) (handle : Handle) (id : ChannelId) : Scene :=
  { scene with handles := scene.handles.filter (·.1 != handle) ++ [(handle, id)] }

/-- The name itself, or with the least number from two on that makes it new. -/
def newHandle (scene : Scene) (name : Text) : Handle :=
  let taken (handle : Handle) : Bool := scene.handles.any (·.1 == handle)
  let numbered := (List.range scene.handles.length).map fun n => name ++ "#" ++ Text.ofNat (n + 2)
  ((name :: numbered).find? (!taken ·)).getD name

/-- Names the registered channels that have none. -/
def adopt (scene : Scene) : Scene :=
  scene.client.listing.foldl (fun scene id =>
    if (scene.handleOf id).isSome then scene
    else scene.setHandle (scene.newHandle (scene.client.nameOf id)) id) scene

def locate (scene : Scene) (handle : Handle) : Except Fault (ChannelId × Channel) :=
  match scene.handles.find? (·.1 == handle) with
  | none => .error (.unknown handle)
  | some (_, id) =>
    match scene.client.channels[id]? with
    | none => .error (.unknown handle)
    | some channel => .ok (id, channel)

def locateAll (scene : Scene) : List Handle → Except Fault (List Channel)
  | [] => .ok []
  | handle :: rest => do
    let (_, channel) ← scene.locate handle
    pure (channel :: (← scene.locateAll rest))

def view (scene : Scene) (handle : Handle) (look : Channel → Value) : Scene × StepResult :=
  (scene, (scene.locate handle).map fun (_, channel) => look channel)

/-- Changes a channel, unless that is refused. -/
def change (scene : Scene) (handle : Handle) (update : Channel → Except Error Channel) : Scene × StepResult :=
  match scene.locate handle with
  | .error fault => (scene, .error fault)
  | .ok (id, channel) =>
    match update channel with
    | .error error => (scene, .error (.refused error))
    | .ok channel => ({ scene with client := scene.client.setChannel id channel }, .ok .nothing)

/-- Takes what an operation of the client made of it. -/
def after (scene : Scene) (result : Client × Except Error Unit) : Scene × StepResult :=
  ({ scene with client := result.1 }, (result.2.mapError .refused).map fun _ => .nothing)

/-- Lets the client do something with a channel. -/
def apply (scene : Scene) (handle : Handle) (operation : ChannelId → Client × Except Error Unit) :
    Scene × StepResult :=
  match scene.locate handle with
  | .error fault => (scene, .error fault)
  | .ok (id, _) => scene.after (operation id)

def arrive (scene : Scene) (socket : Option SocketId) (arrival : Arrival) : Scene × StepResult :=
  let client := scene.client
  let socket := socket.getD (client.sockets.length - 1)
  if socket < client.sockets.length then
    let sockets := client.sockets.modify socket fun socket =>
      { socket with incoming := socket.incoming ++ [arrival] }
    ({ scene with client := { client with sockets } }, .ok .nothing)
  else (scene, .error (.unknown "socket"))

/-- The queue for callbacks is shut down once; doing so again is not worth a record. -/
def shutDown (scene : Scene) : Scene × StepResult :=
  let client := scene.client
  if client.accepting then
    ({ scene with client := { client with accepting := false }.log .dispatcher .debug "EventQueue shut down" },
      .ok .nothing)
  else (scene, .ok .nothing)

def setTransport (scene : Scene) (transport : Transport) : Scene × StepResult :=
  ({ scene with client := { scene.client with transport } }, .ok .nothing)

def perform (scene : Scene) : Act → Scene × StepResult
  | .make handle name family =>
    match Channel.make name family with
    | .error error => (scene, .error (.refused error))
    | .ok channel =>
      let client := { scene.client with channels := scene.client.channels ++ [channel] }
      (Scene.setHandle { scene with client } handle scene.client.channels.length,
        .ok (.made channel.name channel.family.label))
  | .bind handle event listener => scene.change handle fun channel => channel.bind event listener
  | .unbind handle event listener => scene.change handle fun channel => channel.unbind event listener
  | .listeners handle event =>
    scene.view handle fun channel =>
      .texts (Text.sort ((event.map channel.bindings.listenersFor).getD []))
  | .request handle => scene.view handle fun channel => .text channel.request.encode
  | .farewell handle =>
    match scene.locate handle with
    | .error fault => (scene, .error fault)
    | .ok (id, channel) =>
      let (scene, result) := scene.after (scene.client.moveTo id .ended)
      (scene, result.map fun _ => .text channel.farewell.encode)
  | .move handle phase => scene.apply handle fun id => scene.client.moveTo id phase
  | .setToken handle token => scene.change handle fun channel => .ok { channel with token }
  | .setLifecycle handle lifecycle => scene.change handle fun channel => .ok { channel with lifecycle }
  | .receive handle event frame => scene.apply handle fun id => scene.client.receive id event frame
  | .describe handle => scene.view handle fun channel => .text channel.describe
  | .precedes handle other =>
    (scene, do
      let (_, first) ← scene.locate handle
      let (_, second) ← scene.locate other
      pure (.flag (decide (first.name < second.name))))
  | .sort handles =>
    (scene, (scene.locateAll handles).map fun channels => .texts (Text.sort (channels.map (·.name))))
  | .find name => (scene, .ok (.handle ((name.bind scene.client.lookup).bind scene.handleOf)))
  | .contains name => (scene, .ok (.flag (name.bind scene.client.lookup).isSome))
  | .deliver name event frame => scene.after (scene.client.deliver name event frame)
  | .lose true => scene.after scene.client.suspendAll
  | .lose false => scene.after (scene.client.endAll, .ok ())
  | .attach connected => scene.setTransport (.direct connected)
  | .setConnected connected =>
    match scene.client.transport with
    | .direct _ => scene.setTransport (.direct connected)
    | _ => (scene, .ok .nothing)
  | .arrive socket arrival => scene.arrive socket arrival
  | .statistics => (scene, .ok (.statistics scene.client.statistics))
  | .shutDown => scene.shutDown

end Scene
end Pubsub
