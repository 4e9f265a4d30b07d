import Pubsub.Proofs.Attendance
import Pubsub.Proofs.Serving
import Pubsub.Proofs.Turns

/-! A client that is used in good order: its connection in turns, its channels through subscriptions and frames only,
and whatever it sends is sent. It is in step with its server after every event. -/

namespace Pubsub

def Stage.sends : Stage → Bool
  | .subscribing _ | .resubscribing _ _ _ | .unsubscribing | .messaging => true
  | _ => false

/-- Whether a text is a request to subscribe a channel or to end it. There is room to read it, however long it is. -/
def Text.requests (text : Text) : Bool :=
  match Envelope.ofText text.length text with
  | .ok envelope => envelope.event = some Request.subscribeEvent || envelope.event = some Request.unsubscribeEvent
  | .error _ => false

namespace Client

/-- Whether an event is in good order. The application does not drive channels but by subscribing and unsubscribing,
nor does it send requests of its own, and no send fails. -/
def orderly (client : Client) (event : Event) : Bool :=
  client.inTurn event &&
    match event with
    | .move _ _ | .resubscribe _ | .lose _ | .attach _ => false
    | .send _ text => !text.requests
    | .resume call (.error _) => (client.call? call).all (!·.stage.sends)
    | _ => true

/-- The server is told nothing, no call is suspended, and nothing happens to the connection. -/
structure Aside (before after : Client) : Prop extends Stays before after where
  handed : after.handed = before.handed
  calls : after.calls = before.calls
  next : after.nextCall = before.nextCall
  link : after.link = before.link

theorem Aside.beside {before after : Client} (aside : Aside before after) : Beside before after where
  toStays := aside.toStays
  handed := aside.handed
  established := congrArg Link.established aside.link
  socket := congrArg Link.socket aside.link
  queued := fun _ queued => queued.more (aside.calls ▸ List.prefix_rfl)
  quitting := by rw [quitting, quitting, aside.calls]

namespace Aside

theorem refl (client : Client) : Aside client client := ⟨.of_same rfl rfl rfl, rfl, rfl, rfl, rfl⟩

theorem trans {first middle last : Client} (a : Aside first middle) (b : Aside middle last) : Aside first last := by
  refine ⟨⟨b.transport.trans a.transport, a.names.trans b.names, b.registered.trans a.registered, ?_⟩,
    b.handed.trans a.handed, b.calls.trans a.calls, b.next.trans a.next, b.link.trans a.link⟩
  intro id member
  rcases b.phases id (a.registered ▸ member) with same | subscribed
  · exact same ▸ a.phases id member
  · exact .inr subscribed

theorem log (client : Client) (source : Source) (level : Level) (message : Text) (details : Members) :
    Aside client (client.log source level message details) := ⟨.of_same rfl rfl rfl, rfl, rfl, rfl, rfl⟩

theorem hears {before after : Client} (hears : Hears before after) : Aside before after := by
  have names := hears.names
  have phases := hears.phases
  obtain ⟨_, _, _, rfl⟩ := hears.quiet
  exact ⟨⟨rfl, names ▸ List.prefix_rfl, rfl, fun id _ => (phases id).imp_right And.left⟩, rfl, rfl, rfl, rfl⟩

theorem counted (client : Client) : Aside client client.counted := ⟨.of_same rfl rfl rfl, rfl, rfl, rfl, rfl⟩

theorem leave (client : Client) (socket : SocketId) (rest : List Arrival) : Aside client (client.leave socket rest) :=
  ⟨.of_same rfl rfl rfl, rfl, rfl, rfl, leave_link client socket rest⟩

theorem numbered {before after : Client} (aside : Aside before after) (numbered : before.Numbered) : after.Numbered := by
  unfold Numbered at numbered ⊢
  rwa [aside.calls, aside.next]

end Aside

/-- A call is suspended that neither requests channels nor gives the connection up. -/
theorem Beside.suspend {before after : Client} (stays : Stays before after) (handed : after.handed = before.handed)
    (established : after.connection.established = before.connection.established)
    (socket : after.connection.socket = before.connection.socket) {entry : CallId × Call}
    (calls : after.calls = before.calls ++ [entry]) (aside : entry.2.stage.givesUp = false) : Beside before after where
  toStays := stays
  handed := handed
  established := established
  socket := socket
  queued := fun _ queued => queued.more (calls ▸ List.prefix_append _ _)
  quitting := quitting_of_calls calls fun _ member => List.mem_singleton.mp member ▸ aside

theorem Beside.message (client : Client) (task : Task) (text : Text) : Beside client (client.message task text).1 := by
  unfold Client.message
  split
  · exact (Aside.refl client).beside
  next socket target =>
    let handed : Client := { client with sent := client.sent ++ [⟨socket, .message text⟩] }
    have same : handed.handed = client.handed := by simp [handed, Client.handed, ledger, Sent.entry?]
    have calls : (handed.suspend task .messaging).1.calls = client.calls ++ [(client.nextCall, ⟨task, .messaging⟩)] := rfl
    exact .suspend (.of_same rfl rfl rfl) same rfl rfl calls rfl

theorem Beside.connect (client : Client) (task : Task) : Beside client (client.connect task).1 := by
  have calls : (client.connect task).1.calls = client.calls ++ [(client.nextCall, ⟨task, .connecting⟩)] := rfl
  exact .suspend (.of_same rfl rfl rfl) rfl rfl rfl calls rfl

theorem Beside.setReading (client : Client) (reader : ReaderId) (reading : Reading) :
    Beside client (client.setReading reader reading) :=
  ⟨.of_same rfl rfl rfl, rfl, rfl, rfl, fun _ queued => queued, rfl⟩

/-- What the taking of an arrival comes to: it leaves the connection alone, or ends the reader, or confirms the
connection. -/
inductive Turned (client : Client) (reader : ReaderId) (socket : SocketId) : Client → Prop where
  | aside {after : Client} (aside : Aside client after) : Turned client reader socket after
  | ends {middle : Client} (aside : Aside client middle) (outcome : Outcome) :
      Turned client reader socket (middle.finish reader outcome)
  | confirms {middle : Client} (aside : Aside client middle) (members : Members) :
      Turned client reader socket (middle.confirm reader socket members).1

section
variable {client : Client} {reader : ReaderId} {socket : SocketId}

theorem Aside.turned {middle after : Client} (aside : Aside client middle) (turned : Turned middle reader socket after) :
    Turned client reader socket after := by
  cases turned with
  | aside later => exact .aside (aside.trans later)
  | ends later outcome => exact .ends (aside.trans later) outcome
  | confirms later members => exact .confirms (aside.trans later) members

private theorem fail_turned (client : Client) (reader : ReaderId) (socket : SocketId) (error : Error) :
    Turned client reader socket (client.fail reader error) := by
  unfold fail
  split
  · exact .ends (.log client _ _ _ _) .ended
  · exact .ends (.refl client) _

private theorem route_turned (client : Client) (reader : ReaderId) (socket : SocketId) (channel event : Text)
    (frame : Frame) :
    Turned client reader socket (client.route reader channel event frame) := by
  have heard : Aside client (client.deliver channel event frame).1 := .hears (.deliver client channel event frame)
  unfold route delivered
  dsimp only
  split
  · exact .aside heard
  · exact .aside (heard.trans (.log _ _ _ _ _))
  · split
    · exact .aside (heard.trans (.log _ _ _ _ _))
    · exact heard.turned (fail_turned _ reader socket _)

private theorem establish_turned (client : Client) (reader : ReaderId) (socket : SocketId) (depth : Nat)
    (data : Payload) :
    Turned client reader socket (client.establish reader socket depth data).1 := by
  unfold establish
  split
  · exact .confirms (.refl client) _
  · exact .confirms (.log client _ _ _ _) []
  · exact fail_turned client reader socket _

private theorem handle_turned (client : Client) (reader : ReaderId) (socket : SocketId) (frame : Frame) :
    Turned client reader socket (client.handle reader socket frame).1 := by
  have counted : Aside client client.counted := .counted client
  unfold handle
  dsimp only
  split
  · exact .aside (counted.trans (.log _ _ _ _ _))
  · exact counted.turned (fail_turned _ reader socket _)
  · split
    · exact counted.turned (establish_turned _ reader socket _ _)
    · split
      · exact .aside (counted.trans (.log _ _ _ _ _))
      · split
        · exact counted.turned (route_turned _ reader socket _ _ frame)
        · exact .aside (counted.trans (.log _ _ _ _ _))

private theorem take_turned (client : Client) (reader : ReaderId) (socket : SocketId) (arrival : Arrival) :
    Turned client reader socket (client.take reader socket arrival).1 := by
  cases arrival with
  | frame frame => exact handle_turned client reader socket frame
  | ending ending =>
    cases ending with
    | finished => exact .ends (.refl client) .ended
    | closed code => exact .ends (.log client _ _ _ _) .ended
    | broken code reason => exact fail_turned client reader socket (.socketClosed code reason)
    | failed reason => exact fail_turned client reader socket (.system reason)

end

/-- What a turn of a reader comes to where the connection is used in turns: nothing, unless it is the reader that
attends the connection, which starts or takes what has arrived. -/
inductive Turning (latest : Latest) (client : Client) : ReaderId → Client → Prop where
  | nothing (reader : ReaderId) : Turning latest client reader client
  | starts {former : List Reader} (attended : client.link.Attended latest former .starting) :
      Turning latest client former.length (client.setReading former.length (.idle former.length))
  | takes {former : List Reader} (attended : client.link.Attended latest former (.idle former.length)) {after : Client}
      (turned : Turned client former.length former.length after) : Turning latest client former.length after

theorem turn_turning {client : Client} {latest : Latest} (place : client.link.Place latest) {reader : ReaderId}
    (going : client.isCancelling (.reader reader) = false) : Turning latest client reader (client.turn reader).1 := by
  cases done : client.isDone reader with
  | true =>
    rw [turn_of_done client done]
    exact .nothing reader
  | false =>
    obtain ⟨former, reading, rfl, reads, attended⟩ := attended_of_undone place done going
    cases reading with
    | starting =>
      have socket : client.connection.socket = some former.length := attended.socket
      simp only [turn, reads, socket]
      exact .starts attended
    | idle current =>
      obtain rfl : current = former.length := attended.attends
      cases next : client.next former.length with
      | none =>
        rw [turn_of_unread reads going next]
        exact .nothing _
      | some arrival =>
        obtain ⟨socket, rest, idle, _, turned⟩ := turn_of_next next
        obtain rfl : former.length = socket := by simpa [idle] using reads.symm
        rw [turned]
        exact .takes attended ((Aside.leave client _ rest).turned (take_turned _ _ _ arrival))
    | busy current =>
      simp only [turn, reads]
      exact .nothing _
    | finished => exact attended.attends.elim

section
variable {client : Client} {latest : Latest} {reader : ReaderId} {socket : SocketId}

theorem InStep.settle (inStep : client.InStep []) {result : Except Error (Option ChannelId)}
    (own : ∀ error, result = .error error → error.own = true) (reader : ReaderId) (socket : SocketId) :
    (client.settle reader socket result).InStep [] := by
  unfold Client.settle
  split
  · exact inStep.beside (.setReading client reader _)
  next error =>
    rw [if_pos (own error rfl)]
    exact (inStep.beside (.log client _ _ _ _)).beside (.setReading _ reader _)

theorem InStep.settled {result : Client × Progress} (inStep : result.1.InStep [])
    (own : ∀ error, result.2 = .done (.error error) → error.own = true) (reader : ReaderId) (socket : SocketId) :
    (settled reader socket result).InStep [] := by
  obtain ⟨client, result | call⟩ := result
  · exact inStep.settle (fun error same => own error (congrArg Progress.done same)) reader socket
  · exact inStep

theorem InStep.passOn {result : Client × Progress} (inStep : result.1.InStep [])
    (own : ∀ error, result.2 = .done (.error error) → error.own = true) (reader : Option ReaderId) :
    (passOn reader result).1.InStep [] := by
  obtain ⟨client, result | call⟩ := result
  · cases reader with
    | none => exact inStep
    | some reader =>
      simp only [Client.passOn]
      split
      · exact inStep.settle (fun error same => own error (congrArg Progress.done same)) reader _
      · exact inStep
  · exact inStep

theorem InStep.sound {left : List ChannelId} (inStep : client.InStep left) (numbered : client.Numbered) : client.Sound :=
  ⟨numbered, by rw [inStep.attached]; exact nofun⟩

/-- Requests that go on in turn leave the client in step with its server. -/
theorem InStep.proceed {ids : List ChannelId} (inStep : client.InStep ids) (numbered : client.Numbered) (task : Task)
    (reader : Option ReaderId) :
    (Client.resubscribe task reader ids client).1.InStep [] ∧
      ∀ error, (Client.resubscribe task reader ids client).2 = .done (.error error) → error.own = true :=
  ⟨inStep.resubscribe task reader, fun _ => (resubscribe_requested (inStep.sound numbered) task reader ids).own⟩

/-- When the connection is confirmed, nothing is served yet, or what is served is registered. All channels are left. -/
theorem InStep.confirm (inStep : client.InStep []) (numbered : client.Numbered)
    (current : client.connection.socket = some socket)
    (new : client.connection.established = false → client.servedBy socket = ∅) (reader : ReaderId) (members : Members) :
    (client.confirm reader socket members).1.InStep [] := by
  let busy := (client.established members).setReading reader (.busy socket)
  have ready : busy.InStep busy.listing := by
    refine ⟨inStep.attached, ⟨inStep.registry.known, inStep.registry.distinct⟩, inStep.live, ?_, ?_⟩
    · intro other online
      obtain rfl : socket = other := Option.some.inj (current.symm.trans online.2)
      refine ⟨?_, fun id known => .inl ((List.mergeSort_perm busy.registered _).mem_iff.mpr known)⟩
      intro name given
      cases established : client.connection.established with
      | true => exact (inStep.agrees socket ⟨established, current⟩).names name given
      | false =>
        have none : busy.servedBy socket = ∅ := new established
        rw [none] at given
        exact absurd given (Finset.notMem_empty name)
    · intro down
      have connected : busy.isConnected = true := isConnected_iff.mpr ⟨socket, rfl, current⟩
      rw [connected] at down
      contradiction
  obtain ⟨requested, own⟩ := ready.proceed numbered (.reader reader) (some reader)
  rw [confirm_settled]
  exact requested.settled own reader socket

end

section
variable {client : Client} {left : List ChannelId}

/-- When the connection has been given up, no channel is registered any more. -/
theorem tearDown_inStep (attached : client.transport = .connection) (down : client.connection.established = false) :
    client.tearDown.1.InStep [] := by
  have quiet := endEach_quiet client client.registered
  refine .cleared ?_ rfl ?_ []
  · unfold tearDown endAll
    obtain ⟨_, _, _, same⟩ := quiet
    rw [same]
    exact attached
  · unfold tearDown endAll
    obtain ⟨_, _, _, same⟩ := quiet
    rw [same]
    exact down

theorem InStep.closeSocket {before : Client} (inStep : before.InStep left) (stays : Stays before client)
    (down : client.connection.established = false) (task : Task) : (client.closeSocket task).1.InStep [] := by
  unfold Client.closeSocket
  split
  · exact tearDown_inStep (stays.transport.trans inStep.attached) down
  next socket found =>
    let closed : Client := { client with
      sockets := client.sockets.modify socket fun socket => { socket with closes := socket.closes + 1 } }
    have quits : (closed.suspend task (.closing socket)).1.quitting = true := by
      simp [quitting, Client.suspend, Stage.givesUp]
    have kept : Stays before (closed.suspend task (.closing socket)).1 :=
      ⟨stays.transport, stays.names, stays.registered, stays.phases⟩
    exact inStep.quits kept down quits []

private theorem closed_inStep (attached : client.transport = .connection) (down : client.connection.established = false)
    (socket : SocketId) : (client.closed socket).1.InStep [] := by
  unfold closed
  dsimp only
  split
  · exact tearDown_inStep attached down
  · exact tearDown_inStep attached down

end

/-- A client in good order: it is in step with its server, and to a socket that was opened last and has not confirmed
the connection nothing was asked, nor to one that is not open yet. -/
structure Standing (client : Client) (latest : Latest) : Prop where
  tidy : client.Tidy
  place : client.link.Place latest
  inStep : client.InStep []
  unused : ∀ socket, client.sockets.length ≤ socket + (if latest.confirmed then 0 else 1) →
    ∀ request, (some socket, request) ∉ client.handed

private theorem servedBy_of_unused {client : Client} {socket : SocketId}
    (unused : ∀ request, (some socket, request) ∉ client.handed) : client.servedBy socket = ∅ := by
  have none : client.handed.filter (·.1 = some socket) = [] := by
    refine List.filter_eq_nil_iff.mpr ?_
    intro entry member same
    have same : entry.1 = some socket := of_decide_eq_true same
    exact unused entry.2 (same ▸ member)
  rw [servedBy, none]
  rfl

theorem fresh_standing (url : Text) : (fresh url).Standing {} where
  tidy := fresh_tidy url
  place := fresh_place url
  inStep := .cleared rfl rfl rfl []
  unused := fun _ _ _ => List.not_mem_nil

namespace Standing
variable {client : Client} {latest : Latest} (standing : client.Standing latest)
include standing

theorem turn {reader : ReaderId} (going : client.isCancelling (.reader reader) = false) :
    (client.turn reader).1.InStep [] := by
  have turning := turn_turning standing.place going
  generalize (client.turn reader).1 = after at turning
  cases turning with
  | nothing => exact standing.inStep
  | starts => exact standing.inStep.beside (.setReading client _ _)
  | @takes former attended _ turned =>
    cases turned with
    | aside aside => exact standing.inStep.beside aside.beside
    | @ends middle aside outcome =>
      have inStep := standing.inStep.beside aside.beside
      have kept : middle.connection.closing = false := (congrArg Link.closing aside.link).trans attended.kept
      exact inStep.lost (inStep.ends kept _ outcome) []
    | @confirms middle aside members =>
      have current : middle.connection.socket = some former.length := (congrArg Link.socket aside.link).trans attended.socket
      have same : middle.connection.established = latest.confirmed :=
        (congrArg Link.established aside.link).trans attended.told.1
      have sockets := sockets_of_readers standing.tidy.paired attended.readers
      refine (standing.inStep.beside aside.beside).confirm (aside.numbered standing.tidy.ordered.numbered) current ?_ _ members
      intro down
      rw [servedBy_of_handed aside.handed]
      refine servedBy_of_unused (standing.unused former.length ?_)
      rw [← same, down, sockets]
      exact Nat.le_refl _

theorem disconnect {task : Task} (inTurn : client.inTurn (.disconnect task) = true) :
    (client.disconnect task).1.InStep [] := by
  simp only [Client.inTurn, Bool.and_eq_true, decide_eq_true_eq, List.isEmpty_iff] at inTurn
  obtain ⟨rfl, none⟩ := inTurn
  have given : Stays client client.givingUp := .of_same rfl rfl rfl
  rcases standing.place.free none with ⟨rest, _⟩ | ⟨former, reading, attended⟩
  · rw [disconnect_of_rest rest]
    exact standing.inStep.closeSocket given rfl .application
  · rw [disconnect_of_attended attended]
    let told : Client := { client.givingUp with readers := former ++ [({ reading, cancelling := true } : Reader)] }
    have quits : (told.suspend .application (.disconnecting (some former.length))).1.quitting = true := by
      simp [quitting, Client.suspend, Stage.givesUp]
    have stays : Stays client (told.suspend .application (.disconnecting (some former.length))).1 := .of_same rfl rfl rfl
    exact standing.inStep.quits stays rfl quits []

theorem unwind {reader : ReaderId} (told : client.isCancelling (.reader reader) = true) :
    (client.unwind reader).InStep [] := by
  obtain ⟨state, found, cancelling⟩ := told_found told
  obtain ⟨call, former, _, stopping, _⟩ := standing.place.told found cancelling
  have down : client.connection.established = false := stopping.down
  have given : client.connection.closing = true := stopping.given
  have held : (call, Call.mk .application (.disconnecting (some former.length))) ∈ client.calls := by
    have dealing := stopping.dealings ▸ List.mem_singleton_self _
    exact List.mem_of_mem_filter dealing
  have waits : (client.abandon reader).quitting = true :=
    List.any_eq_true.mpr ⟨_, List.mem_filter.mpr ⟨held, rfl⟩, rfl⟩
  unfold Client.unwind
  dsimp only
  split
  · have stays : Stays client ((client.abandon reader).setReading reader (.finished .cancelled)) := .of_same rfl rfl rfl
    exact standing.inStep.quits stays down waits []
  · have closing : (client.abandon reader).lost.connection.closing = true := given
    have stays : Stays client ((client.abandon reader).lost.setReading reader (.finished .cancelled)) :=
      .of_same rfl rfl rfl
    simp only [finish, closing, if_true]
    exact standing.inStep.quits stays rfl waits []

omit standing in
/-- What is sent in good order is sent. -/
theorem sent {call : CallId} {outcome : Except Error Unit} (orderly : client.orderly (.resume call outcome) = true)
    {task : Task} {stage : Stage} (held : client.call? call = some ⟨task, stage⟩) (sends : stage.sends = true) :
    outcome = .ok () := by
  cases outcome with
  | ok => rfl
  | error => simp [Client.orderly, held, sends] at orderly

theorem resume {call : CallId} {outcome : Except Error Unit} (orderly : client.orderly (.resume call outcome) = true)
    (possible : client.possible (.resume call outcome) = true) : (client.resume call outcome).1.InStep [] := by
  obtain ⟨⟨task, stage⟩, held⟩ := Option.isSome_iff_exists.mp (present_of_possible possible)
  have ordered := standing.tidy.ordered
  have dropped (aside : stage.givesUp = false) : (client.drop call).InStep stage.rest :=
    standing.inStep.drop ordered held aside
  simp only [Client.possible, canResume, held, Bool.and_eq_true] at possible
  cases stage with
  | subscribing channel =>
    obtain rfl := sent orderly held rfl
    simp only [Client.resume, held]
    exact dropped rfl
  | unsubscribing | messaging =>
    simp only [Client.resume, held]
    exact dropped rfl
  | resubscribing channel rest reader =>
    obtain rfl := sent orderly held rfl
    have numbered : (client.drop call).Numbered := by
      intro entry member
      exact ordered.numbered entry (List.mem_of_mem_filter member)
    obtain ⟨requested, own⟩ := (dropped rfl).proceed numbered task reader
    simp only [Client.resume, held]
    exact requested.passOn own reader
  | connecting =>
    obtain ⟨_, _, down, _⟩ := dealing_of_held standing.place held rfl
    simp only [Client.resume, held]
    cases outcome with
    | ok =>
      have opened : Stays (client.drop call) (client.drop call).opened := .of_same rfl rfl rfl
      have lost : (client.drop call).connection.established = false := down
      have still : (client.drop call).opened.connection.established = false := down
      exact (dropped rfl).offline opened lost still rfl []
    | error error => exact dropped rfl
  | disconnecting reader =>
    obtain _ | stopping := dealing_of_held standing.place held rfl
    obtain ⟨closes, _⟩ := resume_of_stopping stopping held possible.2 outcome
    rw [closes]
    have stays : Stays client (client.drop call) := .of_same rfl rfl rfl
    have down : (client.drop call).connection.established = false := stopping.down
    exact standing.inStep.closeSocket stays down .application
  | closing socket =>
    obtain _ | _ | ⟨_, _, down, _⟩ := dealing_of_held standing.place held rfl
    simp only [Client.resume, held]
    have attached : (client.drop call).transport = .connection := standing.inStep.attached
    have down : (client.drop call).connection.established = false := down
    exact closed_inStep attached down socket

theorem perform {event : Event} (orderly : client.orderly event = true) (possible : client.possible event = true) :
    (client.perform event).InStep [] := by
  have inStep := standing.inStep
  have turn : client.inTurn event = true := (Bool.and_eq_true_iff.mp orderly).1
  cases event with
  | make name family =>
    simp only [Client.perform]
    split
    · exact inStep
    next channel made =>
      refine inStep.beside ⟨⟨rfl, by simp [Client.names], rfl, ?_⟩, rfl, rfl, rfl, fun _ queued => queued, rfl⟩
      intro id member
      have known := inStep.registry.known id member
      exact .inl (by simp [phase?, List.getElem?_append_left known])
  | bind | unbind | setToken | setLifecycle | receive | deliver =>
    exact inStep.beside (Aside.hears (perform_hears client rfl)).beside
  | subscribe task name listener events => exact inStep.subscribe task name listener events
  | unsubscribe task name => exact inStep.unsubscribe task name
  | connect task => exact inStep.beside (.connect client task)
  | send task text => exact inStep.beside (.message client task text)
  | disconnect task => exact standing.disconnect turn
  | resume call outcome => exact standing.resume orderly possible
  | turn reader => exact standing.turn (by simpa [Client.possible] using possible)
  | unwind reader => exact standing.unwind possible
  | arrive | jam | callback | failure | shutDown =>
    exact inStep.beside ⟨.of_same rfl rfl rfl, rfl, rfl, rfl, fun _ queued => queued, rfl⟩
  | move | resubscribe | lose | attach => simp [Client.orderly] at orderly

end Standing

/-- A connection that is established is attended by a reader of its socket, which has confirmed it. -/
theorem attended_of_online {client : Client} {latest : Latest} (place : client.link.Place latest) {socket : SocketId}
    (online : client.Online socket) :
    ∃ former reading, client.link.Attended latest former reading ∧ socket = former.length ∧ latest.confirmed = true := by
  have up : client.link.established = true := online.1
  cases place with
  | resting _ _ down | opening _ _ down | closing _ _ down =>
    rw [up] at down
    contradiction
  | attended attended =>
    exact ⟨_, _, attended, Option.some.inj (online.2.symm.trans attended.socket), attended.told.1.symm.trans up⟩
  | stopping stopping =>
    rw [stopping.down] at up
    contradiction

private theorem step_opens {client : Client} {event : Event} (opens : client.opens event = true) :
    (client.step event).sockets.length = client.sockets.length + 1 := by
  cases event with
  | resume call outcome =>
    cases outcome with
    | error => contradiction
    | ok =>
      simp only [Client.opens, Bool.and_eq_true, Option.any_eq_true, decide_eq_true_eq] at opens
      obtain ⟨goes, ⟨task, stage⟩, held, rfl⟩ := opens
      have possible : client.possible (.resume call (.ok ())) = true := goes
      rw [step, if_pos possible]
      simp only [Client.perform, resume, held, opened, List.length_append, List.length_singleton]
      rfl
  | _ => contradiction

namespace Standing
variable {client : Client} {latest : Latest} (standing : client.Standing latest) {event : Event}
include standing

private theorem step_inStep (orderly : client.orderly event = true) : (client.step event).InStep [] := by
  unfold step
  split
  next possible => exact standing.perform orderly possible
  · exact standing.inStep

private theorem step_unused (inStep : (client.step event).InStep [])
    (place : (client.step event).link.Place (latest.next client event))
    (socket : SocketId) (beyond : (client.step event).sockets.length ≤
      socket + (if (latest.next client event).confirmed then 0 else 1)) (request : Request) :
    (some socket, request) ∉ (client.step event).handed := by
  obtain ⟨entries, handover, ledger⟩ := step_handover standing.tidy event
  have new {current : Option SocketId} (target : (client.step event).target = .ok current) : current ≠ some socket := by
    rintro rfl
    obtain ⟨_, same, online⟩ := online_of_target inStep.attached target
    obtain ⟨former, reading, attended, rfl, confirmed⟩ := attended_of_online place online
    have sockets := sockets_of_readers (step_tidy event standing.tidy).paired attended.readers
    cases same
    rw [confirmed, sockets] at beyond
    exact absurd beyond (Nat.not_succ_le_self _)
  have old : client.sockets.length ≤ socket + (if latest.confirmed then 0 else 1) := by
    have more := step_sockets standing.tidy event
    cases opens : client.opens event with
    | true =>
      have opened := step_opens opens
      simp only [Latest.next, opens, if_true, Bool.false_eq_true, if_false] at beyond
      omega
    | false =>
      simp only [Latest.next, opens, Bool.false_eq_true, if_false] at beyond
      cases confirmed : latest.confirmed with
      | true =>
        simp only [confirmed, Bool.true_or, if_true] at beyond ⊢
        exact Nat.le_trans more beyond
      | false =>
        simp only [Bool.false_eq_true, if_false]
        split at beyond <;> omega
  intro member
  rw [handed_append ledger] at member
  rcases List.mem_append.mp member with before | now
  · exact standing.unused socket old request before
  · cases handover with
    | nothing => contradiction
    | subscribe _ _ _ target => exact new target (Prod.mk.inj (List.mem_singleton.mp now)).1.symm
    | unsubscribe _ _ target => exact new target (Prod.mk.inj (List.mem_singleton.mp now)).1.symm

theorem step (orderly : client.orderly event = true) : (client.step event).Standing (latest.next client event) := by
  have turn : client.inTurn event = true := (Bool.and_eq_true_iff.mp orderly).1
  have place := step_place standing.tidy standing.place turn
  have inStep := standing.step_inStep orderly
  exact ⟨step_tidy event standing.tidy, place, inStep, standing.step_unused inStep place⟩

end Standing

/-- A client that is used in good order stays in step with its server. -/
theorem run_standing {client : Client} {latest : Latest} (standing : client.Standing latest) {events : List Event}
    (orderly : Follows Client.orderly client events = true) :
    (client.run events).Standing (latest.after client events) := by
  induction events generalizing client latest with
  | nil => exact standing
  | cons event rest ih =>
    obtain ⟨first, later⟩ := Bool.and_eq_true_iff.mp orderly
    exact ih (standing.step first) later

end Client
end Pubsub
