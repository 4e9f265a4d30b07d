import Pubsub.Proofs.Attendance
import Pubsub.Proofs.Stretch

/-! What a reader leaves alone, whatever it takes: which channels there are and who listens to them, whether they have ended,
where frames go and come from, and the calls of others. All that it adds to that is a request which it waits for. -/

namespace Pubsub

/-- A channel without its token, and of its phase no more than whether it has ended. -/
def Channel.outline (channel : Channel) : Channel :=
  { channel with token := none, phase := if channel.phase = .ended then .ended else .initial }

/-- A socket without what arrives on it. -/
def Socket.outline (socket : Socket) : Socket := { socket with incoming := [] }

/-- A connection without what its frames tell. -/
def Connection.outline (connection : Connection) : Connection :=
  { connection with established := false, name := .null, received := 0 }

def Client.outline (client : Client) : Client :=
  { client with
    channels := client.channels.map Channel.outline
    connection := client.connection.outline
    sockets := client.sockets.map Socket.outline
    readers := [], waiting := [], records := [] }

theorem Client.calls_of_outline {before after : Client} (same : after.outline = before.outline) : after.calls = before.calls :=
  (congrArg Client.calls same : after.outline.calls = before.outline.calls)

/-- What an outline tells of its channel. -/
theorem Channel.of_outline {channel other : Channel} (same : channel.outline = other.outline) :
    channel.name = other.name ∧ channel.lifecycle = other.lifecycle ∧ channel.bindings = other.bindings ∧
      (channel.phase = .ended ↔ other.phase = .ended) := by
  simp only [outline, Channel.mk.injEq] at same
  obtain ⟨name, _, phase, _, lifecycle, bindings⟩ := same
  refine ⟨name, lifecycle, bindings, ?_⟩
  by_cases first : channel.phase = .ended <;> by_cases second : other.phase = .ended <;> simp_all

private theorem Channel.outline_of_live {channel changed : Channel} (live : channel.phase ≠ .ended)
    (still : changed.phase ≠ .ended)
    (profile : { changed with token := none, phase := .initial } = { channel with token := none, phase := .initial }) :
    changed.outline = channel.outline := by
  simpa only [outline, if_neg live, if_neg still] using profile

private theorem Channel.moveTo_outline {channel : Channel} {phase : Phase} (other : phase ≠ .ended)
    {reaction : Reaction}
    (moved : channel.moveTo phase = .ok reaction) : reaction.channel.outline = channel.outline := by
  unfold moveTo at moved
  split at moved
  · contradiction
  next allowed =>
    cases moved
    have live : channel.phase ≠ .ended := fun ended => allowed ⟨ended, other⟩
    exact outline_of_live live other rfl

private theorem Channel.receive_outline {channel : Channel} {event : Text} {frame : Frame} {reaction : Reaction}
    (received : channel.receive event frame = .ok reaction) : reaction.channel.outline = channel.outline := by
  unfold receive at received
  split at received
  · cases received
    rfl
  next live =>
    obtain ⟨envelope, _, received⟩ := of_bind_ok received
    split at received
    · obtain ⟨members, _, received⟩ := of_bind_ok received
      obtain ⟨token, _, moved⟩ := of_bind_ok received
      rw [moveTo_outline (by decide) moved]
      exact outline_of_live live live rfl
    · cases received
      exact outline_of_live live live rfl

namespace Client

private theorem react_outline {client : Client} {id : ChannelId} {channel : Channel}
    (found : client.channels[id]? = some channel)
    {reaction : Reaction} (same : reaction.channel.outline = channel.outline) :
    (client.react id reaction).1.outline = client.outline := by
  obtain ⟨inside, rfl⟩ := List.getElem?_eq_some_iff.mp found
  have bound : id < (client.channels.map Channel.outline).length := by simpa using inside
  have here : client.channels[id].outline = (client.channels.map Channel.outline)[id] := by rw [List.getElem_map]
  have channels : (client.channels.set id reaction.channel).map Channel.outline = client.channels.map Channel.outline := by
    rw [List.map_set, same, here, List.set_getElem_self]
  unfold react
  rw [submit_fst]
  simp only [outline, setChannel, channels]

variable (client : Client)

private theorem moveTo_outline (id : ChannelId) {phase : Phase} (other : phase ≠ .ended) :
    (client.moveTo id phase).1.outline = client.outline := by
  unfold moveTo
  split
  · rfl
  next channel found =>
    split
    · rfl
    next reaction moved => exact react_outline found (Channel.moveTo_outline other moved)

theorem rollBack_outline (id : ChannelId) : (client.rollBack id).outline = client.outline := by
  unfold rollBack
  split
  · exact moveTo_outline client id (by decide)
  · rfl

private theorem receive_client_outline (id : ChannelId) (event : Text) (frame : Frame) :
    (client.receive id event frame).1.outline = client.outline := by
  unfold receive
  split
  · rfl
  next channel found =>
    split
    · rfl
    next reaction received => exact react_outline found (Channel.receive_outline received)

private theorem deliver_outline (name event : Text) (frame : Frame) :
    (client.deliver name event frame).1.outline = client.outline := by
  unfold deliver
  split
  · rfl
  · exact receive_client_outline client _ event frame

private theorem resetAll_outline (ids : List ChannelId) : (resetAll ids client).1.outline = client.outline := by
  induction ids generalizing client with
  | nil => rfl
  | cons id rest ih =>
    have first : (client.moveTo id .initial).1.outline = client.outline := moveTo_outline client id (by decide)
    unfold resetAll
    generalize client.moveTo id .initial = moved at first
    obtain ⟨next, _ | _⟩ := moved
    · exact first
    · exact (ih next).trans first

theorem changeSocket_outline (socket : SocketId) {update : Socket → Socket}
    (kept : ∀ socket, (update socket).outline = socket.outline) :
    (client.changeSocket socket update).outline = client.outline := by
  have sockets : (client.sockets.modify socket update).map Socket.outline = client.sockets.map Socket.outline := by
    apply List.ext_getElem?
    intro other
    simp only [List.getElem?_map, List.getElem?_modify, Option.map_eq_map, Option.map_map]
    congr 1
    funext state
    dsimp only [Function.comp_apply]
    split
    · exact kept state
    · rfl
  simp only [changeSocket, outline, sockets]

variable (reader : ReaderId)

private theorem finish_outline (outcome : Outcome) : (client.finish reader outcome).outline = client.outline := by
  unfold finish
  dsimp only
  split
  · rfl
  · exact resetAll_outline client.lost client.registered

private theorem fail_outline (error : Error) : (client.fail reader error).outline = client.outline := by
  unfold fail
  split
  · exact finish_outline _ reader .ended
  · exact finish_outline client reader _

theorem settle_outline (socket : SocketId) (result : Except Error (Option ChannelId)) :
    (client.settle reader socket result).outline = client.outline := by
  unfold settle
  split
  · rfl
  · split
    · rfl
    · exact fail_outline client reader _

private theorem route_outline (channel event : Text) (frame : Frame) :
    (client.route reader channel event frame).outline = client.outline := by
  have delivered := deliver_outline client channel event frame
  unfold route Client.delivered
  dsimp only
  split
  · exact delivered
  · exact delivered
  · split
    · exact delivered
    · exact (fail_outline _ reader _).trans delivered

inductive Doing (client : Client) (reader : ReaderId) : Client → Prop where
  | done {after : Client} (same : after.outline = client.outline) : Doing client reader after
  | asks {middle : Client} (same : middle.outline = client.outline) {socket : SocketId}
      (busy : middle.readers[reader]? = some { reading := .busy socket }) (id : ChannelId) (rest : List ChannelId)
      (channel : Channel) (wire : Option SocketId) :
      Doing client reader (middle.asking (.reader reader) (.resubscribing id rest (some reader)) id channel wire)

theorem asking_outline (client : Client) (task : Task) (stage : Stage) (id : ChannelId) (channel : Channel)
    (wire : Option SocketId) : ∃ sent, (client.asking task stage id channel wire).outline =
      { client.outline with
        sent, calls := client.calls ++ [(client.nextCall, ⟨task, stage⟩)], nextCall := client.nextCall + 1 } := by
  have moved : (client.moveTo id .requested).1.outline = client.outline := moveTo_outline client id (by decide)
  obtain ⟨_, _, _, quiet⟩ := Quiet.moveTo client id .requested
  have calls : (client.moveTo id .requested).1.calls = client.calls := by rw [quiet]
  have number : (client.moveTo id .requested).1.nextCall = client.nextCall := by rw [quiet]
  refine ⟨(client.moveTo id .requested).1.sent ++ [⟨wire, .request id channel.request⟩], ?_⟩
  rw [← moved, ← calls, ← number]
  rfl

variable {client reader}

theorem Doing.since {start after : Client} (doing : Doing client reader after) (same : client.outline = start.outline) :
    Doing start reader after := by
  cases doing with
  | done equal => exact .done (equal.trans same)
  | asks equal busy id rest channel wire => exact .asks (equal.trans same) busy id rest channel wire

/-- What becomes of a reader that requests channels. -/
theorem settled_doing {socket : SocketId} (busy : client.readers[reader]? = some { reading := .busy socket })
    (ids : List ChannelId) :
    Doing client reader (settled reader socket (resubscribe (.reader reader) (some reader) ids client)) := by
  have stretch := resubscribe_stretch client (.reader reader) (some reader) ids
  generalize resubscribe (.reader reader) (some reader) ids client = result at stretch
  cases stretch with
  | ends passed records => exact .done (settle_outline { client with records } reader socket _)
  | asks split passed wanted target records =>
    have same : ({ client with records } : Client).outline = client.outline := rfl
    exact .asks same busy _ _ _ _
  | @fails passed rest id split _ channel wanted error target records =>
    have retracted : (({ client with records }.moveTo id .requested).1.rollBack id).outline = client.outline :=
      (rollBack_outline _ id).trans (moveTo_outline { client with records } id (by decide))
    exact .done ((settle_outline _ reader socket _).trans retracted)

variable {reading : Reading} (found : client.readers[reader]? = some { reading })
include found

private theorem confirm_doing (socket : SocketId) (members : Members) :
    Doing client reader (client.confirm reader socket members).1 := by
  have busy : ((client.established members).setReading reader (.busy socket)).readers[reader]? =
      some { reading := .busy socket } := setReading_found found _
  rw [confirm_settled]
  exact (settled_doing busy _).since rfl

private theorem establish_doing (socket : SocketId) (depth : Nat) (data : Payload) :
    Doing client reader (client.establish reader socket depth data).1 := by
  unfold establish
  split
  · exact confirm_doing found socket _
  next cause _ =>
    let logged := client.log .connection .warning "Malformed connection_established frame"
      [("error", .text (Error.undecodable cause).message)]
    have here : logged.readers[reader]? = some { reading } := found
    exact (confirm_doing here socket []).since rfl
  · exact .done (fail_outline client reader _)

private theorem handle_doing (socket : SocketId) (frame : Frame) :
    Doing client reader (client.handle reader socket frame).1 := by
  have here : client.counted.readers[reader]? = some { reading } := found
  suffices doing : Doing client.counted reader (client.handle reader socket frame).1 from doing.since rfl
  unfold handle
  dsimp only
  split
  · exact .done rfl
  · exact .done (fail_outline client.counted reader _)
  · split
    · exact establish_doing here socket _ _
    · split
      · exact .done rfl
      · split
        · exact .done (route_outline client.counted reader _ _ frame)
        · exact .done rfl

private theorem take_doing (socket : SocketId) (arrival : Arrival) :
    Doing client reader (client.take reader socket arrival).1 := by
  cases arrival with
  | frame frame => exact handle_doing found socket frame
  | ending ending =>
    cases ending with
    | finished => exact .done (finish_outline client reader .ended)
    | closed code => exact .done (finish_outline (client.log _ _ _) reader .ended)
    | broken code reason => exact .done (fail_outline client reader _)
    | failed reason => exact .done (fail_outline client reader _)

theorem turn_doing : Doing client reader (client.turn reader).1 := by
  unfold turn
  split
  · split <;> exact .done rfl
  next socket idle =>
    split
    next arrival rest arrived =>
      have here : (client.leave socket rest).readers[reader]? = some { reading } := found
      have left : (client.leave socket rest).outline = client.outline := changeSocket_outline client socket fun _ => rfl
      exact (take_doing here socket arrival).since left
    · exact .done rfl
  · exact .done rfl

end Client
end Pubsub
