import Pubsub.Proofs.Alike
import Pubsub.Proofs.Attendance

/-! Frames that cannot be decoded are dropped, and the connection goes on as if they had never come. Only the
data of a confirmation is forgiven instead: the frame is then handled as if it had none. -/

namespace Pubsub

/-- Whether a frame is dropped for what it holds: its envelope, or the data of a success, cannot be decoded. -/
def Frame.malformed (frame : Frame) : Bool :=
  match Envelope.ofArrival frame with
  | .error _ => true
  | .ok envelope => envelope.event = some Envelope.succeededEvent && (envelope.resumption frame.room.success).isNone

/-- Whether a frame confirms the connection with data that cannot be decoded. -/
def Frame.garbled (frame : Frame) : Bool :=
  match Envelope.ofArrival frame with
  | .error _ => false
  | .ok envelope =>
    envelope.event = some Envelope.establishedEvent &&
      match envelope.data.members frame.room.confirmation with
      | .error (.undecodable _) => true
      | _ => false

namespace Client
variable {reader : ReaderId} {socket : SocketId}

private theorem receive_of_unaccepted {client : Client} {id : ChannelId} {event : Text} {frame : Frame}
    (refused : ∀ channel, client.channels[id]? = some channel → channel.accepted event frame = none) :
    Alike client (client.receive id event frame).1 := by
  unfold receive
  split
  · exact .refl client
  next channel found =>
    obtain ⟨error, failed⟩ | ⟨records, ignored⟩ := Channel.receive_of_refused (refused channel found)
    · simp only [failed]
      exact .refl client
    · obtain ⟨inside, rfl⟩ := List.getElem?_eq_some_iff.mp found
      simp only [ignored, react, setChannel, submit, List.isEmpty_nil, true_or, if_true, List.append_nil,
        List.set_getElem_self]
      exact ⟨_, _, rfl⟩

private theorem deliver_of_unaccepted {client : Client} {name event : Text} {frame : Frame}
    (refused : ∀ channel : Channel, channel.accepted event frame = none) :
    Alike client (client.deliver name event frame).1 := by
  unfold deliver
  split
  · exact .of_log client _ _ _ _
  · exact receive_of_unaccepted fun channel _ => refused channel

private theorem handle_of_malformed {client : Client} {frame : Frame} (within : frame.exceeds = false)
    (malformed : frame.malformed = true) : Alike client (client.handle reader socket frame).1 := by
  have counted : Alike client client.counted := ⟨_, _, rfl⟩
  unfold handle
  dsimp only
  split
  · exact counted.trans (.of_log _ _ _ _ _)
  next error fine undecoded =>
    obtain ⟨cause, rfl⟩ := Frame.undecodable_of_within undecoded within
    exact absurd rfl (fine cause)
  next envelope decoded =>
    simp only [Frame.malformed, decoded, Bool.and_eq_true, decide_eq_true_eq, Option.isNone_iff_eq_none] at malformed
    obtain ⟨success, nothing⟩ := malformed
    have other : envelope.event ≠ some Envelope.establishedEvent := by rw [success]; decide
    have fine : envelope.event ≠ some Envelope.errorEvent := by rw [success]; decide
    rw [if_neg other, if_neg fine]
    split
    next name event channel named =>
      obtain rfl : event = Envelope.succeededEvent := Option.some.inj (named.symm.trans success)
      have refused (channel : Channel) : channel.accepted Envelope.succeededEvent frame = none := by
        unfold Channel.accepted
        split
        · rfl
        · simp only [Frame.delivery_within within decoded other, if_true, nothing, Option.map_none]
      have own : ∀ error, (client.counted.deliver name Envelope.succeededEvent frame).2 = .error error → error.own = true :=
        fun error failed => deliver_error within decoded other named failed
      obtain ⟨records, logged⟩ := delivered_of_own own name Envelope.succeededEvent
      have routed : Alike (client.counted.deliver name Envelope.succeededEvent frame).1
          (client.counted.route reader name Envelope.succeededEvent frame) := ⟨records, _, logged⟩
      exact (counted.trans (deliver_of_unaccepted refused)).trans routed
    · exact counted.trans (.of_log _ _ _ _ _)

/-- A confirmation whose data cannot be decoded is handled like one that has none. -/
theorem handle_of_garbled {client : Client} {frame bare : Frame} (garbled : frame.garbled = true)
    (stripped : Envelope.ofArrival bare = (Envelope.ofArrival frame).map ({ · with data := .absent })) :
    Alike (client.handle reader socket bare).1 (client.handle reader socket frame).1 := by
  unfold Frame.garbled at garbled
  split at garbled
  · contradiction
  next envelope decoded =>
    rw [decoded, Except.map] at stripped
    obtain ⟨confirming, undecodable⟩ := Bool.and_eq_true_iff.mp garbled
    have confirms : envelope.event = some Envelope.establishedEvent := of_decide_eq_true confirming
    split at undecodable
    next cause malformed =>
      have none : Payload.absent.members bare.room.confirmation = .ok [] := rfl
      simp only [handle, decoded, stripped, if_pos confirms, establish, malformed, none]
      exact Alike.confirm (.of_log client.counted _ _ _ _) reader socket []
    · contradiction

def skip (client : Client) (reader : ReaderId) : Client :=
  match client.reading? reader with
  | some (.idle socket) => client.leave socket ((client.sockets[socket]?.map (·.incoming)).getD []).tail
  | _ => client

private theorem skip_channels (client : Client) (reader : ReaderId) :
    (client.skip reader).channels = client.channels := by
  unfold skip
  split <;> rfl

private theorem turn_of_frame {client : Client} {frame : Frame} (next : client.next reader = some (.frame frame)) :
    ∃ socket, client.reading? reader = some (.idle socket) ∧
      client.step (.turn reader) = ((client.skip reader).handle reader socket frame).1 := by
  obtain ⟨socket, rest, reading, arrived, turned⟩ := turn_of_next next
  refine ⟨socket, reading, ?_⟩
  have left : client.skip reader = client.leave socket rest := by
    simp only [skip, reading, arrived, Option.getD_some, List.tail_cons]
  rw [step, if_pos (possible_of_next next), left]
  exact congrArg Prod.fst turned

def takesFrame (client : Client) : Event → Nat
  | .turn reader =>
    match client.next reader with
    | some (.frame _) => 1
    | _ => 0
  | _ => 0

def frames : Client → List Event → Nat
  | _, [] => 0
  | client, event :: rest => client.takesFrame event + frames (client.step event) rest

private theorem step_received (client : Client) (event : Event) :
    (client.step event).connection.received = client.connection.received + client.takesFrame event := by
  have heard : (client.heard event).connection.received = client.connection.received + client.takesFrame event := by
    cases event with
    | turn reader =>
      cases next : client.next reader with
      | none => simp only [Client.heard, taking, takesFrame, next, Nat.add_zero]
      | some arrival =>
        cases arrival with
        | frame frame => simp only [Client.heard, taking, takesFrame, next, counted]
        | ending ending => simp only [Client.heard, taking, takesFrame, next, Nat.add_zero]
    | _ => rfl
  by_cases attaching : ∃ transport, event = .attach transport
  · obtain ⟨transport, rfl⟩ := attaching
    unfold step
    split <;> rfl
  · by_cases closing : event = .shutDown
    · subst closing
      rfl
    · exact (step_spares client (fun transport same => attaching ⟨transport, same⟩) closing).received.trans heard

theorem run_received (client : Client) (events : List Event) :
    (client.run events).connection.received = client.connection.received + client.frames events := by
  induction events generalizing client with
  | nil => rfl
  | cons event rest ih => rw [run_cons, ih, step_received, frames, Nat.add_assoc]

private theorem calm_append (client : Client) (kept later : List Event) :
    Calm reader client (kept ++ later) = (Calm reader client kept && Calm reader (client.run kept) later) := by
  induction kept generalizing client with
  | nil => rfl
  | cons event rest ih => simp only [List.cons_append, Calm, ih, run_cons, Bool.and_assoc]

structure Tolerates (reader : ReaderId) (socket : SocketId) (before : Client) (events : List Event) : Prop where
  /-- The reader is idle again once its requests are sent. -/
  goes : ∃ sent : List CallId, ((before.run events).run (sent.map (.resume · (.ok ())))).readers[reader]? =
    some { reading := .idle socket }
  received : (before.run events).connection.received = before.connection.received + before.frames events
  /-- A malformed frame changes no channel, and what comes later is as if it had never come. -/
  dropped : ∀ kept later frame, events = kept ++ .turn reader :: later →
    (before.run kept).next reader = some (.frame frame) → frame.malformed →
    ((before.run kept).step (.turn reader)).channels = (before.run kept).channels ∧
      Alike (((before.run kept).skip reader).run later) (before.run events)
  /-- A garbled confirmation is as good as one without data. -/
  forgiven : ∀ kept later frame bare, events = kept ++ .turn reader :: later →
    (before.run kept).next reader = some (.frame frame) → frame.garbled →
    Envelope.ofArrival bare = (Envelope.ofArrival frame).map ({ · with data := .absent }) →
    Alike ((((before.run kept).skip reader).handle reader socket bare).1.run later) (before.run events)

/-- A frame that is taken in a calm run is within the limits, and handled for the socket that was read at first. -/
theorem Sound.turned {before : Client} (sound : before.Sound)
    (idle : before.readers[reader]? = some { reading := .idle socket }) {kept later : List Event}
    (calm : Calm reader before (kept ++ .turn reader :: later)) {frame : Frame}
    (next : (before.run kept).next reader = some (.frame frame)) :
    frame.exceeds = false ∧ (before.run kept).step (.turn reader) =
      (((before.run kept).skip reader).handle reader socket frame).1 := by
  simp only [calm_append, Calm, Bool.and_eq_true] at calm
  obtain ⟨first, now, _⟩ := calm
  obtain ⟨left, attends⟩ := run_attends sound (.idle idle) first
  obtain ⟨current, reading, stepped⟩ := turn_of_frame next
  obtain ⟨_, same, within⟩ := next_of_calm now next
  cases same
  cases attends with
  | idle found =>
    obtain rfl : socket = current := by simpa [reading?, found] using reading
    exact ⟨within, stepped⟩
  | busy found held =>
    -- a reader that waits for a request of its own takes nothing
    simp [reading?, found] at reading

private theorem Sound.tolerates {before : Client} (sound : before.Sound)
    (idle : before.readers[reader]? = some { reading := .idle socket }) {events : List Event}
    (calm : Calm reader before events) : Tolerates reader socket before events := by
  have later_of {kept later : List Event} (same : events = kept ++ .turn reader :: later) :
      before.run events = ((before.run kept).step (.turn reader)).run later := by
    rw [same, run_append, run_cons]
  refine ⟨?_, run_received before events, ?_, ?_⟩
  · obtain ⟨left, attends⟩ := run_attends sound (.idle idle) calm
    obtain ⟨sent, settled⟩ := attends.settles (run_sound events sound)
    cases settled with
    | idle found => exact ⟨sent, found⟩
  · intro kept later frame same next malformed
    obtain ⟨within, stepped⟩ := sound.turned idle (same ▸ calm) next
    rw [later_of same, stepped]
    have dropped : Alike ((before.run kept).skip reader)
        (((before.run kept).skip reader).handle reader socket frame).1 := handle_of_malformed within malformed
    exact ⟨dropped.channels.trans (skip_channels _ reader), dropped.run later⟩
  · intro kept later frame bare same next garbled stripped
    obtain ⟨_, stepped⟩ := sound.turned idle (same ▸ calm) next
    rw [later_of same, stepped]
    exact (handle_of_garbled garbled stripped).run later

/-- No frame within the limits ends a reader, from any state of a run in which it waits for frames. -/
theorem frames_never_end_reader (url : Text) (past events : List Event) (reader : ReaderId) (socket : SocketId)
    (idle : ((fresh url).run past).readers[reader]? = some { reading := .idle socket })
    (calm : Calm reader ((fresh url).run past) events) : Tolerates reader socket ((fresh url).run past) events :=
  (run_sound past (fresh_sound url)).tolerates idle calm

def listening : List Event :=
  [.subscribe .application (some "feed") none [], .connect .application, .resume 0 (.ok ()), .turn 0]

/-- Garbage, a garbled confirmation that requests the channel, a malformed success while the request is being
sent, and an event. -/
def garbage : List Event :=
  [.arrive 0 (.frame (.bytes [255])), .turn 0] ++
    Event.arrival [("event", .text "pusher:connection_established"), ("data", .text "[]")] ++
    Event.arrival [("event", .text "pusher_internal:subscription_succeeded"), ("channel", .text "feed"),
      ("data", .object [("resume_after", .bool true)])] ++
    [.resume 1 (.ok ()), .turn 0] ++
    Event.arrival [("event", .text "price"), ("channel", .text "feed"), ("id", .text "43")]

theorem frames_never_end_reader_garbage :
    ((fresh "url").run listening).readers[0]? = some { reading := .idle 0 } ∧
      Calm 0 ((fresh "url").run listening) garbage = true ∧
      ((fresh "url").run listening).frames garbage = 4 ∧
      Tolerates 0 0 ((fresh "url").run listening) garbage := by
  have idle : ((fresh "url").run listening).readers[0]? = some { reading := .idle 0 } := rfl
  have calm : Calm 0 ((fresh "url").run listening) garbage = true := by decide +kernel
  exact ⟨idle, calm, by decide +kernel, frames_never_end_reader "url" listening garbage 0 0 idle calm⟩

/-- A confirmation whose data cannot be decoded is not dropped: it changes a channel. -/
theorem garbled_confirmation_requests :
    let confirmation : Frame := .text (Json.object [("event", .text "pusher:connection_established"),
      ("data", .text "[]")]).compact
    let before := ((fresh "url").run listening).step (.arrive 0 (.frame confirmation))
    before.readers[0]? = some { reading := .idle 0 } ∧ before.next 0 = some (.frame confirmation) ∧
      confirmation.garbled = true ∧ before.channels.map (·.phase) = [.initial] ∧
      (before.step (.turn 0)).channels.map (·.phase) = [.requested] :=
  ⟨rfl, rfl, by decide +kernel, by decide +kernel, by decide +kernel⟩

end Client
end Pubsub
