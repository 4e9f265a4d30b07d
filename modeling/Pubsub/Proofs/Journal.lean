import Pubsub.Proofs.Acceptance
import Pubsub.Proofs.Decoding

/-! What a client writes to its log. Records are only added, and none but the report of a frame that a channel could
not decode says that one was dropped. -/

namespace Pubsub

namespace Record

def dropping : Text := "Dropping malformed channel frame"

structure Routine (record : Record) : Prop where
  source : record.source = .channel ∨ record.source = .manager ∨ record.source = .connection
  other : record.source = .connection → record.message ≠ dropping

namespace Routine
variable {level : Level} {message : Text} {details : Members}

theorem channel : Routine ⟨.channel, level, message, details⟩ := ⟨.inl rfl, fun same => by cases same⟩

theorem manager : Routine ⟨.manager, level, message, details⟩ := ⟨.inr (.inl rfl), fun same => by cases same⟩

theorem connection (other : message ≠ dropping) : Routine ⟨.connection, level, message, details⟩ :=
  ⟨.inr (.inr rfl), fun _ => other⟩

end Routine

/-- A message is told from the report by how it begins. -/
theorem ne_dropping {start rest : Text} (apart : start.isPrefixOf dropping = false) : start ++ rest ≠ dropping := by
  intro same
  have begins : start.isPrefixOf dropping = true := List.isPrefixOf_iff_prefix.mpr (same ▸ List.prefix_append start rest)
  rw [apart] at begins
  contradiction

end Record

namespace Channel

private theorem moveTo_routine {channel : Channel} {phase : Phase} {reaction : Reaction}
    (moved : channel.moveTo phase = .ok reaction) :
    ∀ record ∈ reaction.records, record.Routine := by
  unfold moveTo at moved
  split at moved
  · contradiction
  · cases moved
    exact fun record member => List.mem_singleton.mp member ▸ .channel

private theorem receive_routine {channel : Channel} {event : Text} {frame : Frame} {reaction : Reaction}
    (received : channel.receive event frame = .ok reaction) : ∀ record ∈ reaction.records, record.Routine := by
  unfold receive at received
  split at received
  · cases received
    exact fun record member => List.mem_singleton.mp member ▸ .channel
  · obtain ⟨envelope, _, received⟩ := of_bind_ok received
    split at received
    · obtain ⟨members, _, received⟩ := of_bind_ok received
      obtain ⟨token, _, moved⟩ := of_bind_ok received
      exact moveTo_routine moved
    · cases received
      unfold announce
      intro record member
      dsimp only at member
      split at member
      · exact List.mem_singleton.mp member ▸ .channel
      · contradiction

end Channel

namespace Client

def Writes (before after : Client) : Prop :=
  ∃ added, after.records = before.records ++ added ∧ ∀ record ∈ added, record.Routine

namespace Writes

theorem of_same {before after : Client} (same : after.records = before.records) : Writes before after :=
  ⟨[], by rw [same, List.append_nil], fun _ member => absurd member List.not_mem_nil⟩

theorem refl (client : Client) : Writes client client := of_same rfl

theorem trans {first middle last : Client} (a : Writes first middle) (b : Writes middle last) : Writes first last := by
  obtain ⟨earlier, grown, routine⟩ := a
  obtain ⟨later, grew, usual⟩ := b
  refine ⟨earlier ++ later, by rw [grew, grown, List.append_assoc], fun record member => ?_⟩
  exact (List.mem_append.mp member).elim (routine record) (usual record)

/-- Whatever else is changed before. -/
theorem after {first middle last : Client} (b : Writes middle last) (same : middle.records = first.records) :
    Writes first last := (of_same same).trans b

variable (client : Client)

theorem log {source : Source} {level : Level} {message : Text} {details : Members}
    (routine : Record.Routine ⟨source, level, message, details⟩) : Writes client (client.log source level message details) :=
  ⟨[⟨source, level, message, details⟩], rfl, fun _ member => List.mem_singleton.mp member ▸ routine⟩

theorem react (id : ChannelId) {reaction : Reaction} (routine : ∀ record ∈ reaction.records, record.Routine) :
    Writes client (client.react id reaction).1 := by
  refine ⟨reaction.records, ?_, routine⟩
  unfold Client.react
  rw [submit_fst]

theorem moveTo (id : ChannelId) (phase : Phase) : Writes client (client.moveTo id phase).1 := by
  unfold Client.moveTo
  split
  · exact refl client
  · split
    · exact refl client
    next reaction moved => exact react client id (Channel.moveTo_routine moved)

theorem receive (id : ChannelId) (event : Text) (frame : Frame) : Writes client (client.receive id event frame).1 := by
  unfold Client.receive
  split
  · exact refl client
  · split
    · exact refl client
    next reaction received => exact react client id (Channel.receive_routine received)

theorem deliver (name event : Text) (frame : Frame) : Writes client (client.deliver name event frame).1 := by
  unfold Client.deliver
  split
  · exact log client .manager
  · exact receive client _ event frame

theorem resetAll (ids : List ChannelId) : Writes client (resetAll ids client).1 := by
  induction ids generalizing client with
  | nil => exact refl client
  | cons id rest ih =>
    have first := moveTo client id .initial
    unfold Client.resetAll
    generalize client.moveTo id .initial = moved at first
    obtain ⟨next, _ | _⟩ := moved
    · exact first
    · exact first.trans (ih next)

theorem suspendAll : Writes client client.suspendAll.1 := resetAll client client.registered

theorem finishAll (ids : List ChannelId) :
    Writes client (ids.foldl (fun client id => (client.moveTo id .ended).1) client) := by
  induction ids generalizing client with
  | nil => exact refl client
  | cons id rest ih => exact (moveTo client id .ended).trans (ih _)

theorem endAll : Writes client client.endAll :=
  ((finishAll client client.registered).trans (log _ .manager)).trans (of_same rfl)

theorem rollBack (id : ChannelId) : Writes client (client.rollBack id) := by
  unfold Client.rollBack
  split
  · exact moveTo client id .initial
  · exact refl client

theorem change (id : ChannelId) (update : Channel → Except Error Channel) : Writes client (client.change id update) := by
  unfold Client.change
  split
  · exact refl client
  · split <;> exact of_same rfl

theorem asking (task : Task) (stage : Stage) (id : ChannelId) (channel : Channel) (socket : Option SocketId) :
    Writes client (client.asking task stage id channel socket) := (moveTo client id .requested).trans (of_same rfl)

theorem requestChannel (task : Task) (id : ChannelId) (stage : Stage) :
    Writes client (client.requestChannel task id stage).1 := by
  apply requestChannel_cases (motive := fun result => Writes client result.1)
  · exact fun _ => refl client
  · exact fun _ _ _ => log client .manager
  · exact fun channel socket _ _ _ _ => asking client task stage id channel socket
  · exact fun _ _ _ _ _ _ => (moveTo client id .requested).trans (rollBack _ id)

theorem resubscribe (task : Task) (reader : Option ReaderId) (ids : List ChannelId) :
    Writes client (resubscribe task reader ids client).1 := by
  induction ids generalizing client with
  | nil =>
    unfold Client.resubscribe
    split
    · exact refl client
    · exact log client .manager
  | cons id rest ih =>
    apply resubscribe_cases (motive := fun result => Writes client result.1)
    · exact fun _ => ih client
    · exact fun _ _ _ => (log client .manager).trans (ih _)
    · exact fun channel socket _ _ _ _ => asking client task _ id channel socket
    · exact fun _ _ _ _ _ _ => (moveTo client id .requested).trans (rollBack _ id)

theorem resubscribeAll (task : Task) (reader : Option ReaderId) : Writes client (client.resubscribeAll task reader).1 :=
  resubscribe client task reader client.listing

theorem register (channel : Channel) : Writes client (client.register channel) := by
  have added : Writes { client with
      channels := client.channels ++ [channel], registered := client.registered ++ [client.channels.length] }
      (client.register channel) := log _ .manager
  exact added.after rfl

theorem subscribe (task : Task) (name : Option Text) (listener : Option Listener) (events : List (Option Text)) :
    Writes client (client.subscribe task name listener events).1 := by
  cases made : client.newChannel name listener events with
  | error error =>
    rw [subscribe_of_refused task made]
    exact refl client
  | ok channel =>
    rw [subscribe_eq made]
    split
    · exact (register client channel).trans (requestChannel _ _ _ _)
    · exact register client channel

theorem unsubscribe (task : Task) (name : Option Text) : Writes client (client.unsubscribe task name).1 := by
  have removed (id : ChannelId) : Writes client (client.removing id) :=
    ((moveTo { client with registered := client.registered.erase id } id .ended).after rfl).trans (log _ .manager)
  apply unsubscribe_cases (motive := fun result => Writes client result.1)
  · exact fun _ => refl client
  · exact fun id _ _ => removed id
  · exact fun id _ _ _ => (removed id).trans (of_same rfl)

theorem message (task : Task) (text : Text) : Writes client (client.message task text).1 := by
  unfold Client.message
  split <;> exact of_same rfl

variable (reader : ReaderId)

theorem finish (outcome : Outcome) : Writes client (client.finish reader outcome) := by
  unfold Client.finish
  dsimp only
  split
  · exact of_same rfl
  · exact ((suspendAll client.lost).after rfl).trans (of_same rfl)

theorem fail (error : Error) : Writes client (client.fail reader error) := by
  unfold Client.fail
  split
  next code reason =>
    have other : ("Connection closed: code=" : Text) ++ (Text.ofNat code ++ (", reason=" ++ reason)) ≠ Record.dropping :=
      Record.ne_dropping rfl
    refine (log client (.connection ?_)).trans (finish _ reader .ended)
    simpa only [List.append_assoc] using other
  · exact finish client reader _

theorem settle (socket : SocketId) (result : Except Error (Option ChannelId)) :
    Writes client (client.settle reader socket result) := by
  unfold Client.settle
  split
  · exact of_same rfl
  · split
    · exact (log client (.connection (by decide))).trans (of_same rfl)
    · exact fail client reader _

theorem confirm (socket : SocketId) (members : Members) : Writes client (client.confirm reader socket members).1 := by
  have established : Writes client (client.established members) :=
    (log { client with connection := _ } (.connection (by decide))).after rfl
  have busy := established.trans (of_same rfl : Writes _ ((client.established members).setReading reader (.busy socket)))
  have requested := busy.trans (resubscribeAll _ (.reader reader) (some reader))
  unfold Client.confirm
  generalize Client.resubscribeAll _ (.reader reader) (some reader) = result at requested
  obtain ⟨next, result | call⟩ := result
  · exact requested.trans (settle next reader socket result)
  · exact requested

theorem establish (socket : SocketId) (depth : Nat) (data : Payload) :
    Writes client (client.establish reader socket depth data).1 := by
  unfold Client.establish
  split
  · exact confirm client reader socket _
  · exact (log client (.connection (by decide))).trans (confirm _ reader socket [])
  · exact fail client reader _

theorem delivered (channel event : Text) {result : Except Error Unit} (decoded : ∀ cause, result ≠ .error (.undecodable cause)) :
    Writes client (client.delivered reader channel event result) := by
  unfold Client.delivered
  split
  · exact refl client
  next cause => exact absurd rfl (decoded cause)
  · split
    · exact log client (.connection (by decide))
    · exact fail client reader _

theorem ending (socket : SocketId) (ending : Ending) : Writes client (client.take reader socket (.ending ending)).1 := by
  cases ending with
  | finished => exact finish client reader _
  | closed code => exact (log client (.connection (Record.ne_dropping rfl))).trans (finish _ reader _)
  | broken code reason => exact fail client reader (.socketClosed code reason)
  | failed reason => exact fail client reader (.system reason)

theorem connect (task : Task) : Writes client (client.connect task).1 := by
  have opening : Writes client (({ client with connection := { client.connection with closing := false } } : Client).log
      .connection .info "Connecting" [("url", .text client.connection.url)]) :=
    (log _ (.connection (by decide))).after rfl
  exact opening.trans (of_same rfl)

theorem tearDown : Writes client client.tearDown.1 := (endAll client).trans (log _ (.connection (by decide)))

theorem closeSocket (task : Task) : Writes client (client.closeSocket task).1 := by
  unfold Client.closeSocket
  split
  · exact tearDown client
  · exact of_same rfl

theorem closed (socket : SocketId) : Writes client (client.closed socket).1 := by
  unfold Client.closed
  dsimp only
  split
  · exact (tearDown client.detached).after rfl
  · exact ((log client.detached (.connection (by decide))).after rfl).trans (tearDown _)

theorem cancel : Writes client (client.cancel reader) := by
  unfold Client.cancel
  split <;> exact of_same rfl

theorem disconnect (task : Task) : Writes client (client.disconnect task).1 := by
  have given : Writes client client.givingUp :=
    (log client (.connection (by decide)) : Writes client (client.log .connection .info "Disconnecting")).trans (of_same rfl)
  have closing := given.trans (closeSocket _ task)
  unfold Client.disconnect
  dsimp only
  split
  · exact closing
  next current found =>
    split
    · exact closing
    · split
      · exact given.trans (cancel _ current)
      · split
        · exact given.trans (of_same rfl)
        · exact (given.trans (cancel _ current)).trans (of_same rfl)

theorem unwind : Writes client (client.unwind reader) := by
  unfold Client.unwind
  dsimp only
  split
  · exact of_same rfl
  · exact (finish (client.abandon reader) reader .cancelled).after rfl

theorem passOn {before : Client} {result : Client × Progress} (written : Writes before result.1) (reader : Option ReaderId) :
    Writes before (passOn reader result).1 := by
  obtain ⟨next, result | call⟩ := result
  · cases reader with
    | none => exact written
    | some reader =>
      simp only [Client.passOn]
      split
      · exact written.trans (settle next reader _ result)
      · exact written
  · exact written

theorem resume (id : CallId) (outcome : Except Error Unit) : Writes client (client.resume id outcome).1 := by
  unfold Client.resume
  split
  · exact refl client
  next task stage found =>
    have dropped : Writes client (client.drop id) := of_same rfl
    dsimp only
    split
    · split
      · exact dropped
      · exact dropped.trans (rollBack _ _)
    · exact dropped
    · exact dropped
    · split
      · exact passOn (dropped.trans (resubscribe _ task _ _)) _
      · exact passOn (dropped.trans (rollBack _ _)) _
    · split
      · exact dropped.trans (of_same rfl)
      · exact dropped
    · split
      · exact dropped
      · exact dropped.trans (closeSocket _ task)
    · exact dropped.trans (closed _ _)

end Writes

/-- An operation that fails for anything but a closed queue is a frame that its channel refused, and changes nothing. -/
theorem receive_failed {client : Client} {id : ChannelId} {event : Text} {frame : Frame} {error : Error}
    (failed : (client.receive id event frame).2 = .error error) (other : error ≠ .queueClosed) :
    (∃ channel, client.channels[id]? = some channel ∧ channel.receive event frame = .error error) ∧
      client.receive id event frame = (client, .error error) := by
  unfold receive at failed ⊢
  split at failed
  · contradiction
  next channel found =>
    split at failed
    next refused received =>
      cases failed
      exact ⟨⟨channel, found, received⟩, rfl⟩
    next reaction received =>
      unfold react submit at failed
      split at failed
      · contradiction
      · cases failed
        exact absurd rfl other

structure Drops (client : Client) (frame : Frame) (envelope : Envelope) (name event : Text) (channel : Channel)
    (cause : Undecodable) : Prop where
  decoded : Envelope.ofArrival frame = .ok envelope
  named : envelope.channel = some name
  called : envelope.event = some event
  found : (client.lookup name).bind (client.channels[·]?) = some channel
  refused : channel.receive event frame = .error (.undecodable cause)

def reported (client : Client) (name event : Text) (cause : Undecodable) : List Record :=
  client.records ++ [⟨.connection, .warning, Record.dropping,
    [("channel", .text name), ("event", .text event), ("error", .text (Error.undecodable cause).message)]⟩]

/-- Whatever a frame is, handling it writes routine records only, unless a channel cannot decode it. -/
theorem handle_writes (client : Client) (reader : ReaderId) (socket : SocketId) (frame : Frame) :
    Writes client (client.handle reader socket frame).1 ∨
      ∃ envelope name event channel cause, client.Drops frame envelope name event channel cause ∧
        (client.handle reader socket frame).1.records = client.reported name event cause := by
  have counted : Writes client client.counted := .of_same rfl
  unfold handle
  dsimp only
  split
  · exact .inl (counted.trans (.log _ (.connection (by decide))))
  · exact .inl (counted.trans (.fail _ reader _))
  next envelope decoded =>
    split
    · exact .inl (counted.trans (.establish _ reader socket _ _))
    · split
      · exact .inl (counted.trans (.log _ (.connection (by decide))))
      · split
        next name event named called =>
          by_cases dropped : ∃ cause, (client.counted.deliver name event frame).2 = .error (.undecodable cause)
          · obtain ⟨cause, refused⟩ := dropped
            cases known : client.counted.lookup name with
            | none => simp [deliver, known] at refused
            | some id =>
              rw [deliver_of_lookup known] at refused
              obtain ⟨⟨channel, found, failed⟩, unchanged⟩ := receive_failed refused (by simp)
              refine .inr ⟨envelope, name, event, channel, cause, ⟨decoded, named, called, ?_, failed⟩, ?_⟩
              · change (client.counted.lookup name).bind (client.counted.channels[·]?) = some channel
                rw [known]
                exact found
              · simp only [route, deliver_of_lookup known, unchanged, delivered]
                rfl
          · have routed : Writes client.counted (client.counted.route reader name event frame) :=
              (Writes.deliver _ name event frame).trans (.delivered _ reader name event fun cause refused => dropped ⟨cause, refused⟩)
            exact .inl (counted.trans routed)
        · exact .inl (counted.trans (.log _ (.connection (Record.ne_dropping rfl))))

private theorem turn_writes {client : Client} {reader : ReaderId}
    (going : client.isCancelling (.reader reader) = false) :
    Writes client (client.turn reader).1 ∨
      ∃ frame envelope name event channel cause, client.next reader = some (.frame frame) ∧
        client.Drops frame envelope name event channel cause ∧
        (client.turn reader).1.records = client.reported name event cause := by
  unfold turn
  split
  · split <;> exact .inl (.of_same rfl)
  next socket reading =>
    split
    next arrival rest arrived =>
      have left : Writes client (client.leave socket rest) := .of_same rfl
      cases arrival with
      | ending ending => exact .inl (left.trans (.ending _ reader socket ending))
      | frame frame =>
        obtain usual | ⟨envelope, name, event, channel, cause, drops, reported⟩ :=
          handle_writes (client.leave socket rest) reader socket frame
        · exact .inl (left.trans usual)
        · obtain ⟨state, found, waiting⟩ := Option.map_eq_some_iff.mp arrived
          have next : client.next reader = some (.frame frame) := by
            simp [Client.next, going, reading, found, waiting]
          exact .inr ⟨frame, envelope, name, event, channel, cause, next, ⟨drops.decoded, drops.named, drops.called,
            drops.found, drops.refused⟩, reported⟩
    · exact .inl (.refl client)
  · exact .inl (.refl client)

/-- Only a turn in which a channel cannot decode a frame reports one. -/
theorem step_writes (client : Client) {event : Event} (fine : event ≠ .failure) :
    Writes client (client.step event) ∨
      ∃ reader frame envelope name called channel cause, event = .turn reader ∧ client.next reader = some (.frame frame) ∧
        client.Drops frame envelope name called channel cause ∧
        (client.step event).records = client.reported name called cause := by
  unfold step
  split
  next possible =>
    cases event with
    | turn reader =>
      have going : client.isCancelling (.reader reader) = false := by simpa [Client.possible] using possible
      obtain usual | ⟨frame, envelope, name, called, channel, cause, next, drops, reported⟩ := turn_writes going
      · exact .inl usual
      · exact .inr ⟨reader, frame, envelope, name, called, channel, cause, rfl, next, drops, reported⟩
    | failure => exact absurd rfl fine
    | make name family =>
      cases made : Channel.make name family <;> exact .inl (.of_same (by simp only [perform, made]))
    | bind id _ _ | unbind id _ _ | setToken id _ | setLifecycle id _ => exact .inl (.change client id _)
    | move id phase => exact .inl (.moveTo client id phase)
    | receive id event frame => exact .inl (.receive client id event frame)
    | subscribe task name listener events => exact .inl (.subscribe client task name listener events)
    | unsubscribe task name => exact .inl (.unsubscribe client task name)
    | resubscribe task => exact .inl (.resubscribeAll client task none)
    | deliver name event frame => exact .inl (.deliver client name event frame)
    | lose resumable =>
      cases resumable with
      | true => exact .inl (.suspendAll client)
      | false => exact .inl (.endAll client)
    | connect task => exact .inl (.connect client task)
    | send task text => exact .inl (.message client task text)
    | disconnect task => exact .inl (.disconnect client task)
    | resume call outcome => exact .inl (.resume client call outcome)
    | unwind reader => exact .inl (.unwind client reader)
    | attach | arrive | jam | callback | shutDown => exact .inl (.of_same rfl)
  · exact .inl (.refl client)

end Client
end Pubsub
