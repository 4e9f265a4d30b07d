import Pubsub.Proofs.Acceptance
import Pubsub.Proofs.Bystanders
import Pubsub.Proofs.Decoding

/-! A reader attends its socket whatever frames arrive: it is idle, or it handles a frame and waits for a
request of its own to be sent. Each request that is sent brings it closer to being idle again. -/

namespace Pubsub.Client

structure Sound (client : Client) : Prop where
  numbered : client.Numbered
  attached : client.transport ≠ .absent

theorem Spares.sound {readers : ReaderId → Prop} {calls : CallId → Prop} {before after : Client}
    (spares : Spares readers calls before after) (sound : before.Sound) : after.Sound :=
  ⟨spares.numbered sound.numbered, spares.transport ▸ sound.attached⟩

theorem Quiet.sound {before after : Client} (quiet : Quiet before after) (sound : before.Sound) : after.Sound := by
  obtain ⟨_, _, _, rfl⟩ := quiet
  exact ⟨sound.numbered, sound.attached⟩

/-- Sending fails only where the client itself does not allow it. -/
theorem target_own {client : Client} (sound : client.Sound) {error : Error} (refused : client.target = .error error) :
    error.own = true := by
  unfold target at refused
  split at refused
  · exact absurd ‹_› sound.attached
  · contradiction
  · split at refused
    · contradiction
    · cases refused
      rfl

private theorem asking_held {client : Client} (sound : client.Sound) (task : Task) (stage : Stage) (id : ChannelId)
    (channel : Channel) (socket : Option SocketId) :
    (client.asking task stage id channel socket).call? client.nextCall = some ⟨task, stage⟩ := by
  unfold asking
  obtain ⟨channels, waiting, records, same⟩ := Quiet.moveTo client id .requested
  rw [same]
  have numbered : Numbered { client with
      channels, waiting, records, sent := client.sent ++ [⟨socket, .request id channel.request⟩] } := sound.numbered
  exact call?_suspend numbered task stage

/-- What becomes of requesting so many channels: it is over, or refused by the client itself, or
suspended with fewer channels left. -/
inductive Requested (task : Task) (reader : Option ReaderId) (count : Nat) : Client × Progress → Prop where
  | done (client : Client) (result : Option ChannelId) : Requested task reader count (client, .done (.ok result))
  | refused (client : Client) {error : Error} (own : error.own = true) :
      Requested task reader count (client, .done (.error error))
  | suspended {client : Client} {call : CallId} {channel : ChannelId} {rest : List ChannelId}
      (fewer : rest.length < count) (held : client.call? call = some ⟨task, .resubscribing channel rest reader⟩) :
      Requested task reader count (client, .suspended call)

theorem Requested.mono {task : Task} {reader : Option ReaderId} {few many : Nat} {result : Client × Progress}
    (requested : Requested task reader few result) (more : few ≤ many) : Requested task reader many result := by
  cases requested with
  | done client result => exact .done client result
  | refused client own => exact .refused client own
  | suspended fewer held => exact .suspended (Nat.lt_of_lt_of_le fewer more) held

/-- A request that fails is refused by the client itself. -/
theorem Requested.own {task : Task} {reader : Option ReaderId} {count : Nat} {result : Client × Progress}
    (requested : Requested task reader count result) {error : Error} (failed : result.2 = .done (.error error)) :
    error.own = true := by
  cases requested with
  | done => cases failed
  | refused client own =>
    cases failed
    exact own
  | suspended => cases failed

theorem resubscribe_requested {client : Client} (sound : client.Sound) (task : Task) (reader : Option ReaderId)
    (ids : List ChannelId) : Requested task reader ids.length (resubscribe task reader ids client) := by
  induction ids generalizing client with
  | nil =>
    unfold resubscribe
    split
    · exact .done client none
    · exact .done _ none
  | cons id rest ih =>
    have skipping {after : Client} (quiet : Quiet client after) :
        Requested task reader (rest.length + 1) (resubscribe task reader rest after) :=
      (ih (quiet.sound sound)).mono (Nat.le_succ rest.length)
    apply resubscribe_cases (motive := Requested task reader (rest.length + 1))
    · exact fun _ => skipping (.refl client)
    · exact fun _ _ _ => skipping (.log client _ _ _ _)
    · exact fun channel socket _ _ _ _ => .suspended (Nat.lt_succ_self _) (asking_held sound _ _ id channel socket)
    · exact fun _ _ _ _ _ refused => .refused _ (target_own sound refused)

inductive Attends (reader : ReaderId) (socket : SocketId) (client : Client) : Nat → Prop where
  | idle (found : client.readers[reader]? = some { reading := .idle socket }) : Attends reader socket client 0
  | busy {call : CallId} {channel : ChannelId} {rest : List ChannelId}
      (found : client.readers[reader]? = some { reading := .busy socket })
      (held : client.call? call = some ⟨.reader reader, .resubscribing channel rest (some reader)⟩) :
      Attends reader socket client (rest.length + 1)

section
variable {reader : ReaderId} {socket : SocketId}

theorem Attends.going {client : Client} {left : Nat} (attends : Attends reader socket client left) :
    client.isCancelling (.reader reader) = false := by
  cases attends with
  | idle found => simp [isCancelling, found]
  | busy found held => simp [isCancelling, found]

theorem Attends.spared {readers : ReaderId → Prop} {calls : CallId → Prop} {before after : Client} {left : Nat}
    (attends : Attends reader socket before left) (spares : Spares readers calls before after) (own : readers reader)
    (suspended : ∀ call channel rest,
      before.call? call = some ⟨.reader reader, .resubscribing channel rest (some reader)⟩ → calls call) :
    Attends reader socket after left := by
  cases attends with
  | idle found => exact .idle (spares.reader reader _ own found)
  | busy found held => exact .busy (spares.reader reader _ own found) (spares.call _ _ (suspended _ _ _ held) held)

theorem Attends.kept {before after : Client} {left : Nat} (attends : Attends reader socket before left)
    (spares : Spares (fun _ => True) (fun _ => True) before after) : Attends reader socket after left :=
  attends.spared spares trivial fun _ _ _ _ => trivial

theorem setReading_found {client : Client} {state : Reader} (found : client.readers[reader]? = some state)
    (reading : Reading) : (client.setReading reader reading).readers[reader]? = some { state with reading } := by
  simp [setReading, found]

private theorem settle_attends {client : Client} {reading : Reading}
    (found : client.readers[reader]? = some { reading })
    {result : Except Error (Option ChannelId)} (own : ∀ error, result = .error error → error.own = true) :
    Attends reader socket (client.settle reader socket result) 0 := by
  unfold settle
  split
  · exact .idle (setReading_found found _)
  next error =>
    rw [if_pos (own error rfl)]
    have logged : (client.log .connection .error "Resubscribe after connect failed"
      [("error", .text error.message)]).readers[reader]? = some { reading } := found
    exact .idle (setReading_found logged _)

def settled (reader : ReaderId) (socket : SocketId) : Client × Progress → Client
  | (client, .suspended _) => client
  | (client, .done result) => client.settle reader socket result

private theorem settled_done {client : Client} {result : Except Error (Option ChannelId)}
    (found : client.readers[reader]? = some { reading := .busy socket })
    (own : ∀ error, result = .error error → error.own = true) :
    Attends reader socket (settled reader socket (client, .done result)) 0 := settle_attends found own

private theorem settled_attends {result : Client × Progress} {count : Nat}
    (requested : Requested (.reader reader) (some reader) count result)
    (found : result.1.readers[reader]? = some { reading := .busy socket }) :
    ∃ left ≤ count, Attends reader socket (settled reader socket result) left := by
  cases requested with
  | done client result => exact ⟨0, Nat.zero_le count, settled_done found nofun⟩
  | refused client own => exact ⟨0, Nat.zero_le count, settled_done found fun _ same => Except.error.inj same ▸ own⟩
  | suspended fewer held => exact ⟨_, fewer, .busy found held⟩

theorem passOn_of_busy {result : Client × Progress}
    (found : result.1.readers[reader]? = some { reading := .busy socket }) :
    (passOn (some reader) result).1 = settled reader socket result := by
  obtain ⟨client, progress⟩ := result
  have busy : client.reading? reader = some (.busy socket) := by rw [reading?, found, Option.map_some]
  cases progress with
  | suspended call => rfl
  | done result => simp only [passOn, busy, settled]

private theorem passOn_of_idle {result : Client × Progress}
    (found : result.1.readers[reader]? = some { reading := .idle socket }) :
    (passOn (some reader) result).1 = result.1 := by
  obtain ⟨client, progress⟩ := result
  have idle : client.reading? reader = some (.idle socket) := by rw [reading?, found, Option.map_some]
  cases progress with
  | suspended call => rfl
  | done result => simp only [passOn, idle]

theorem confirm_settled (client : Client) (reader : ReaderId) (socket : SocketId) (members : Members) :
    (client.confirm reader socket members).1 = settled reader socket
      (((client.established members).setReading reader (.busy socket)).resubscribeAll (.reader reader) (some reader)) := by
  unfold confirm
  split <;> rename_i result <;> rw [result] <;> rfl

private theorem confirm_attends {client : Client} (sound : client.Sound) {reading : Reading}
    (found : client.readers[reader]? = some { reading }) (members : Members) :
    ∃ left, Attends reader socket (client.confirm reader socket members).1 left := by
  let busy := (client.established members).setReading reader (.busy socket)
  have ready : busy.Sound := ⟨sound.numbered, sound.attached⟩
  have requested := resubscribe_requested ready (.reader reader) (some reader) busy.listing
  have spares : Spares (fun _ => True) (fun _ => True) busy
      (resubscribe (.reader reader) (some reader) busy.listing busy).1 := .resubscribe busy _ _ _
  have here : busy.readers[reader]? = some { reading := .busy socket } := setReading_found found _
  obtain ⟨left, _, attends⟩ := settled_attends requested (spares.reader reader _ trivial here)
  exact ⟨left, confirm_settled client reader socket members ▸ attends⟩

/-- Taking a frame to its channel fails, if at all, for a reason that is only logged. -/
theorem deliver_error {client : Client} {frame : Frame} {envelope : Envelope} {name event : Text} {error : Error}
    (within : frame.exceeds = false) (decoded : Envelope.ofArrival frame = .ok envelope)
    (other : envelope.event ≠ some Envelope.establishedEvent) (named : envelope.event = some event) (failed : (client.deliver name event frame).2 = .error error) :
    error.own = true := by
  unfold deliver at failed
  split at failed
  · contradiction
  unfold receive at failed
  split at failed
  · contradiction
  split at failed
  next refused =>
    obtain ⟨cause, rfl⟩ := Channel.receive_error within decoded other named refused
    cases failed
    rfl
  · unfold react submit at failed
    split at failed
    · contradiction
    · cases failed
      rfl

theorem delivered_of_own {client : Client} {result : Except Error Unit}
    (own : ∀ error, result = .error error → error.own = true) (name event : Text) :
    ∃ records, client.delivered reader name event result = { client with records } := by
  unfold delivered
  split
  · exact ⟨client.records, rfl⟩
  · exact ⟨_, rfl⟩
  next error _ =>
    rw [if_pos (own error rfl)]
    exact ⟨_, rfl⟩

private theorem handle_attends {client : Client} (sound : client.Sound)
    (found : client.readers[reader]? = some { reading := .idle socket }) {frame : Frame} (within : frame.exceeds = false) :
    ∃ left, Attends reader socket (client.handle reader socket frame).1 left := by
  have idle : Attends reader socket client.counted 0 := .idle found
  have quietly {after : Client} (quiet : Quiet client.counted after) : ∃ left, Attends reader socket after left :=
    ⟨0, idle.kept quiet.spares⟩
  have counted : client.counted.Sound := ⟨sound.numbered, sound.attached⟩
  unfold handle
  dsimp only
  split
  · exact quietly (.log _ _ _ _ _)
  next error malformed undecoded =>
    obtain ⟨cause, rfl⟩ := Frame.undecodable_of_within undecoded within
    exact absurd rfl (malformed cause)
  next envelope decoded =>
    split
    next confirming =>
      unfold establish
      split
      · exact confirm_attends counted found _
      · exact confirm_attends ((Quiet.log client.counted _ _ _ _).sound counted) found []
      next error malformed refused =>
        have small := Frame.confirmation_within within decoded confirming
        obtain ⟨cause, rfl⟩ := Payload.undecodable_of_within refused small
        exact absurd rfl (malformed cause)
    next other =>
      split
      · exact quietly (.log _ _ _ _ _)
      · split
        next name event channel named =>
          have own : ∀ error, (client.counted.deliver name event frame).2 = .error error → error.own = true :=
            fun error failed => deliver_error within decoded other named failed
          obtain ⟨records, logged⟩ := delivered_of_own own name event
          have quiet : Quiet (client.counted.deliver name event frame).1 (client.counted.route reader name event frame) :=
            ⟨_, _, records, logged⟩
          exact quietly ((Quiet.deliver client.counted name event frame).trans quiet)
        · exact quietly (.log _ _ _ _ _)

/-- What leaves a reader going: nobody gives up the connection that it was started for, what it takes are
frames within the limits, and its own requests are sent. -/
def calm (client : Client) (reader : ReaderId) : Event → Bool
  | .disconnect _ => client.connection.reader ≠ some reader
  | .turn other =>
    other ≠ reader ||
      match client.next reader with
      | some (.frame frame) => !frame.exceeds
      | some (.ending _) => false
      | none => true
  | .resume call (.error _) =>
    match client.call? call with
    | some ⟨_, .resubscribing _ _ (some other)⟩ => other ≠ reader
    | _ => true
  | _ => true

theorem next_of_calm {client : Client} (calm : client.calm reader (.turn reader)) {arrival : Arrival}
    (next : client.next reader = some arrival) : ∃ frame, arrival = .frame frame ∧ frame.exceeds = false := by
  cases arrival with
  | frame frame => exact ⟨frame, rfl, by simpa [Client.calm, next] using calm⟩
  | ending ending => simp [Client.calm, next] at calm

private theorem outcome_of_calm {client : Client} {call : CallId} {outcome : Except Error Unit}
    (calm : client.calm reader (.resume call outcome)) {task : Task} {channel : ChannelId} {rest : List ChannelId}
    (held : client.call? call = some ⟨task, .resubscribing channel rest (some reader)⟩) : outcome = .ok () := by
  cases outcome with
  | ok => rfl
  | error => simp [Client.calm, held] at calm

def taking (client : Client) (reader : ReaderId) : Client :=
  match client.next reader with
  | some (.frame _) => client.counted
  | _ => client

private theorem handle_spares {readers : ReaderId → Prop} {calls : CallId → Prop} (client : Client)
    (apart : ¬readers reader)
    (socket : SocketId) (frame : Frame) :
    Spares readers calls client.counted (client.handle reader socket frame).1 := by
  cases addressed : client.addressed frame with
  | none =>
    have acts : Acts (fun reader => ¬readers reader) (fun _ => True) client.counted (client.handle reader socket frame).1 :=
      handle_of_unaddressed apart addressed socket fun _ _ _ => trivial
    exact acts.spares
  | some offer =>
    have received : Quiet client.counted (client.counted.receive offer.channel offer.event offer.frame).1 :=
      .receive client.counted offer.channel offer.event offer.frame
    exact received.spares.trans (handle_of_addressed apart addressed socket).spares

private theorem turn_spares {readers : ReaderId → Prop} {calls : CallId → Prop} (client : Client)
    (apart : ¬readers reader)
    (going : client.isCancelling (.reader reader) = false) :
    Spares readers calls (client.taking reader) (client.turn reader).1 := by
  cases next : client.next reader with
  | none =>
    simp only [taking, next]
    exact (turn_of_nothing apart next going).spares
  | some arrival =>
    obtain ⟨socket, rest, _, _, turned⟩ := turn_of_next next
    rw [turned]
    cases arrival with
    | ending ending =>
      simp only [taking, next]
      exact (Spares.leave client socket rest).trans (Edits.ending _ apart socket ending).spares
    | frame frame =>
      simp only [taking, next]
      exact (Spares.leave client.counted socket rest).trans (handle_spares (client.leave socket rest) apart socket frame)

end
end Pubsub.Client

def Pubsub.Event.aside : Event → Bool
  | .attach _ | .disconnect _ | .resume _ _ | .turn _ | .unwind _ | .shutDown => false
  | _ => true

namespace Pubsub.Client

private theorem perform_aside (client : Client) {event : Event} (aside : event.aside = true) :
    Spares (fun _ => True) (fun _ => True) client (client.perform event) := by
  cases event with
  | make name family =>
    simp only [perform]
    split
    · exact .refl client
    · exact .beside client _ _ _ _ _
  | bind id event listener => exact (Quiet.change client id _).spares
  | unbind id event listener => exact (Quiet.change client id _).spares
  | setToken id token => exact (Quiet.change client id fun channel => .ok { channel with token }).spares
  | setLifecycle id lifecycle => exact (Quiet.change client id fun channel => .ok { channel with lifecycle }).spares
  | move id phase => exact (Quiet.moveTo client id phase).spares
  | receive id event frame => exact (Quiet.receive client id event frame).spares
  | subscribe task name listener events => exact .subscribe client task name listener events
  | unsubscribe task name =>
    have goes : Goes (fun _ => ¬True) (fun _ => True) client (client.unsubscribe task name) :=
      .unsubscribe client trivial name
    exact goes.acts.spares
  | resubscribe task => exact .resubscribe client task none client.listing
  | deliver name event frame => exact (Quiet.deliver client name event frame).spares
  | lose resumable =>
    cases resumable with
    | true => exact (Edits.suspendAll client).spares
    | false => exact (Edits.endAll client).spares
  | connect task => exact (Edits.connect client task).spares
  | send task text => exact (Edits.message client task text).spares
  | failure => exact (Quiet.log client _ _ _ _).spares
  | callback => exact .beside client _ _ _ _ _
  | arrive | jam =>
    exact ⟨rfl, rfl, rfl, fun numbered => numbered, fun _ _ _ found => found, fun _ _ _ found => found⟩
  | attach | disconnect | resume | turn | unwind | shutDown => contradiction

def heard (client : Client) : Event → Client
  | .turn reader => client.taking reader
  | _ => client

/-- Not even readers and calls are spared, but all else is. -/
theorem step_spares (client : Client) {event : Event} (attaching : ∀ transport, event ≠ .attach transport)
    (closing : event ≠ .shutDown) : Spares (fun _ => False) (fun _ => False) (client.heard event) (client.step event) := by
  have weaker {before after : Client} (spares : Spares (fun _ => True) (fun _ => True) before after) :
      Spares (fun _ => False) (fun _ => False) before after :=
    { spares with reader := fun _ _ never => never.elim, call := fun _ _ never => never.elim }
  cases event with
  | turn reader =>
    unfold step
    split
    next going =>
      rw [possible, Bool.not_eq_true'] at going
      exact turn_spares client id going
    next stuck =>
      have nothing : client.next reader = none := by
        rw [possible, Bool.not_eq_true', Bool.not_eq_false] at stuck
        rw [next, if_pos stuck]
      simp only [heard, taking, nothing]
      exact .refl client
  | disconnect task => exact (Edits.disconnect client (fun _ _ never => never) task).spares
  | resume call outcome =>
    refine step_induction (.refl client) ?_
    intro possible
    exact .resume client (present_of_possible possible) id outcome fun _ _ _ _ _ never => never
  | unwind reader => exact step_induction (.refl client) fun _ => .unwind client id fun _ _ never => never.elim
  | attach transport => exact absurd rfl (attaching transport)
  | shutDown => contradiction
  | _ => exact step_induction (.refl client) fun _ => weaker (perform_aside client rfl)

theorem step_sound {client : Client} (event : Event) (sound : client.Sound) : (client.step event).Sound := by
  have heard : (client.heard event).Sound := by
    cases event with
    | turn reader =>
      simp only [Client.heard, taking]
      split
      · exact ⟨sound.numbered, sound.attached⟩
      · exact sound
    | _ => exact sound
  by_cases attaching : ∃ transport, event = .attach transport
  · obtain ⟨transport, rfl⟩ := attaching
    refine step_induction sound ?_
    intro possible
    refine ⟨sound.numbered, ?_⟩
    rintro rfl
    contradiction
  · by_cases closing : event = .shutDown
    · subst closing
      exact ⟨sound.numbered, sound.attached⟩
    · exact (step_spares client (fun transport same => attaching ⟨transport, same⟩) closing).sound heard

theorem fresh_sound (url : Text) : (fresh url).Sound :=
  ⟨fun _ member => absurd member List.not_mem_nil, nofun⟩

theorem run_sound {client : Client} (events : List Event) (sound : client.Sound) : (client.run events).Sound :=
  run_induction (fun _ event => step_sound event) sound events

section
variable {reader : ReaderId} {socket : SocketId}

/-- A request of the reader's own that is sent brings the reader closer to being idle. -/
theorem resume_own {client : Client} (sound : client.Sound) {call : CallId} {channel : ChannelId}
    {rest : List ChannelId} (held : client.call? call = some ⟨.reader reader, .resubscribing channel rest (some reader)⟩)
    (found : client.readers[reader]? = some { reading := .busy socket }) :
    ∃ left ≤ rest.length, Attends reader socket (client.resume call (.ok ())).1 left := by
  have dropped : Spares (fun _ => True) (· ≠ call) client (client.drop call) := .drop client (not_not_intro rfl)
  have spares := dropped.trans (.resubscribe _ (.reader reader) (some reader) rest)
  have here := spares.reader reader _ trivial found
  simp only [resume, held]
  rw [passOn_of_busy here]
  exact settled_attends (resubscribe_requested (dropped.sound sound) _ _ rest) here

private theorem resume_attends {client : Client} {left : Nat} (sound : client.Sound)
    (attends : Attends reader socket client left) {call : CallId} {task : Task} {channel : ChannelId}
    {rest : List ChannelId} (held : client.call? call = some ⟨task, .resubscribing channel rest (some reader)⟩) :
    ∃ left, Attends reader socket (client.resume call (.ok ())).1 left := by
  have dropped : Spares (fun _ => True) (· ≠ call) client (client.drop call) := .drop client (not_not_intro rfl)
  have spares := dropped.trans (.resubscribe _ task (some reader) rest)
  cases attends with
  | idle found =>
    have here := spares.reader reader _ trivial found
    simp only [resume, held]
    rw [passOn_of_idle here]
    exact ⟨0, .idle here⟩
  | @busy own _ _ found waiting =>
    by_cases mine : task = .reader reader
    · subst mine
      obtain ⟨left, _, goes⟩ := resume_own sound held found
      exact ⟨left, goes⟩
    · -- the reader's own call is another one, and goes on waiting unless it is settled with this one
      have other : own ≠ call := by
        rintro rfl
        rw [waiting] at held
        cases held
        exact mine rfl
      have here := spares.reader reader _ trivial found
      have kept := spares.call own _ other waiting
      have requested := resubscribe_requested (dropped.sound sound) task (some reader) rest
      simp only [resume, held]
      rw [passOn_of_busy here]
      generalize resubscribe task (some reader) rest (client.drop call) = result at here kept requested
      cases requested with
      | done client result => exact ⟨0, settled_done here nofun⟩
      | refused client own => exact ⟨0, settled_done here fun _ same => Except.error.inj same ▸ own⟩
      | suspended _ _ => exact ⟨_, .busy here kept⟩

theorem turn_of_empty {client : Client} {left : Nat} (attends : Attends reader socket client left)
    (nothing : client.next reader = none) : (client.turn reader).1 = client := by
  have going := attends.going
  cases attends with
  | idle found =>
    have reading : client.reading? reader = some (.idle socket) := by rw [reading?, found, Option.map_some]
    simp only [turn, reading]
    split
    next arrival rest arrived =>
      obtain ⟨state, opened, waiting⟩ := Option.map_eq_some_iff.mp arrived
      simp [Client.next, going, reading, opened, waiting] at nothing
    · rfl
  | busy found held => simp [turn, reading?, found]

private theorem turn_attends {client : Client} {left : Nat} (sound : client.Sound)
    (attends : Attends reader socket client left)
    (calm : client.calm reader (.turn reader)) : ∃ left, Attends reader socket (client.turn reader).1 left := by
  cases next : client.next reader with
  | none => exact ⟨left, (turn_of_empty attends next).symm ▸ attends⟩
  | some arrival =>
    obtain ⟨frame, rfl, within⟩ := next_of_calm calm next
    obtain ⟨current, rest, reading, _, turned⟩ := turn_of_next next
    cases attends with
    | busy found held => simp [reading?, found] at reading
    | idle found =>
      obtain rfl : socket = current := by simpa [reading?, found] using reading
      have behind : (client.leave socket rest).Sound := ⟨sound.numbered, sound.attached⟩
      rw [turned]
      exact handle_attends behind found within

private theorem turn_of_other {client : Client} {left : Nat} (attends : Attends reader socket client left)
    {other : ReaderId}
    (apart : other ≠ reader) (going : client.isCancelling (.reader other) = false) :
    Attends reader socket (client.turn other).1 left := by
  have taking : Attends reader socket (client.taking other) left := by
    unfold Client.taking
    split
    · cases attends with
      | idle found => exact .idle found
      | busy found held => exact .busy found held
    · exact attends
  have spares : Spares (· = reader) (fun _ => True) (client.taking other) (client.turn other).1 :=
    turn_spares client apart going
  exact taking.spared spares rfl fun _ _ _ _ => trivial

private theorem unwind_of_other {client : Client} {left : Nat} (attends : Attends reader socket client left)
    {other : ReaderId}
    (apart : other ≠ reader) : Attends reader socket (client.unwind other) left := by
  have spares : Spares (· = reader) (fun call => ∃ stage, client.call? call = some ⟨.reader reader, stage⟩)
      client (client.unwind other) := by
    refine .unwind client apart ?_
    rintro id call ⟨stage, held⟩ found
    rw [held] at found
    cases found
    exact fun same => apart (Task.reader.inj same).symm
  exact attends.spared spares rfl fun _ _ _ held => ⟨_, held⟩

/-- A call that the reader does not wait for goes on without it. -/
theorem resume_of_other {client : Client} {left : Nat} (attends : Attends reader socket client left) {call : CallId}
    (present : (client.call? call).isSome)
    (other : ¬∃ task channel rest, client.call? call = some ⟨task, .resubscribing channel rest (some reader)⟩)
    (outcome : Except Error Unit) : Attends reader socket (client.resume call outcome).1 left := by
  have spares : Spares (· = reader) (· ≠ call) client (client.resume call outcome).1 := by
    refine .resume client present (not_not_intro rfl) outcome ?_
    rintro task channel rest waiting held rfl
    exact other ⟨task, channel, rest, held⟩
  refine attends.spared spares rfl ?_
  rintro waiting channel rest held rfl
  exact other ⟨_, channel, rest, held⟩

private theorem step_attends {client : Client} {left : Nat} (sound : client.Sound)
    (attends : Attends reader socket client left)
    {event : Event} (calm : client.calm reader event) : ∃ left, Attends reader socket (client.step event) left := by
  apply step_induction (motive := fun after => ∃ left, Attends reader socket after left) ⟨left, attends⟩
  intro possible
  by_cases aside : event.aside = true
  · exact ⟨left, attends.kept (perform_aside client aside)⟩
  cases event with
  | attach | shutDown =>
    cases attends with
    | idle found => exact ⟨0, .idle found⟩
    | busy found held => exact ⟨_, .busy found held⟩
  | disconnect task =>
    have spares : Spares (· = reader) (fun _ => True) client (client.disconnect task).1 := by
      refine (Edits.disconnect client ?_ task).spares
      rintro other last rfl
      exact of_decide_eq_true calm last
    exact ⟨left, attends.spared spares rfl fun _ _ _ _ => trivial⟩
  | unwind other =>
    have apart : other ≠ reader := by
      rintro rfl
      rw [Client.possible, attends.going] at possible
      contradiction
    exact ⟨left, unwind_of_other attends apart⟩
  | turn other =>
    rw [Client.possible, Bool.not_eq_true'] at possible
    by_cases same : other = reader
    · subst same
      exact turn_attends sound attends calm
    · exact ⟨left, turn_of_other attends same possible⟩
  | resume call outcome =>
    by_cases own : ∃ task channel rest, client.call? call = some ⟨task, .resubscribing channel rest (some reader)⟩
    · obtain ⟨task, channel, rest, held⟩ := own
      obtain rfl := outcome_of_calm calm held
      exact resume_attends sound attends held
    · exact ⟨left, resume_of_other attends (present_of_possible possible) own outcome⟩
  | _ => contradiction

def Calm (reader : ReaderId) : Client → List Event → Bool
  | _, [] => true
  | client, event :: rest => client.calm reader event && Calm reader (client.step event) rest

theorem run_attends {client : Client} {left : Nat} (sound : client.Sound) (attends : Attends reader socket client left)
    {events : List Event} (calm : Calm reader client events) :
    ∃ left, Attends reader socket (client.run events) left := by
  induction events generalizing client left with
  | nil => exact ⟨left, attends⟩
  | cons event rest ih =>
    obtain ⟨first, later⟩ := Bool.and_eq_true_iff.mp calm
    obtain ⟨next, goes⟩ := step_attends sound attends first
    exact ih (step_sound event sound) goes later

/-- Once so many requests are sent, the reader is idle again. -/
theorem Attends.settles {client : Client} {left : Nat} (sound : client.Sound)
    (attends : Attends reader socket client left) :
    ∃ sent : List CallId, Attends reader socket (client.run (sent.map (.resume · (.ok ())))) 0 := by
  induction left using Nat.strongRecOn generalizing client with
  | ind left ih =>
    have going := attends.going
    cases attends with
    | idle found => exact ⟨[], .idle found⟩
    | @busy call channel rest found held =>
      obtain ⟨fewer, bound, goes⟩ := resume_own sound held found
      have possible : client.possible (.resume call (.ok ())) = true := by
        simp [Client.possible, canResume, held, going]
      have stepped : client.step (.resume call (.ok ())) = (client.resume call (.ok ())).1 := if_pos possible
      rw [← stepped] at goes
      obtain ⟨sent, settled⟩ := ih fewer (Nat.lt_succ_of_le bound) (step_sound _ sound) goes
      exact ⟨call :: sent, settled⟩

end
end Pubsub.Client
