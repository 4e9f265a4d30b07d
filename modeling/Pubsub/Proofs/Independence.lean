import Pubsub.Proofs.Resubscription
import Pubsub.Proofs.Share

/-! A reader serves its channels independently. What comes of a channel while frames are handled is told by the frames
that concern it, in whatever other frames they stand. -/

namespace Pubsub.Client

def read (client : Client) (reader : ReaderId) : Event → Option Frame
  | .turn other =>
    match client.next other with
    | some (.frame frame) => if other = reader then some frame else none
    | _ => none
  | _ => none

def reads (reader : ReaderId) : Client → List Event → List Frame
  | _, [] => []
  | client, event :: rest => (client.read reader event).toList ++ reads reader (client.step event) rest

def backlog (client : Client) (socket : SocketId) : Option (List Arrival) := client.sockets[socket]?.map (·.incoming)

private theorem leave_backlog {client : Client} {socket : SocketId} {arrival : Arrival} {rest : List Arrival}
    (arrived : client.backlog socket = some (arrival :: rest)) :
    (client.leave socket rest).backlog socket = (client.backlog socket).map List.tail := by
  obtain ⟨state, found, waiting⟩ := Option.map_eq_some_iff.mp arrived
  simp [backlog, leave, found, waiting]

/-- Whether an event is part of a reader's handling of frames: frames arrive, the reader takes those that are within the
limits, and the requests that it makes meanwhile are sent. Callbacks are made, but do nothing to the client. -/
def serves (since : CallId) (reader : ReaderId) (client : Client) : Event → Bool
  | .arrive _ (.frame _) | .callback | .failure => true
  | .turn other => other = reader && client.calm reader (.turn other)
  | .resume call (.ok ()) => since ≤ call
  | _ => false

/-- A reader handles frames on behalf of a registered channel among others. Where it sends anything, it can. -/
structure Serving (since : CallId) (reader : ReaderId) (socket : SocketId) (wire : Option SocketId) (id : ChannelId)
    (sends : Prop) (client : Client) (pending : List ChannelId) (channel : Channel) : Prop where
  tidy : client.Tidy
  member : id ∈ client.registered
  found : client.channels[id]? = some channel
  accepting : client.accepting = true
  reaches : sends → client.Reaches wire
  sending : pending ≠ [] → sends
  late : since ≤ client.nextCall
  stands : Stands since reader socket client pending

section
variable {since : CallId} {reader : ReaderId} {socket : SocketId} {wire : Option SocketId} {id : ChannelId} {sends : Prop}
  {client : Client} {pending : List ChannelId} {channel : Channel}

theorem Stands.of_same {after : Client} (stands : Stands since reader socket client pending)
    (readers : after.readers = client.readers) (calls : after.calls = client.calls)
    (established : after.connection.established = client.connection.established) :
    Stands since reader socket after pending := by
  cases stands with
  | idle found early => exact .idle (readers ▸ found) (calls ▸ early)
  | busy found confirmed suspended late early =>
    exact .busy (readers ▸ found) (established.trans confirmed) (calls.trans suspended) late early

theorem Stands.attends (stands : Stands since reader socket client pending) (ordered : client.Ordered) :
    Attends reader socket client pending.length := by
  cases stands with
  | idle found => exact .idle found
  | busy found _ calls =>
    exact .busy found (ordered.call?_of_mem (calls ▸ List.mem_append_right _ (List.mem_singleton_self _)))

theorem Serving.known (serving : Serving since reader socket wire id sends client pending channel) :
    client.lookup channel.name = some id :=
  serving.tidy.registry.lookup_iff.mpr ⟨serving.member, nameOf_of_found serving.found⟩

/-- A reader takes nothing before all its requests are sent. -/
theorem Stands.between (stands : Stands since reader socket client pending) {current : SocketId}
    (reading : client.reading? reader = some (.idle current)) : pending = [] ∧ socket = current := by
  cases stands with
  | idle found =>
    refine ⟨rfl, ?_⟩
    simpa [reading?, found] using reading
  | busy found => simp [reading?, found] at reading

/-- What an event makes of the share of a channel, counting requests that are still before the reader. -/
def Yields (reader : ReaderId) (wire : Option SocketId) (id : ChannelId) (client : Client) (pending : List ChannelId)
    (channel : Channel) (event : Event) (left : List ChannelId) (later : Channel) : Prop :=
  ∀ submitted, ((client.step event).share later (submitted ++ client.submits id event)).requestIf (id ∈ left.tail) wire =
    (client.read reader event).toList.foldl (Share.take wire)
      ((client.share channel submitted).requestIf (id ∈ pending.tail) wire)

theorem Serving.next (serving : Serving since reader socket wire id sends client pending channel) {event : Event}
    (steady : Steady client (client.step event)) {left : List ChannelId}
    (stands : Stands since reader socket (client.step event) left) (sending : left ≠ [] → sends) {later : Channel}
    (found : (client.step event).channels[id]? = some later) :
    Serving since reader socket wire id sends (client.step event) left later where
  tidy := step_tidy event serving.tidy
  member := steady.registered ▸ serving.member
  found := found
  accepting := steady.accepting.trans serving.accepting
  reaches := fun goes => steady.reaches (serving.reaches goes)
  sending := sending
  late := Nat.le_trans serving.late (step_nextCall serving.tidy event)
  stands := stands

/-- An event that nothing comes of. -/
theorem Serving.idle (serving : Serving since reader socket wire id sends client pending channel) {event : Event}
    (nobody : client.taker event = none) (unread : client.read reader event = none)
    (sockets : List Socket) (waiting : List Callback) (records : List Record)
    (stepped : client.step event = { client with sockets, waiting, records }) :
    ∃ left later, Serving since reader socket wire id sends (client.step event) left later ∧
      Yields reader wire id client pending channel event left later := by
  refine ⟨pending, channel, serving.next ?_ ?_ serving.sending ?_, ?_⟩
  · exact stepped ▸ ⟨rfl, rfl, rfl, rfl⟩
  · exact serving.stands.of_same (by rw [stepped]) (by rw [stepped]) (by rw [stepped])
  · rw [stepped]
    exact serving.found
  · intro submitted
    rw [submits_of_nobody nobody, unread, List.append_nil, stepped]
    rfl

/-- A frame that does not confirm the connection is taken by the channel if it is offered to it. -/
theorem Serving.plain (serving : Serving since reader socket wire id sends client [] channel) {frame : Frame}
    (next : client.next reader = some (.frame frame)) (within : frame.exceeds = false) (plain : frame.confirms = false) :
    ∃ left later, Serving since reader socket wire id sends (client.step (.turn reader)) left later ∧
      Yields reader wire id client [] channel (.turn reader) left later ∧
      (client.step (.turn reader)).backlog socket = (client.backlog socket).map List.tail := by
  obtain ⟨current, rest, reading, arrived, turned⟩ := turn_of_next next
  obtain ⟨_, rfl⟩ := serving.stands.between reading
  obtain ⟨records, handled⟩ := handle_of_plain within plain (client.leave socket rest) reader socket
  let before := (client.leave socket rest).counted
  have stepped : client.step (.turn reader) = { before.offers (client.addressed frame) with records } := by
    rw [Client.step, if_pos (possible_of_next next), perform, turned]
    exact handled
  have read : client.read reader (.turn reader) = some frame := by simp only [Client.read, next, if_true]
  have quiet : Quiet before (client.step (.turn reader)) := by
    rw [stepped]
    exact (offers_quiet before _).trans ⟨_, _, records, rfl⟩
  have steady : Steady client (client.step (.turn reader)) :=
    ⟨quiet.steady.transport, quiet.steady.socket, quiet.steady.registered, quiet.steady.accepting⟩
  have stands : Stands since reader socket (client.step (.turn reader)) [] := by
    obtain ⟨_, _, _, same⟩ := quiet
    exact serving.stands.of_same (by rw [same]; rfl) (by rw [same]; rfl) (by rw [same]; rfl)
  have found : before.channels[id]? = some channel := serving.found
  have known : before.lookup channel.name = some id := serving.known
  obtain ⟨later, now, shares⟩ := offers_share found known plain wire
  have now : (client.step (.turn reader)).channels[id]? = some later := by
    rw [stepped]
    exact now
  refine ⟨[], later, serving.next steady stands (by simp) now, fun submitted => ?_, ?_⟩
  · simp only [read, stepped, submits_of_next serving.found serving.accepting next, Share.requestIf, List.tail_nil,
      List.not_mem_nil, if_false, Option.toList_some, List.foldl_cons, List.foldl_nil]
    exact shares submitted
  · obtain ⟨_, _, _, same⟩ := quiet
    rw [same, ← leave_backlog arrived]
    rfl

/-- A reader that goes on requesting channels in turn. -/
theorem Serving.requests (serving : Serving since reader socket wire id sends client pending channel) (goes : sends)
    {event : Event} {start : Client} {ids : List ChannelId} (nodup : ids.Nodup)
    (stepped : client.step event = (passOn (some reader) (resubscribe (.reader reader) (some reader) ids start)).1)
    (steady : Steady client start) (channels : start.channels = client.channels) (sent : start.sent = client.sent)
    (next : start.nextCall = client.nextCall) (busy : start.readers[reader]? = some { reading := .busy socket })
    (established : start.connection.established = true) (early : ∀ entry ∈ start.calls, entry.1 < since) :
    ∃ left later, left <:+ ids ∧ Serving since reader socket wire id sends (client.step event) left later ∧
      (client.step event).sockets = start.sockets ∧
      ∀ submitted, ((client.step event).share later submitted).requestIf (id ∈ left.tail) wire =
        (client.share channel submitted).requestIf (id ∈ ids) wire := by
  have spares : Spares (fun _ => True) (fun _ => True) start (resubscribe (.reader reader) (some reader) ids start).1 :=
    .resubscribe start _ _ _
  rw [passOn_of_busy (spares.reader reader _ trivial busy)] at stepped
  have target := (steady.reaches (serving.reaches goes)).target established
  have stretch := resubscribe_stretch start (.reader reader) (some reader) ids
  obtain ⟨left, suffix, still, sockets, stands, keeps⟩ :=
    stretch.stands busy established (next ▸ serving.late) early target nodup
  rw [← stepped] at still sockets stands keeps
  have names : start.names = client.names := by rw [Client.names, Client.names, channels]
  have known : start.lookup channel.name = some id := by rw [lookup_of_names names steady.registered, serving.known]
  obtain ⟨later, now, same⟩ := keeps id channel (channels ▸ serving.found) known
  have all : Steady client (client.step event) :=
    ⟨still.transport.trans steady.transport, still.socket.trans steady.socket, still.registered.trans steady.registered,
      still.accepting.trans steady.accepting⟩
  refine ⟨left, later, suffix, serving.next all stands (fun _ => goes) now, sockets, fun submitted => ?_⟩
  rw [same submitted, share, share, about, about, handed_of_sent sent]

/-- A frame that confirms the connection has the channel requested. -/
theorem Serving.confirming (serving : Serving since reader socket wire id sends client [] channel) (goes : sends)
    {frame : Frame} (next : client.next reader = some (.frame frame)) (within : frame.exceeds = false)
    (confirms : frame.confirms = true) :
    ∃ left later, Serving since reader socket wire id sends (client.step (.turn reader)) left later ∧
      Yields reader wire id client [] channel (.turn reader) left later ∧
      (client.step (.turn reader)).backlog socket = (client.backlog socket).map List.tail := by
  obtain ⟨start, starts⟩ := starts_of_confirms next within confirms
  have listing := starts.listing
  obtain ⟨channels, _, sent⟩ := starts.same
  have stepped := starts.step
  cases starts with
  | @reader _ current _ rest middle members reading arrived alike taken =>
    cases serving.stands with
    | idle found early =>
      obtain rfl : current = socket := by
        rw [found] at reading
        cases reading
        rfl
      have nodup : client.listing.Nodup := serving.tidy.registry.listing
      rw [resubscribeAll, listing] at stepped
      obtain ⟨_, _, rfl⟩ := alike
      obtain ⟨left, later, _, serves, sockets, shares⟩ := serving.requests goes nodup stepped ⟨rfl, rfl, rfl, rfl⟩
        channels sent rfl (setReading_found found _) rfl early
      refine ⟨left, later, serves, fun submitted => ?_, by rw [backlog, sockets, ← leave_backlog arrived]; rfl⟩
      have read : client.read reader (.turn reader) = some frame := by simp only [Client.read, next, if_true]
      have submits : client.submits id (.turn reader) = [] := by
        rw [submits_of_next serving.found serving.accepting next, answers, addressed_of_confirms confirms]
      rw [submits, List.append_nil, shares submitted, Share.requestIf_of _ wire (mem_listing.mpr serving.member), read]
      simp [Share.requestIf, take_of_confirms confirms]

/-- A request of the reader's own is sent, and it goes on to those that are left. -/
theorem Serving.resuming (serving : Serving since reader socket wire id sends client pending channel) {call : CallId}
    (late : since ≤ call) (possible : client.possible (.resume call (.ok ())) = true) :
    ∃ left later, left.length < pending.length ∧
      Serving since reader socket wire id sends (client.step (.resume call (.ok ()))) left later ∧
      Yields reader wire id client pending channel (.resume call (.ok ())) left later ∧
      (client.step (.resume call (.ok ()))).sockets = client.sockets := by
  obtain ⟨held, present⟩ := Option.isSome_iff_exists.mp (present_of_possible possible)
  have member := call?_mem present
  cases serving.stands with
  | idle found early => exact absurd (early _ member) (Nat.not_lt.mpr late)
  | @busy own current ids others found established calls ours early =>
    -- what has been suspended since is the reader's own
    have last : (call, held) = (own, ⟨.reader reader, .resubscribing current ids (some reader)⟩) := by
      rw [calls] at member
      rcases List.mem_append.mp member with other | mine
      · exact absurd (early _ other) (Nat.not_lt.mpr late)
      · exact List.mem_singleton.mp mine
    cases last
    have goes := serving.sending (List.cons_ne_nil _ _)
    have nodup := (List.nodup_cons.mp (serving.tidy.proper _ member).1).2
    have dropped : ∀ entry ∈ (client.drop call).calls, entry.1 < since := by
      intro entry inside
      obtain ⟨inside, other⟩ := List.mem_filter.mp inside
      rw [calls] at inside
      rcases List.mem_append.mp inside with before | mine
      · exact early entry before
      · simp [List.mem_singleton.mp mine] at other
    have stepped : client.step (.resume call (.ok ())) =
        (passOn (some reader) (resubscribe (.reader reader) (some reader) ids (client.drop call))).1 := by
      rw [Client.step, if_pos possible, perform]
      simp only [resume, present]
    obtain ⟨left, later, suffix, serves, sockets, shares⟩ := serving.requests goes nodup stepped ⟨rfl, rfl, rfl, rfl⟩
      rfl rfl rfl found established dropped
    refine ⟨left, later, Nat.lt_succ_of_le suffix.length_le, serves, fun submitted => ?_, sockets⟩
    have submits : client.submits id (.resume call (.ok ())) = [] := submits_of_nobody rfl id
    rw [submits, List.append_nil, shares submitted]
    rfl

theorem Serving.taking (serving : Serving since reader socket wire id sends client [] channel) {frame : Frame}
    (next : client.next reader = some (.frame frame)) (within : frame.exceeds = false)
    (allowed : frame.confirms = true → sends) :
    ∃ left later, Serving since reader socket wire id sends (client.step (.turn reader)) left later ∧
      Yields reader wire id client [] channel (.turn reader) left later ∧
      (client.step (.turn reader)).backlog socket = (client.backlog socket).map List.tail := by
  cases confirms : frame.confirms with
  | true => exact serving.confirming (allowed confirms) next within confirms
  | false => exact serving.plain next within confirms

theorem Serving.step (serving : Serving since reader socket wire id sends client pending channel) {event : Event}
    (serves : client.serves since reader event = true)
    (allowed : ∀ frame, client.read reader event = some frame → frame.confirms = true → sends) :
    ∃ left later, Serving since reader socket wire id sends (client.step event) left later ∧
      Yields reader wire id client pending channel event left later := by
  cases event with
  | arrive other arrival => exact serving.idle rfl rfl _ client.waiting client.records rfl
  | callback => exact serving.idle rfl rfl client.sockets _ client.records rfl
  | failure => exact serving.idle rfl rfl client.sockets client.waiting _ rfl
  | turn other =>
    obtain ⟨same, calm⟩ := Bool.and_eq_true_iff.mp serves
    obtain rfl := of_decide_eq_true same
    cases next : client.next other with
    | none =>
      have attends := serving.stands.attends serving.tidy.ordered
      have nobody : client.taker (.turn other) = none := by simp [taker, Client.accepted, offered, next]
      have unread : client.read other (.turn other) = none := by simp only [read, next]
      have stepped : client.step (.turn other) = client := by
        apply step_induction (motive := fun after => after = client) rfl
        exact fun _ => turn_of_empty attends next
      exact serving.idle nobody unread client.sockets client.waiting client.records stepped
    | some arrival =>
      obtain ⟨frame, rfl, within⟩ := next_of_calm calm next
      obtain ⟨_, _, reading, _⟩ := turn_of_next next
      obtain ⟨rfl, _⟩ := serving.stands.between reading
      have read : client.read other (.turn other) = some frame := by simp only [Client.read, next, if_true]
      obtain ⟨left, later, served, yields, _⟩ := serving.taking next within (allowed frame read)
      exact ⟨left, later, served, yields⟩
  | resume call outcome =>
    cases outcome with
    | error => contradiction
    | ok =>
      by_cases possible : client.possible (.resume call (.ok ())) = true
      · obtain ⟨left, later, _, served, yields, _⟩ := serving.resuming (of_decide_eq_true serves) possible
        exact ⟨left, later, served, yields⟩
      · exact serving.idle rfl rfl client.sockets client.waiting client.records (if_neg possible)
  | _ => contradiction

theorem Serving.run (serving : Serving since reader socket wire id sends client pending channel) {events : List Event}
    (follows : Follows (serves since reader) client events = true)
    (allowed : ∀ frame ∈ reads reader client events, frame.confirms = true → sends) :
    ∃ left later, Serving since reader socket wire id sends (client.run events) left later ∧
      ∀ submitted, ((client.run events).share later (submitted ++ submissions id client events)).requestIf
          (id ∈ left.tail) wire =
        (reads reader client events).foldl (Share.take wire)
          ((client.share channel submitted).requestIf (id ∈ pending.tail) wire) := by
  induction events generalizing client pending channel with
  | nil => exact ⟨pending, channel, serving, fun submitted => by rw [submissions, List.append_nil]; rfl⟩
  | cons event rest ih =>
    obtain ⟨first, others⟩ := Bool.and_eq_true_iff.mp follows
    obtain ⟨now, soon⟩ := List.forall_mem_append.mp allowed
    have first := serving.step first fun frame read => now frame (Option.mem_toList.mpr read)
    obtain ⟨middle, between, next, yields⟩ := first
    obtain ⟨left, later, last, shares⟩ := ih next others soon
    refine ⟨left, later, last, fun submitted => ?_⟩
    rw [submissions, reads, List.foldl_append, ← yields, ← shares, run_cons, List.append_assoc]

/-- A run in which a reader handles frames, one after another, up to where it waits for the next. -/
structure Handles (client : Client) (reader : ReaderId) (frames : List Frame) (events : List Event) : Prop where
  follows : Follows (serves client.nextCall reader) client events = true
  reads : reads reader client events = frames
  settled : ∃ socket, (client.run events).reading? reader = some (.idle socket)

/-- The requests of a reader can be sent one after another until it is between two frames. -/
theorem Serving.settles (serving : Serving since reader socket wire id sends client pending channel) :
    ∃ events, Follows (serves since reader) client events = true ∧ reads reader client events = [] ∧
      (client.run events).sockets = client.sockets ∧
      ∃ later, Serving since reader socket wire id sends (client.run events) [] later := by
  -- each frame that is sent leaves fewer requests, since those of ended channels are passed over
  induction left : pending.length using Nat.strongRecOn generalizing client pending channel with
  | ind count ih =>
    cases serving.stands with
    | idle => exact ⟨[], rfl, rfl, rfl, channel, serving⟩
    | @busy own current rest others found established calls late early =>
      have held : client.call? own = some ⟨.reader reader, .resubscribing current rest (some reader)⟩ :=
        serving.tidy.ordered.call?_of_mem (calls ▸ List.mem_append_right _ (List.mem_singleton_self _))
      have possible : client.possible (.resume own (.ok ())) = true := by
        simp [Client.possible, canResume, held, isCancelling, found]
      obtain ⟨fewer, later, less, served, _, sockets⟩ := serving.resuming late possible
      obtain ⟨events, follows, unread, kept, settled⟩ := ih fewer.length (left ▸ less) served rfl
      refine ⟨.resume own (.ok ()) :: events, ?_, unread, kept.trans sockets, settled⟩
      exact Bool.and_eq_true_iff.mpr ⟨decide_eq_true late, follows⟩

/-- A frame that arrives can be handled. -/
theorem Serving.handles (serving : Serving since reader socket wire id sends client [] channel)
    (nothing : client.backlog socket = some []) {frame : Frame} (within : frame.exceeds = false)
    (allowed : frame.confirms = true → sends) :
    ∃ events, Follows (serves since reader) client events = true ∧ reads reader client events = [frame] ∧
      (client.run events).backlog socket = some [] ∧
      ∃ later, Serving since reader socket wire id sends (client.run events) [] later := by
  cases serving.stands with
  | idle found =>
    let arrived := client.step (.arrive socket (.frame frame))
    obtain ⟨state, opened, waiting⟩ := Option.map_eq_some_iff.mp nothing
    have readers : arrived.readers = client.readers := rfl
    have reading : arrived.reading? reader = some (.idle socket) := by rw [reading?, readers, found, Option.map_some]
    have backlog : arrived.backlog socket = some [.frame frame] := by
      simp [arrived, Client.step, Client.possible, perform, changeSocket, Client.backlog, opened, waiting]
    have next : arrived.next reader = some (.frame frame) := by
      obtain ⟨state, opened, waiting⟩ := Option.map_eq_some_iff.mp backlog
      simp [Client.next, isCancelling, readers, found, reading, opened, waiting]
    have arrives : client.serves since reader (.arrive socket (.frame frame)) = true := rfl
    have takes : arrived.serves since reader (.turn reader) = true := by simp [serves, calm, next, within]
    obtain ⟨left, later, before, _⟩ := serving.step arrives (fun _ read => by cases read)
    obtain ⟨rfl, _⟩ := before.stands.between reading
    obtain ⟨pending, between, taken, _, tail⟩ := before.taking next within allowed
    obtain ⟨events, follows, unread, kept, settled⟩ := taken.settles
    refine ⟨.arrive socket (.frame frame) :: .turn reader :: events, ?_, ?_, ?_, settled⟩
    · exact Bool.and_eq_true_iff.mpr ⟨arrives, Bool.and_eq_true_iff.mpr ⟨takes, follows⟩⟩
    · have silent : client.read reader (.arrive socket (.frame frame)) = none := rfl
      have taken : arrived.read reader (.turn reader) = some frame := by simp only [read, next, if_true]
      simp only [Client.reads, silent, Option.toList_none, List.nil_append]
      rw [taken, unread]
      rfl
    · have last : (arrived.step (.turn reader)).backlog socket = some [] := by rw [tail, backlog]; rfl
      rw [run_cons, run_cons, Client.backlog, kept]
      exact last

theorem Serving.settled (serving : Serving since reader socket wire id sends client [] channel) :
    ∃ socket, client.reading? reader = some (.idle socket) := by
  cases serving.stands with
  | idle found => exact ⟨socket, by rw [reading?, found, Option.map_some]⟩

private theorem follows_append (rule : Client → Event → Bool) (client : Client) (first second : List Event) :
    Follows rule client (first ++ second) = (Follows rule client first && Follows rule (client.run first) second) := by
  induction first generalizing client with
  | nil => rfl
  | cons event rest ih => simp only [List.cons_append, Follows, run_cons, ih, Bool.and_assoc]

private theorem reads_append (reader : ReaderId) (client : Client) (first second : List Event) :
    reads reader client (first ++ second) = reads reader client first ++ reads reader (client.run first) second := by
  induction first generalizing client with
  | nil => rfl
  | cons event rest ih => simp only [List.cons_append, Client.reads, run_cons, ih, List.append_assoc]

/-- All frames that arrive can be handled. -/
theorem Serving.handlesAll (serving : Serving since reader socket wire id sends client [] channel)
    (nothing : client.backlog socket = some []) {frames : List Frame} (within : ∀ frame ∈ frames, frame.exceeds = false)
    (allowed : ∀ frame ∈ frames, frame.confirms = true → sends) :
    ∃ events, Follows (serves since reader) client events = true ∧ reads reader client events = frames ∧
      ∃ later, Serving since reader socket wire id sends (client.run events) [] later := by
  induction frames generalizing client channel with
  | nil => exact ⟨[], rfl, rfl, channel, serving⟩
  | cons frame rest ih =>
    obtain ⟨small, others⟩ := List.forall_mem_cons.mp within
    obtain ⟨now, soon⟩ := List.forall_mem_cons.mp allowed
    obtain ⟨first, begins, read, empty, middle, between⟩ := serving.handles nothing small now
    obtain ⟨second, goes, reads, last⟩ := ih between empty others soon
    refine ⟨first ++ second, ?_, ?_, ?_⟩
    · rw [follows_append, begins, goes, Bool.and_self]
    · rw [reads_append, read, reads, List.singleton_append]
    · rw [run_append]
      exact last

/-- What comes of a channel while frames are handled is what comes of it alone. -/
theorem Serving.shares (serving : Serving client.nextCall reader socket wire id sends client [] channel) {frames : List Frame}
    {events : List Event} (handles : client.Handles reader frames events)
    (allowed : ∀ frame ∈ frames, frame.confirms = true → sends) :
    ∃ later, (client.run events).channels[id]? = some later ∧
      (client.run events).share later (submissions id client events) =
        frames.foldl (Share.take wire) (client.share channel []) := by
  obtain ⟨follows, rfl, _, reading⟩ := handles
  obtain ⟨left, later, served, shares⟩ := serving.run follows allowed
  obtain ⟨rfl, _⟩ := served.stands.between reading
  refine ⟨later, served.found, ?_⟩
  simpa [Share.requestIf] using shares []

end

/-- Of the frames that a reader handles, those that concern a registered channel are enough to tell what comes of it: its
state, the callbacks that it submits and the requests about its name are the same as if the others had never arrived. -/
theorem channel_independence (url : Text) (transport : Transport) (past : List Event) {reader : ReaderId}
    {socket : SocketId} {id : ChannelId} {wire : Option SocketId} (frames : List Frame)
    (idle : ((initial url transport).run past).readers[reader]? = some { reading := .idle socket })
    (member : id ∈ ((initial url transport).run past).registered)
    (accepting : ((initial url transport).run past).accepting = true)
    (reaches : (∃ frame ∈ frames, frame.confirms = true) → ((initial url transport).run past).Reaches wire) :
    let client := (initial url transport).run past
    let own := frames.filter (·.concerns (client.nameOf id))
    (∀ events others, client.Handles reader frames events → client.Handles reader own others →
      (client.run events).channels[id]? = (client.run others).channels[id]? ∧
      submissions id client events = submissions id client others ∧
      (client.run events).about (client.nameOf id) = (client.run others).about (client.nameOf id)) ∧
    (∀ events event, event ≠ .callback → ((client.run events).step event).waiting =
      (client.run events).waiting ++ ((client.run events).submitted event).map (·.2)) ∧
    (client.backlog socket = some [] → (∀ frame ∈ frames, frame.exceeds = false) →
      (∃ events, client.Handles reader frames events) ∧ ∃ others, client.Handles reader own others) := by
  intro client own
  have tidy : client.Tidy := (initial_tidy url transport).run past
  obtain ⟨channel, found, named⟩ := tidy.registry.found member
  have serving : Serving client.nextCall reader socket wire id (∃ frame ∈ frames, frame.confirms = true) client []
      channel :=
    ⟨tidy, member, found, accepting, reaches, nofun, Nat.le_refl _, .idle idle tidy.ordered.numbered⟩
  have all : ∀ frame ∈ frames, frame.confirms = true → ∃ frame ∈ frames, frame.confirms = true :=
    fun frame inside confirms => ⟨frame, inside, confirms⟩
  have some : ∀ frame ∈ own, frame.confirms = true → ∃ frame ∈ frames, frame.confirms = true :=
    fun frame inside => all frame (List.mem_filter.mp inside).1
  refine ⟨fun events others handles handlesOwn => ?_, fun events _ making => step_waiting (client.run events) making,
    fun nothing within => ⟨?_, ?_⟩⟩
  · obtain ⟨later, now, shares⟩ := serving.shares handles all
    obtain ⟨latest, here, alone⟩ := serving.shares handlesOwn some
    have same : own.foldl (Share.take wire) (client.share channel []) =
        frames.foldl (Share.take wire) (client.share channel []) := by
      simp only [own, ← named]
      exact Share.take_concerning frames
    have name : later.name = client.nameOf id := by
      have kept := @Share.takes_name (client.share channel []) wire frames
      rw [← shares] at kept
      exact kept.trans named
    rw [same, ← shares] at alone
    obtain ⟨rfl, submitted, about⟩ := Share.mk.inj alone
    rw [name] at about
    exact ⟨now.trans here.symm, submitted.symm, about.symm⟩
  · obtain ⟨events, follows, reads, later, served⟩ := serving.handlesAll nothing within all
    exact ⟨events, follows, reads, served.settled⟩
  · obtain ⟨events, follows, reads, later, served⟩ :=
      serving.handlesAll nothing (fun frame inside => within frame (List.mem_filter.mp inside).1) some
    exact ⟨events, follows, reads, served.settled⟩

def awaiting : List Event :=
  [.connect .application, .resume 0 (.ok ()), .turn 0, .subscribe .application (some "feed") none [],
    .subscribe .application (some "news") none []]

def confirming : Frame := .text (Json.object [("event", .text "pusher:connection_established")]).compact

def goal : Frame := .text (Json.object [("event", .text "goal"), ("channel", .text "feed"), ("id", .text "41")]).compact

def story : Frame := .text (Json.object [("event", .text "story"), ("channel", .text "news"), ("id", .text "7")]).compact

/-- What arrives for one channel, with a frame that cannot be decoded, has no influence on the other. -/
theorem channel_independence_awaiting :
    let client := (initial "url" .connection).run awaiting
    ∃ events others, client.Handles 0 [.text "nothing", confirming, story, goal] events ∧
      client.Handles 0 [confirming, goal] others ∧
      (client.run events).channels[0]? = (client.run others).channels[0]? ∧
      submissions 0 client events = submissions 0 client others ∧
      (client.run events).about "feed" = (client.run others).about "feed" := by
  intro client
  have reaches : client.Reaches (some 0) := rfl
  obtain ⟨same, _, possible⟩ := @channel_independence "url" .connection awaiting 0 0 0 (some 0)
    [.text "nothing", confirming, story, goal] rfl (by decide +kernel) rfl fun _ => reaches
  have concerned : [.text "nothing", confirming, story, goal].filter (·.concerns (client.nameOf 0)) = [confirming, goal] := by
    decide +kernel
  have named : client.nameOf 0 = "feed" := by decide +kernel
  obtain ⟨⟨events, handles⟩, others, alone⟩ := possible rfl (by decide +kernel)
  obtain ⟨channel, submitted, about⟩ := same events others handles alone
  rw [concerned] at alone
  rw [named] at about
  exact ⟨events, others, handles, alone, channel, submitted, about⟩

end Pubsub.Client
