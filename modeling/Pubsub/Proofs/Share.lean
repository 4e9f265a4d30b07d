import Pubsub.Proofs.Attendance
import Pubsub.Proofs.Effect
import Pubsub.Proofs.Link
import Pubsub.Proofs.Requests
import Pubsub.Proofs.Rollback
import Pubsub.Proofs.Stretch

/-! What comes of one channel when frames are handled, told without any other channel. A frame that confirms the
connection has it requested again, one that names it is offered to it, and no other frame concerns it. -/

namespace Pubsub

/-- Whether a frame concerns the channel of a name: it confirms the connection, or names the channel. -/
def Frame.concerns (frame : Frame) (name : Text) : Bool :=
  match Envelope.ofArrival frame with
  | .ok envelope => envelope.event = some Envelope.establishedEvent || envelope.channel = some name
  | .error _ => false

/-- A channel with the callbacks that it has submitted, and the requests about its name that were handed over. -/
structure Share where
  channel : Channel
  submitted : List Callback
  handed : List (Option SocketId × Request)

namespace Share

def request (share : Share) (socket : Option SocketId) : Share :=
  if share.channel.phase = .ended then share
  else {
    channel := { share.channel with phase := .requested }
    submitted := share.submitted
    handed := share.handed ++ [(socket, share.channel.request)] }

def requestIf (share : Share) (due : Prop) [Decidable due] (socket : Option SocketId) : Share :=
  if due then share.request socket else share

def receive (share : Share) (event : Text) (frame : Frame) : Share :=
  match share.channel.accepted event frame with
  | none => share
  | some acceptance => {
      channel := acceptance.update share.channel
      submitted := share.submitted ++ acceptance.callbacks share.channel
      handed := share.handed }

/-- What comes of a channel when a frame is handled and requests go to a socket. -/
def take (socket : Option SocketId) (share : Share) (frame : Frame) : Share :=
  match Envelope.ofArrival frame with
  | .error _ => share
  | .ok envelope =>
    if envelope.event = some Envelope.establishedEvent then share.request socket
    else
      match envelope.channel, envelope.event with
      | some name, some event =>
        if event ≠ Envelope.errorEvent ∧ name = share.channel.name then share.receive event frame else share
      | _, _ => share

variable {share : Share} {socket : Option SocketId}

theorem requestIf_of (share : Share) (socket : Option SocketId) {due : Prop} [Decidable due] (holds : due) :
    share.requestIf due socket = share.request socket := if_pos holds

private theorem requestIf_of_not (share : Share) (socket : Option SocketId) {due : Prop} [Decidable due]
    (fails : ¬due) :
    share.requestIf due socket = share := if_neg fails

private theorem requestIf_of_ended (ended : share.channel.phase = .ended) (due : Prop) [Decidable due] :
    share.requestIf due socket = share := by
  unfold requestIf
  split
  · exact if_pos ended
  · rfl

private theorem request_name : (share.request socket).channel.name = share.channel.name := by
  unfold request
  split <;> rfl

private theorem receive_name (event : Text) (frame : Frame) :
    (share.receive event frame).channel.name = share.channel.name := by
  unfold receive
  split
  · rfl
  next acceptance _ => cases acceptance <;> rfl

private theorem take_name (frame : Frame) : (share.take socket frame).channel.name = share.channel.name := by
  unfold take
  split
  · rfl
  · split
    · exact request_name
    · split
      · split
        · exact receive_name _ frame
        · rfl
      · rfl

theorem takes_name (frames : List Frame) : (frames.foldl (take socket) share).channel.name = share.channel.name := by
  induction frames generalizing share with
  | nil => rfl
  | cons frame rest ih => exact ih.trans (take_name frame)

/-- Nothing comes of a frame that does not concern the channel. -/
theorem take_of_unconcerned {frame : Frame} (apart : frame.concerns share.channel.name = false) :
    share.take socket frame = share := by
  unfold Frame.concerns at apart
  unfold take
  split at apart
  next envelope decoded =>
    obtain ⟨plain, other⟩ := (Bool.or_eq_false_iff ..).mp apart
    rw [decoded]
    dsimp only
    rw [if_neg (of_decide_eq_false plain)]
    split
    next name event channel named =>
      rw [if_neg]
      rintro ⟨_, rfl⟩
      exact of_decide_eq_false other channel
    · rfl
  next error undecoded => rw [undecoded]

/-- The frames that concern a channel are enough to tell what comes of it. -/
theorem take_concerning (frames : List Frame) :
    (frames.filter (·.concerns share.channel.name)).foldl (take socket) share = frames.foldl (take socket) share := by
  induction frames generalizing share with
  | nil => rfl
  | cons frame rest ih =>
    cases concerns : frame.concerns share.channel.name with
    | true =>
      have named := @take_name share socket frame
      simp only [List.filter_cons, concerns, if_true, List.foldl_cons]
      rw [← ih, named]
    | false =>
      simp only [List.filter_cons, concerns, Bool.false_eq_true, if_false, List.foldl_cons]
      rw [take_of_unconcerned concerns, ih]

end Share

namespace Client

def about (client : Client) (name : Text) : List (Option SocketId × Request) :=
  client.handed.filter (·.2.name = name)

def share (client : Client) (channel : Channel) (submitted : List Callback) : Share :=
  ⟨channel, submitted, client.about channel.name⟩

/-- The callbacks that an event submits for a channel. -/
def submits (client : Client) (id : ChannelId) (event : Event) : List Callback :=
  ((client.submitted event).filter (·.1 = id)).map (·.2)

def submissions (id : ChannelId) : Client → List Event → List Callback
  | _, [] => []
  | client, event :: rest => client.submits id event ++ submissions id (client.step event) rest

def offers (client : Client) : Option Offer → Client
  | none => client
  | some offer => (client.receive offer.channel offer.event offer.frame).1

section
variable {client : Client} {id : ChannelId} {channel : Channel}

theorem offers_quiet (client : Client) (offer : Option Offer) : Quiet client (client.offers offer) := by
  cases offer with
  | none => exact .refl client
  | some offer => exact .receive client offer.channel offer.event offer.frame

/-- A frame that does not confirm the connection is offered to the channel that it is for, and all else is logged. -/
theorem handle_of_plain {frame : Frame} (within : frame.exceeds = false) (plain : frame.confirms = false)
    (client : Client) (reader : ReaderId) (socket : SocketId) :
    ∃ records, (client.handle reader socket frame).1 =
      { client.counted.offers (client.addressed frame) with records } := by
  unfold Frame.confirms at plain
  cases decoded : Envelope.ofArrival frame with
  | error error =>
    obtain ⟨cause, rfl⟩ := Frame.undecodable_of_within decoded within
    simp only [handle, addressed, decoded]
    exact ⟨_, rfl⟩
  | ok envelope =>
    obtain ⟨event, data, tag, name⟩ := envelope
    simp only [decoded, decide_eq_false_iff_not] at plain
    have other := plain
    simp only [handle, addressed, decoded, if_neg plain]
    cases event with
    | none => cases name <;> exact ⟨_, rfl⟩
    | some event =>
      rw [Option.some.injEq] at plain
      by_cases failing : event = Envelope.errorEvent
      · subst failing
        cases name <;> exact ⟨_, rfl⟩
      · rw [if_neg fun same => failing (Option.some.inj same)]
        cases name with
        | none => exact ⟨_, rfl⟩
        | some name =>
          have own : ∀ error, (client.counted.deliver name event frame).2 = .error error → error.own = true :=
            fun error failed => deliver_error within decoded other rfl failed
          have logged : ∃ records, client.counted.route reader name event frame =
              { (client.counted.deliver name event frame).1 with records } := delivered_of_own own name event
          obtain ⟨records, logged⟩ := logged
          simp only [logged, if_neg (not_or.mpr ⟨plain, failing⟩)]
          cases found : client.lookup name with
          | none =>
            have unknown : client.counted.lookup name = none := found
            simp only [deliver, unknown, Option.map_none, offers]
            exact ⟨records, rfl⟩
          | some id =>
            have known : client.counted.lookup name = some id := found
            simp only [deliver_of_lookup known, Option.map_some, offers]
            exact ⟨records, rfl⟩

/-- A frame that does not confirm the connection is taken by the channel that it is offered to. -/
theorem take_of_plain (found : client.channels[id]? = some channel) (known : client.lookup channel.name = some id)
    {frame : Frame} (plain : frame.confirms = false) (socket : Option SocketId) (submitted : List Callback) :
    (client.share channel submitted).take socket frame =
      match client.addressed frame with
      | some offer =>
        if offer.channel = id then (client.share channel submitted).receive offer.event offer.frame
        else client.share channel submitted
      | none => client.share channel submitted := by
  unfold Frame.confirms at plain
  unfold Share.take addressed
  cases decoded : Envelope.ofArrival frame with
  | error => rfl
  | ok envelope =>
    obtain ⟨event, data, tag, name⟩ := envelope
    simp only [decoded, decide_eq_false_iff_not] at plain
    dsimp only
    rw [if_neg plain]
    cases event with
    | none => cases name <;> rfl
    | some event =>
      cases name with
      | none => rfl
      | some name =>
        rw [Option.some.injEq] at plain
        dsimp only
        by_cases failing : event = Envelope.errorEvent
        · rw [if_neg (fun both => both.1 failing), if_pos (.inr failing)]
        · rw [if_neg (not_or.mpr ⟨plain, failing⟩)]
          by_cases mine : name = channel.name
          · subst mine
            rw [if_pos ⟨failing, rfl⟩, known]
            simp only [Option.map_some, if_true]
          · rw [if_neg (fun both => mine both.2)]
            cases other : client.lookup name with
            | none => rfl
            | some registered =>
              have apart : registered ≠ id := by
                rintro rfl
                have named : client.nameOf registered = name := by simpa using List.find?_some other
                exact mine (named.symm.trans (nameOf_of_found found))
              simp only [Option.map_some, if_neg apart]

theorem addressed_of_confirms {frame : Frame} (confirms : frame.confirms = true) (client : Client) :
    client.addressed frame = none := by
  unfold Frame.confirms at confirms
  unfold addressed
  split at confirms
  next envelope decoded =>
    obtain ⟨event, data, tag, name⟩ := envelope
    obtain rfl : event = _ := of_decide_eq_true confirms
    rw [decoded]
    cases name with
    | none => rfl
    | some name => exact if_pos (.inl rfl)
  · contradiction

theorem take_of_confirms {frame : Frame} (confirms : frame.confirms = true) (share : Share) (wire : Option SocketId) :
    share.take wire frame = share.request wire := by
  unfold Frame.confirms at confirms
  unfold Share.take
  split at confirms
  next envelope decoded =>
    rw [decoded]
    exact if_pos (of_decide_eq_true confirms)
  · contradiction

def submissionsOf (channel : Channel) (event : Text) (frame : Frame) : List Callback :=
  ((channel.accepted event frame).map (·.callbacks channel)).getD []

/-- The callbacks that a channel submits when a frame is handled that does not confirm the connection. -/
def answers (client : Client) (id : ChannelId) (channel : Channel) (frame : Frame) : List Callback :=
  match client.addressed frame with
  | some offer => if offer.channel = id then submissionsOf channel offer.event offer.frame else []
  | none => []

theorem Quiet.about {before after : Client} (quiet : Quiet before after) (name : Text) :
    after.about name = before.about name := by
  rw [Client.about, Client.about, quiet.handed]

private theorem receive_share (found : client.channels[id]? = some channel) (event : Text) (frame : Frame) :
    ∃ later, (client.receive id event frame).1.channels[id]? = some later ∧ ∀ submitted,
      (client.receive id event frame).1.share later (submitted ++ submissionsOf channel event frame) =
        (client.share channel submitted).receive event frame := by
  have about := (Quiet.receive client id event frame).about
  obtain ⟨inside, _⟩ := List.getElem?_eq_some_iff.mp found
  unfold submissionsOf Share.receive
  dsimp only [share]
  cases accepts : channel.accepted event frame with
  | some acceptance =>
    obtain ⟨records, received⟩ := Channel.receive_of_accepted accepts
    have named : (acceptance.update channel).name = channel.name := by cases acceptance <;> rfl
    refine ⟨acceptance.update channel, ?_, fun submitted => ?_⟩
    · simp only [Client.receive, found, received, react, setChannel, submit_fst, List.getElem?_set_self inside]
    · rw [about, named]
      rfl
  | none =>
    refine ⟨channel, ?_, fun submitted => ?_⟩
    · rcases Channel.receive_of_refused accepts with ⟨error, received⟩ | ⟨records, received⟩
      · simp only [Client.receive, found, received]
      · simp only [Client.receive, found, received, react, setChannel, submit_fst, List.getElem?_set_self inside]
    · rw [about, Option.map_none, Option.getD_none, List.append_nil]

private theorem receive_found_of_ne (client : Client) {other : ChannelId} (apart : other ≠ id) (event : Text)
    (frame : Frame) :
    (client.receive other event frame).1.channels[id]? = client.channels[id]? := by
  unfold receive
  split
  · rfl
  · split
    · rfl
    · simp only [react, setChannel, submit_fst, List.getElem?_set_ne apart]

/-- Of a frame that does not confirm the connection comes to a channel what is offered to it. -/
theorem offers_share (found : client.channels[id]? = some channel) (known : client.lookup channel.name = some id)
    {frame : Frame} (plain : frame.confirms = false) (socket : Option SocketId) :
    ∃ later, (client.offers (client.addressed frame)).channels[id]? = some later ∧ ∀ submitted,
      (client.offers (client.addressed frame)).share later (submitted ++ client.answers id channel frame) =
        (client.share channel submitted).take socket frame := by
  simp only [take_of_plain found known plain, answers]
  cases client.addressed frame with
  | none => exact ⟨channel, found, fun submitted => by rw [List.append_nil]; rfl⟩
  | some offer =>
    dsimp only
    by_cases mine : offer.channel = id
    · subst mine
      simp only [if_true]
      exact receive_share found offer.event offer.frame
    · simp only [if_neg mine, List.append_nil]
      refine ⟨channel, (receive_found_of_ne client mine offer.event offer.frame).trans found, fun submitted => ?_⟩
      exact congrArg (Share.mk channel submitted) ((offers_quiet client (some offer)).about channel.name)

theorem submits_of_nobody {event : Event} (nobody : client.taker event = none) (id : ChannelId) :
    client.submits id event = [] := by
  rw [submits, submitted, nobody]
  rfl

private theorem submits_of_taker (accepting : client.accepting = true) {event : Event} {accepted : Accepted}
    (taker : client.taker event = some accepted) (id : ChannelId) :
    client.submits id event = if accepted.id = id then accepted.callbacks else [] := by
  rw [submits, submitted, taker]
  dsimp only
  rw [if_pos accepting, List.filter_map, List.map_map]
  split
  next mine => simp [Function.comp_def, mine]
  next other => simp [Function.comp_def, other]

theorem submits_of_next (found : client.channels[id]? = some channel) (accepting : client.accepting = true)
    {reader : ReaderId} {frame : Frame} (next : client.next reader = some (.frame frame)) :
    client.submits id (.turn reader) = client.answers id channel frame := by
  have taker : client.taker (.turn reader) = (client.addressed frame).bind client.taken := by
    have other (id : ChannelId) : Event.turn reader ≠ .move id .subscribed := nofun
    rw [taker_eq_accepted other, Client.accepted]
    simp only [offered, next]
  unfold answers
  cases addressed : client.addressed frame with
  | none => exact submits_of_nobody (by rw [taker, addressed, Option.bind_none]) id
  | some offer =>
    rw [addressed, Option.bind_some] at taker
    dsimp only
    cases taken : client.taken offer with
    | none =>
      rw [submits_of_nobody (taker.trans taken)]
      split
      next mine =>
        rw [Client.taken, mine, found, Option.bind_some, Option.map_eq_none_iff] at taken
        rw [submissionsOf, taken, Option.map_none, Option.getD_none]
      · rfl
    | some accepted =>
      rw [submits_of_taker accepting (taker.trans taken)]
      obtain ⟨channel, here, mapped⟩ := Option.bind_eq_some_iff.mp taken
      obtain ⟨acceptance, accepts, rfl⟩ := Option.map_eq_some_iff.mp mapped
      dsimp only
      split
      next mine =>
        rw [mine, found] at here
        cases here
        rw [submissionsOf, accepts, Option.map_some, Option.getD_some]
        rfl
      · rfl

end

structure Steady (before after : Client) : Prop where
  transport : after.transport = before.transport
  socket : after.connection.socket = before.connection.socket
  registered : after.registered = before.registered
  accepting : after.accepting = before.accepting

theorem Quiet.steady {before after : Client} (quiet : Quiet before after) : Steady before after := by
  obtain ⟨_, _, _, rfl⟩ := quiet
  exact ⟨rfl, rfl, rfl, rfl⟩

/-- Frames go to a socket, or straight to the peer, once the connection is established. -/
def Reaches (client : Client) (socket : Option SocketId) : Prop :=
  { client with connection := { client.connection with established := true } }.target = .ok socket

theorem Reaches.target {client : Client} {socket : Option SocketId} (reaches : client.Reaches socket)
    (established : client.connection.established = true) : client.target = .ok socket := by
  have same : { client with connection := { client.connection with established := true } } = client := by
    rw [← established]
  rwa [Reaches, same] at reaches

theorem Steady.reaches {before after : Client} (steady : Steady before after) {socket : Option SocketId}
    (reaches : before.Reaches socket) : after.Reaches socket := by
  unfold Reaches Client.target at *
  rw [steady.transport]
  cases transport : before.transport with
  | absent => simp only [transport] at reaches; contradiction
  | direct => simpa only [transport] using reaches
  | connection =>
    simp only [transport, isConnected, steady.socket, Bool.true_and] at reaches ⊢
    cases current : before.connection.socket with
    | none => simp [current] at reaches
    | some _ => simpa [current] using reaches

/-- A reader is between two frames, or has the requests of some channels before it, the first of which is being sent.
No other call has been suspended since a number. -/
inductive Stands (since : CallId) (reader : ReaderId) (socket : SocketId) (client : Client) :
    List ChannelId → Prop where
  | idle (found : client.readers[reader]? = some { reading := .idle socket })
      (early : ∀ entry ∈ client.calls, entry.1 < since) : Stands since reader socket client []
  | busy {own : CallId} {current : ChannelId} {left : List ChannelId} {others : List (CallId × Call)}
      (found : client.readers[reader]? = some { reading := .busy socket })
      (established : client.connection.established = true)
      (calls : client.calls = others ++ [(own, ⟨.reader reader, .resubscribing current left (some reader)⟩)])
      (late : since ≤ own) (early : ∀ entry ∈ others, entry.1 < since) :
      Stands since reader socket client (current :: left)

section
variable {client : Client} {since : CallId} {reader : ReaderId} {socket : SocketId} {wire : Option SocketId}
  {ids : List ChannelId}

private theorem asking_steady (client : Client) (task : Task) (stage : Stage) (id : ChannelId) (channel : Channel)
    (socket : Option SocketId) : Steady client (client.asking task stage id channel socket) ∧
      (client.asking task stage id channel socket).readers = client.readers ∧
      (client.asking task stage id channel socket).sockets = client.sockets := by
  unfold asking
  obtain ⟨_, _, _, same⟩ := Quiet.moveTo client id .requested
  rw [same]
  exact ⟨⟨rfl, rfl, rfl, rfl⟩, rfl, rfl⟩

/-- A channel that is asked for is requested. -/
theorem asking_share {id : ChannelId} {channel : Channel} (found : client.channels[id]? = some channel)
    (live : channel.phase ≠ .ended) (task : Task) (stage : Stage) (socket : Option SocketId) :
    ∃ later, (client.asking task stage id channel socket).channels[id]? = some later ∧ ∀ submitted,
      (client.asking task stage id channel socket).share later submitted = (client.share channel submitted).request socket := by
  obtain ⟨inside, _⟩ := List.getElem?_eq_some_iff.mp found
  have allowed : channel.phase = .ended → Phase.requested = .ended := fun ended => absurd ended live
  refine ⟨{ channel with phase := .requested }, ?_, fun submitted => ?_⟩
  · exact (congrArg (·[id]?) (moveTo_channels found allowed)).trans (List.getElem?_set_self inside)
  · simp [share, about, asking_handed, Share.request, live, Channel.request, Request.name]

/-- Another channel is left as it is. -/
theorem asking_share_of_ne (client : Client) (task : Task) (stage : Stage) {id other : ChannelId} {asked channel : Channel}
    (socket : Option SocketId) (apart : other ≠ id) (distinct : asked.name ≠ channel.name) :
    (client.asking task stage id asked socket).channels[other]? = client.channels[other]? ∧ ∀ submitted,
      (client.asking task stage id asked socket).share channel submitted = client.share channel submitted := by
  refine ⟨moveTo_found_of_ne client .requested apart, fun submitted => ?_⟩
  simp [share, about, asking_handed, Channel.request, Request.name, distinct]

/-- Counting the channels that are left as requested, the same comes of each registered one as from an earlier client. -/
def Keeps (wire : Option SocketId) (ids : List ChannelId) (before : Client) (left : List ChannelId) (after : Client) :
    Prop :=
  ∀ id channel, before.channels[id]? = some channel → before.lookup channel.name = some id →
    ∃ later, after.channels[id]? = some later ∧ ∀ submitted,
      (after.share later submitted).requestIf (id ∈ left) wire = (before.share channel submitted).requestIf (id ∈ ids) wire

/-- Channels that are passed over have ended, if they are registered. -/
theorem ended_of_passed {id : ChannelId} {channel : Channel} (found : client.channels[id]? = some channel)
    (known : client.lookup channel.name = some id) (unwanted : client.wanted id = none) : channel.phase = .ended :=
  wanted_eq_none.mp unwanted channel found known

private theorem keeps_of_passed (passed : ∀ id ∈ ids, client.wanted id = none) : Keeps wire ids client [] client := by
  intro id channel found known
  refine ⟨channel, found, fun submitted => ?_⟩
  rw [Share.requestIf_of_not _ wire List.not_mem_nil]
  by_cases due : id ∈ ids
  · exact (Share.requestIf_of_ended (ended_of_passed found known (passed id due)) _).symm
  · exact (Share.requestIf_of_not _ wire due).symm

private theorem keeps_of_asking {passed rest : List ChannelId} {current : ChannelId}
    (nodup : (passed ++ current :: rest).Nodup)
    (unwanted : ∀ id ∈ passed, client.wanted id = none) {asked : Channel} (wanted : client.wanted current = some asked)
    (task : Task) (stage : Stage) :
    Keeps wire (passed ++ current :: rest) client rest (client.asking task stage current asked wire) := by
  obtain ⟨found, registered, live⟩ := wanted_eq_some.mp wanted
  intro id channel here known
  by_cases same : id = current
  · subst same
    obtain rfl : asked = channel := Option.some.inj (found.symm.trans here)
    obtain ⟨later, now, shares⟩ := asking_share found live task stage wire
    have due : id ∈ passed ++ id :: rest := List.mem_append_right _ List.mem_cons_self
    have isOver : id ∉ rest := (List.nodup_cons.mp (List.nodup_append.mp nodup).2.1).1
    refine ⟨later, now, fun submitted => ?_⟩
    rw [Share.requestIf_of _ wire due, Share.requestIf_of_not _ wire isOver, shares submitted]
  · -- a namesake that is registered too would be the same channel
    have apart : asked.name ≠ channel.name := by
      intro named
      rw [← named, registered] at known
      exact same (Option.some.inj known).symm
    obtain ⟨now, shares⟩ := asking_share_of_ne client task stage wire same apart
    refine ⟨channel, now.trans here, fun submitted => ?_⟩
    rw [shares submitted]
    by_cases gone : id ∈ passed
    · have ended : (client.share channel submitted).channel.phase = .ended := ended_of_passed here known (unwanted id gone)
      rw [Share.requestIf_of_ended ended, Share.requestIf_of_ended ended]
    · have due : id ∈ passed ++ current :: rest ↔ id ∈ rest := by simp [gone, same]
      simp only [due]

/-- A reader that requests channels in turn has the last of them left when it waits again. -/
theorem Stretch.stands {result : Client × Progress}
    (stretch : Stretch client (.reader reader) (some reader) ids result)
    (busy : client.readers[reader]? = some { reading := .busy socket })
    (established : client.connection.established = true) (late : since ≤ client.nextCall)
    (early : ∀ entry ∈ client.calls, entry.1 < since) (target : client.target = .ok wire) (nodup : ids.Nodup) :
    ∃ pending, pending <:+ ids ∧ Steady client (settled reader socket result) ∧
      (settled reader socket result).sockets = client.sockets ∧
      Stands since reader socket (settled reader socket result) pending ∧
      Keeps wire ids client pending.tail (settled reader socket result) := by
  cases stretch with
  | ends passed records =>
    refine ⟨[], List.nil_suffix, ⟨rfl, rfl, rfl, rfl⟩, rfl, .idle (setReading_found busy _) early, ?_⟩
    exact keeps_of_passed passed
  | @asks passed rest current split unwanted asked wanted there reach records =>
    subst split
    obtain rfl : wire = there := Except.ok.inj (target.symm.trans reach)
    let logged : Client := { client with records }
    let stage : Stage := .resubscribing current rest (some reader)
    obtain ⟨⟨transport, opened, registered, accepting⟩, readers, sockets⟩ :=
      asking_steady logged (.reader reader) stage current asked wire
    obtain ⟨calls, _⟩ := asking_calls logged (.reader reader) stage current asked wire
    obtain ⟨_, _, connection⟩ := asking_rest logged (.reader reader) stage current asked wire
    refine ⟨current :: rest, List.suffix_append _ _, ⟨transport, opened, registered, accepting⟩, sockets, ?_, ?_⟩
    · exact .busy ((congrArg (·[reader]?) readers).trans busy) ((congrArg (·.established) connection).trans established)
        calls late early
    · have passed : ∀ id ∈ passed, logged.wanted id = none := unwanted
      exact keeps_of_asking nodup passed wanted (.reader reader) stage
  | fails split passed wanted refused records =>
    -- as long as frames can be sent, none is refused
    rw [target] at refused
    contradiction

end

end Client
end Pubsub
