import Pubsub.Proofs.Bindings
import Pubsub.Proofs.Departure

/-! What the program logs of the events that it was asked for: each one in its turn, as far as its data can be cut. -/

namespace Pubsub.Watch
open Client

/-- The event that a frame announces to a channel, with its data, if it is one of those that are asked for. The channel
reads the frame once more after it has arrived. -/
def announced (channel : Text) (events : List Text) (frame : Frame) : Option (Text × Payload) :=
  match Envelope.ofArrival frame with
  | .ok { event := some event, data, channel := some name, .. } =>
    if name = channel ∧ events.contains event ∧ event ≠ Envelope.establishedEvent ∧ event ≠ Envelope.errorEvent ∧
        (Envelope.ofDelivery frame).isOk then
      some (event, data)
    else none
  | _ => none

/-- What is logged of an event: the text that came with it, up to two hundred code points, or nothing. The listener fails
over an object with members. -/
def note (channel event : Text) : Payload → Record
  | .absent | .object [] => ⟨.program, .info, "[" ++ channel ++ "] " ++ event ++ ": ", []⟩
  | .text content => ⟨.program, .info, "[" ++ channel ++ "] " ++ event ++ ": " ++ content.take 200, []⟩
  | .object (_ :: _) => ⟨.dispatcher, .error, "Listener task failed", []⟩

/-- Whether a record tells of an event, or of a listener's failure. -/
def tells (record : Record) : Bool :=
  record.source = .program && ("[" : Text).isPrefixOf record.message || record.source = .dispatcher && record.level = .error

/-- The callbacks that the program's channel submits when a frame is handled. -/
def brought (bound : Channel) (frame : Frame) : List Callback :=
  match Envelope.ofArrival frame with
  | .ok { event := some event, channel := some name, .. } =>
    if event = Envelope.establishedEvent ∨ event = Envelope.errorEvent ∨ name ≠ bound.name then []
    else submissionsOf bound event frame
  | _ => []

variable {bound channel : Channel} {url : Text} {closing : Option Text} {client : Client}

private theorem submissionsOf_outline (same : channel.outline = bound.outline) :
    submissionsOf channel = submissionsOf bound := by
  obtain ⟨name, lifecycle, bindings, ended⟩ := Channel.of_outline same
  have accepted : channel.accepted = bound.accepted := by
    funext event frame
    simp only [Channel.accepted, ended]
  have callbacks (acceptance : Acceptance) : acceptance.callbacks channel = acceptance.callbacks bound := by
    cases acceptance <;> simp only [Acceptance.callbacks, name, lifecycle, bindings]
  funext event frame
  simp only [submissionsOf, accepted, callbacks]

theorem Unshaken.answers (unshaken : Unshaken bound url closing client) (channels : client.channels = [channel])
    (same : channel.outline = bound.outline) (frame : Frame) : client.answers 0 channel frame = brought bound frame := by
  have named : client.nameOf 0 = bound.name := by
    rw [nameOf, channels, List.getElem?_cons_zero, Option.map_some, Option.getD_some]
    exact (Channel.of_outline same).1
  have lookup (name : Text) : client.lookup name = if name = bound.name then some 0 else none := by
    rw [Client.lookup, unshaken.registered]
    by_cases mine : name = bound.name
    · simp [named, mine]
    · simp [named, mine, Ne.symm mine]
  unfold Client.answers addressed brought
  cases Envelope.ofArrival frame with
  | error => rfl
  | ok envelope =>
    obtain ⟨event, data, id, name⟩ := envelope
    cases event with
    | none => cases name <;> rfl
    | some event =>
      cases name with
      | none => rfl
      | some name =>
        dsimp only
        by_cases concerns : event = Envelope.establishedEvent ∨ event = Envelope.errorEvent
        · rw [if_pos concerns, if_pos (concerns.imp_right .inl)]
        · rw [if_neg concerns, lookup]
          by_cases mine : name = bound.name
          · simp only [if_pos mine, Option.map_some, if_true, submissionsOf_outline same]
            rw [if_neg]
            simpa [mine] using concerns
          · simp only [if_neg mine, Option.map_none]
            rw [if_pos (.inr (.inr mine))]

/-- Where there is one channel, it is the one that submits callbacks. -/
theorem submitted_of_single (channels : client.channels = [channel]) (event : Event) :
    (client.submitted event).map (·.2) = client.submits 0 event := by
  have only : ∀ entry ∈ client.submitted event, entry.1 = 0 := by
    intro entry member
    unfold Client.submitted at member
    split at member
    · contradiction
    next accepted taker =>
      split at member
      · obtain ⟨callback, _, rfl⟩ := List.mem_map.mp member
        obtain ⟨inside, _⟩ := List.getElem?_eq_some_iff.mp (taker_found taker)
        rw [channels] at inside
        exact Nat.lt_one_iff.mp inside
      · contradiction
  have all : (client.submitted event).filter (·.1 = 0) = client.submitted event :=
    List.filter_eq_self.mpr fun entry member => decide_eq_true (only entry member)
  rw [submits, all]

private theorem submits_of_unread {reader : ReaderId} (unread : client.read reader (.turn reader) = none)
    (id : ChannelId) :
    client.submits id (.turn reader) = [] := by
  apply submits_of_nobody
  rw [taker_eq_accepted (by simp), Client.accepted, offered]
  cases next : client.next reader with
  | none => rfl
  | some arrival =>
    cases arrival with
    | frame frame => simp [Client.read, next] at unread
    | ending ending => rfl

private theorem next_of_read {reader : ReaderId} {frame : Frame}
    (read : client.read reader (.turn reader) = some frame) :
    client.next reader = some (.frame frame) := by
  simp only [Client.read, if_true] at read
  split at read
  next arrival next =>
    cases read
    exact next
  · contradiction

private theorem Watches.brings (watches : Watches bound url closing client) (happening : Happening) :
    ((happens client happening).flatMap client.submitted).map (·.2) =
      ((happens client happening).filterMap (client.read 0)).flatMap (brought bound) := by
  obtain ⟨channel, channels, same⟩ := watches.channel
  have found : client.channels[0]? = some channel := by rw [channels, List.getElem?_cons_zero]
  apply happens_cases (motive := fun events => (events.flatMap client.submitted).map (·.2) =
    (events.filterMap (client.read 0)).flatMap (brought bound)) client happening
  · rfl
  · exact fun _ => rfl
  · rw [List.flatMap_singleton, submitted_of_single channels, List.filterMap_cons, List.filterMap_nil]
    cases read : client.read 0 (.turn 0) with
    | none => exact submits_of_unread read 0
    | some frame =>
      rw [submits_of_next found watches.accepting (next_of_read read), watches.answers channels same]
      exact (List.flatMap_singleton _ _).symm
  · exact fun _ _ => rfl

theorem Watches.submitted (watches : Watches bound url closing client) (happenings : List Happening) :
    submitted client happenings = (taken client happenings).flatMap (brought bound) := by
  induction happenings generalizing client with
  | nil => rfl
  | cons happening rest ih =>
    rw [Watch.submitted, taken, List.flatMap_append, watches.brings, ih (watches.meet happening)]

/-- The frames that were taken have all callbacks submitted. -/
theorem called_eq {name : Text} {events : List Text}
    (subscribed : subscribe name events url = ((fresh url).register bound, .done (.ok (some 0)))) (world : World) :
    called name events url world = (consumed name events url world).flatMap (brought bound) := by
  unfold called consumed
  split
  · rfl
  · exact (opened_watches subscribed world.closing).submitted world.happenings

structure Bound (name : Text) (events : List Text) (bound : Channel) : Prop where
  named : bound.name = name
  live : bound.phase ≠ .ended
  listeners : ∀ event, bound.bindings.listenersFor event = if event ∈ events then [listener] else []
  unreserved : ∀ event ∈ events, Envelope.reservedPrefix.isPrefixOf event = false

private theorem bound_of_new {name : Text} {events : List Text}
    (made : (fresh url).newChannel (some name) (some listener) (events.map some) = .ok bound) : Bound name events bound := by
  obtain ⟨given, named, ⟨nobody, _⟩ | ⟨who, known, bindings⟩⟩ := newChannel_ok made
  · contradiction
  · cases named
    cases known
    have shape := Channel.bindAll_shape bindings
    have none : ∀ event, ({} : Bindings).listenersFor event = if event ∈ ([] : List Text) then [listener] else [] := fun _ => rfl
    obtain ⟨listeners, unreserved⟩ := Channel.bindAll_listenersFor none bindings
    rw [shape] at listeners ⊢
    exact ⟨rfl, by simp, listeners, unreserved⟩

private theorem record_event (channel event : Text) (data : Payload) :
    Reporter.record (.event channel event data) = note channel event data ∧ tells (note channel event data) = true := by
  cases data with
  | absent => exact ⟨by simp [Reporter.record, Reporter.excerpt, note], rfl⟩
  | text content => exact ⟨rfl, rfl⟩
  | object members =>
    cases members with
    | nil => exact ⟨by simp [Reporter.record, Reporter.excerpt, note], rfl⟩
    | cons first rest => exact ⟨rfl, rfl⟩

private theorem submissionsOf_of_unread {event : Text} {frame : Frame} {error : Error}
    (failed : Envelope.ofDelivery frame = .error error) : submissionsOf bound event frame = [] := by
  have unaccepted : bound.accepted event frame = none := by
    unfold Channel.accepted
    split
    · rfl
    · simp only [failed]
  simp only [submissionsOf, unaccepted, Option.map_none, Option.getD_none]

/-- Of what a channel makes of a frame, only an event that was asked for is told of. -/
theorem Bound.reports {name : Text} {events : List Text} (is : Bound name events bound) (event : Text) {frame : Frame}
    {envelope : Envelope} (decoded : Envelope.ofDelivery frame = .ok envelope) :
    (reports (submissionsOf bound event frame)).filter tells =
      if event ∈ events then [note name event envelope.data] else [] := by
  unfold submissionsOf Channel.accepted
  rw [if_neg is.live, decoded]
  dsimp only
  split
  next succeeded =>
    have unasked : event ∉ events := by
      intro member
      have free := is.unreserved event member
      rw [succeeded] at free
      exact absurd free (by decide +kernel)
    rw [if_neg unasked]
    cases envelope.resumption frame.room.success with
    | none => rfl
    | some token =>
      apply List.filter_eq_nil_iff.mpr
      intro record member
      obtain ⟨callback, told, rfl⟩ := List.mem_map.mp member
      obtain ⟨_, _, rfl⟩ := List.mem_map.mp told
      exact Bool.false_ne_true
  · simp only [Option.map_some, Option.getD_some, Acceptance.callbacks, is.listeners, is.named]
    split
    · obtain ⟨same, told⟩ := record_event name event envelope.data
      simp only [Watch.reports, List.map_cons, List.map_nil, same]
      exact List.filter_cons_of_pos told
    · rfl

theorem Bound.brought {name : Text} {events : List Text} (is : Bound name events bound) (frame : Frame) :
    (Watch.reports (brought bound frame)).filter tells =
      (announced name events frame).toList.map fun (event, data) => note name event data := by
  unfold Watch.brought announced
  cases decoded : Envelope.ofArrival frame with
  | error => rfl
  | ok envelope =>
    obtain ⟨event, data, id, channel⟩ := envelope
    cases event with
    | none => cases channel <;> rfl
    | some event =>
      cases channel with
      | none => rfl
      | some channel =>
        dsimp only
        rw [is.named]
        by_cases elsewhere : event = Envelope.establishedEvent ∨ event = Envelope.errorEvent ∨ channel ≠ name
        · rw [if_pos elsewhere, if_neg]
          · rfl
          · rintro ⟨here, _, unconfirming, unfailing, _⟩
            exact elsewhere.elim unconfirming fun others => others.elim unfailing fun apart => apart here
        · rw [if_neg elsewhere]
          rcases Envelope.ofDelivery_of_ofArrival decoded with again | ⟨limit, failed⟩
          · rw [is.reports event again, again]
            simp only [not_or, not_not] at elsewhere
            obtain ⟨unconfirming, unfailing, here⟩ := elsewhere
            by_cases asked : event ∈ events
            · rw [if_pos asked, if_pos ⟨here, List.contains_iff_mem.mpr asked, unconfirming, unfailing, rfl⟩]
              rfl
            · rw [if_neg asked, if_neg fun all => asked (List.contains_iff_mem.mp all.2.1)]
              rfl
          · rw [submissionsOf_of_unread failed, failed, if_neg]
            · rfl
            · rintro ⟨_, _, _, _, read⟩
              contradiction

theorem Bound.tells {name : Text} {events : List Text} (is : Bound name events bound) (frames : List Frame) :
    (Watch.reports (frames.flatMap (Watch.brought bound))).filter Watch.tells =
      (frames.filterMap (announced name events)).map fun (event, data) => note name event data := by
  induction frames with
  | nil => rfl
  | cons frame rest ih =>
    have split : Watch.reports ((frame :: rest).flatMap (Watch.brought bound)) =
        Watch.reports (Watch.brought bound frame) ++ Watch.reports (rest.flatMap (Watch.brought bound)) := by
      rw [List.flatMap_cons, Watch.reports, List.map_append]
      rfl
    rw [split, List.filter_append, is.brought, ih, List.filterMap_cons]
    cases announced name events frame <;> rfl

private theorem tells_of_internal {record : Record} (internal : record.internal = true) : tells record = false := by
  unfold Record.internal at internal
  unfold tells
  split at internal <;> simp_all

private theorem lastWords_tell_nothing (client : Client) (clock : Text) (left : List Callback) :
    (lastWords client clock left).filter tells = [] := by
  unfold lastWords
  cases left <;> rfl

/-- Once everything is over, the program has logged the events that it was asked for, each once and in the order of the
frames that were taken, and its listener has failed where the data of one is an object with members. -/
theorem run_logs_events (channel : Text) (events : List Text) (url : Text) (world : World)
    (accepted : ∀ error, (subscribe channel events url).2 ≠ .done (.error error)) :
    (run channel events url world).client.records.filter tells =
      ((consumed channel events url world).filterMap (announced channel events)).map fun (event, data) =>
        note channel event data := by
  obtain ⟨bound, new, subscribed⟩ := subscribed_of_accepted accepted
  have is := bound_of_new new
  obtain ⟨earlier, made, left, internal, split, _, records⟩ := run_records subscribed world
  have silent : earlier.filter tells = [] :=
    List.filter_eq_nil_iff.mpr fun record member => by simp [tells_of_internal (internal record member)]
  have told : (reports made).filter tells ++ (reports left).filter tells =
      (reports (called channel events url world)).filter tells := by
    rw [← List.filter_append, ← split]
    simp only [reports, List.map_append]
  rw [records]
  simp only [List.filter_append, silent, lastWords_tell_nothing, List.append_nil, List.nil_append]
  rw [told, called_eq subscribed, is.tells]

def priced (data : Json) : Frame :=
  .text (Json.object [("event", .text "price"), ("channel", .text "feed"), ("data", data)]).compact

def quotes : World where
  happenings := World.calm [.frame (priced (.text "41")), .frame (priced (.object [("a", .int 1)]))]
  clock := "noon"

/-- One is logged once, though it was asked for twice, and the listener fails over the other one. -/
theorem run_logs_events_quotes :
    (∀ error, (subscribe "feed" ["price", "price"] "url").2 ≠ .done (.error error)) ∧
      ((run "feed" ["price", "price"] "url" quotes).client.records.filter tells).map (·.message) =
        ["[feed] price: 41", "Listener task failed"] := by
  have accepted : ∀ error, (subscribe "feed" ["price", "price"] "url").2 ≠ .done (.error error) := by
    intro error
    have subscribed : (subscribe "feed" ["price", "price"] "url").2 = .done (.ok (some 0)) := rfl
    rw [subscribed]
    simp
  have logged := run_logs_events "feed" ["price", "price"] "url" quotes accepted
  exact ⟨accepted, (congrArg (List.map (·.message)) logged).trans (by decide +kernel)⟩

/-- An event whose data is an object with members is taken and announced to the channel, but no record begins as its record
would. -/
theorem object_leaves_no_record :
    consumed "feed" ["price"] "url" quotes = [priced (.text "41"), priced (.object [("a", .int 1)])] ∧
      (announced "feed" ["price"] (priced (.object [("a", .int 1)]))).isSome = true ∧
      ((run "feed" ["price"] "url" quotes).client.records.filter fun record =>
        ("[feed] price: " : Text).isPrefixOf record.message).length = 1 := by
  decide +kernel

end Pubsub.Watch
