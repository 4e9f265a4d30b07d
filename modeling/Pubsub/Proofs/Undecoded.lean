import Pubsub.Proofs.Journal

/-! Frames that a channel cannot decode. What has to be decoded is decoded before anything is written, so such a frame
leaves the client as it was, and all that it leaves on the way to a channel is a report. -/

namespace Pubsub

/-- The data of a success that a channel cannot take: it is no object, or the token in it is no text. -/
inductive Payload.Unfit (payload : Payload) (depth : Nat) : Prop where
  | undecoded {error : Error} (failed : payload.members depth = .error error)
  | token {members : Members} {value : Json} (decoded : payload.members depth = .ok members)
      (carried : members.get? "resume_after" = some value) (null : value ≠ .null) (text : ∀ token, value ≠ .text token)

/-- Whether a channel cannot decode a frame that comes to it under the name of an event. -/
inductive Channel.Misreads (channel : Channel) (event : Text) (frame : Frame) : Prop where
  | envelope (live : channel.phase ≠ .ended) {error : Error} (failed : Envelope.ofDelivery frame = .error error)
  | success (live : channel.phase ≠ .ended) {envelope : Envelope} (decoded : Envelope.ofDelivery frame = .ok envelope)
      (success : event = Envelope.succeededEvent) (unfit : envelope.data.Unfit frame.room.success)

private theorem Error.Decoding.ne_queueClosed {error : Error} (decoding : error.Decoding) : error ≠ .queueClosed := by
  rintro rfl
  cases decoding

namespace Channel
variable {channel : Channel}

private theorem tokenOf_error_iff (channel : Channel) (members : Members) (data : Payload) :
    (∃ error, channel.tokenOf members data = .error error) ↔
      ∃ value, members.get? "resume_after" = some value ∧ value ≠ .null ∧ ∀ token, value ≠ .text token := by
  unfold tokenOf
  cases members.get? "resume_after" with
  | none => simp
  | some value => cases value <;> simp

private theorem succeed_refused (live : channel.phase ≠ .ended) {depth : Nat} {data : Payload} {error : Error}
    (failed : channel.succeed depth data = .error error) : data.Unfit depth ∧ error.Decoding := by
  unfold succeed at failed
  rcases bind_error failed with undecoded | ⟨members, decoded, failed⟩
  · exact ⟨.undecoded undecoded, Payload.members_error undecoded⟩
  rcases bind_error failed with refused | ⟨token, _, failed⟩
  · obtain ⟨value, carried, null, text⟩ := (tokenOf_error_iff channel members data).mp ⟨error, refused⟩
    obtain ⟨cause, rfl⟩ := tokenOf_error refused
    exact ⟨.token decoded carried null text, .fault cause⟩
  · -- a channel that has not ended may succeed
    have free : ¬(channel.phase = .ended ∧ Phase.subscribed ≠ .ended) := fun refused => live refused.1
    simp only [moveTo, if_neg free] at failed
    contradiction

private theorem succeed_of_unfit (channel : Channel) {depth : Nat} {data : Payload} (unfit : data.Unfit depth) :
    ∃ error, channel.succeed depth data = .error error := by
  cases unfit with
  | @undecoded error failed => exact ⟨error, by simp only [succeed, failed, Bind.bind, Except.bind]⟩
  | @token members value decoded carried null text =>
    obtain ⟨error, refused⟩ := (tokenOf_error_iff channel members data).mpr ⟨value, carried, null, text⟩
    exact ⟨error, by simp only [succeed, decoded, refused, Bind.bind, Except.bind]⟩

/-- Nothing but decoding makes a channel refuse a frame. -/
theorem receive_refused {event : Text} {frame : Frame} {error : Error} (failed : channel.receive event frame = .error error) :
    channel.Misreads event frame ∧ error.Decoding := by
  unfold receive at failed
  split at failed
  · contradiction
  next live =>
    rcases bind_error failed with undecoded | ⟨envelope, decoded, failed⟩
    · exact ⟨.envelope live undecoded, Envelope.ofFrame_error undecoded⟩
    · split at failed
      next success =>
        obtain ⟨unfit, decoding⟩ := succeed_refused live failed
        exact ⟨.success live decoded success unfit, decoding⟩
      · contradiction

private theorem receive_of_misreads {event : Text} {frame : Frame} (misreads : channel.Misreads event frame) :
    ∃ error, channel.receive event frame = .error error := by
  cases misreads with
  | @envelope live error failed => exact ⟨error, by simp only [receive, if_neg live, failed, Bind.bind, Except.bind]⟩
  | success live decoded success unfit =>
    obtain ⟨error, failed⟩ := succeed_of_unfit channel unfit
    exact ⟨error, by simp only [receive, if_neg live, decoded, if_pos success, failed, Bind.bind, Except.bind]⟩

end Channel

namespace Client
variable {client : Client}

private theorem receive_decoding_iff {id : ChannelId} {event : Text} {frame : Frame} :
    (∃ error, (client.receive id event frame).2 = .error error ∧ error.Decoding) ↔
      ∃ channel, client.channels[id]? = some channel ∧ channel.Misreads event frame := by
  constructor
  · rintro ⟨error, failed, decoding⟩
    obtain ⟨⟨channel, found, refused⟩, _⟩ := receive_failed failed decoding.ne_queueClosed
    exact ⟨channel, found, (Channel.receive_refused refused).1⟩
  · rintro ⟨channel, found, misreads⟩
    obtain ⟨error, refused⟩ := Channel.receive_of_misreads misreads
    exact ⟨error, by simp only [receive, found, refused], (Channel.receive_refused refused).2⟩

private theorem deliver_decoding_iff {name event : Text} {frame : Frame} :
    (∃ error, (client.deliver name event frame).2 = .error error ∧ error.Decoding) ↔
      ∃ id channel, client.lookup name = some id ∧ client.channels[id]? = some channel ∧ channel.Misreads event frame := by
  cases known : client.lookup name with
  | none => simp [deliver, known]
  | some id =>
    simp only [deliver_of_lookup known, receive_decoding_iff, Option.some.injEq, exists_and_left, exists_eq_left']

private theorem deliver_undecoded {name event : Text} {frame : Frame} {error : Error}
    (failed : (client.deliver name event frame).2 = .error error) (decoding : error.Decoding) :
    (client.deliver name event frame).1 = client := by
  cases known : client.lookup name with
  | none => simp [deliver, known] at failed
  | some id =>
    rw [deliver_of_lookup known] at failed ⊢
    rw [(receive_failed failed decoding.ne_queueClosed).2]

/-- A frame that a channel cannot decode, offered to it by its number or by its name, leaves the whole client as it was. -/
structure Untouched (client : Client) (event : Text) (frame : Frame) : Prop where
  fails (id : ChannelId) : (∃ error, (client.receive id event frame).2 = .error error ∧ error.Decoding) ↔
    ∃ channel, client.channels[id]? = some channel ∧ channel.Misreads event frame
  keeps (id : ChannelId) (error : Error) (failed : (client.receive id event frame).2 = .error error)
    (decoding : error.Decoding) : (client.receive id event frame).1 = client
  fails_by_name (name : Text) : (∃ error, (client.deliver name event frame).2 = .error error ∧ error.Decoding) ↔
    ∃ id channel, client.lookup name = some id ∧ client.channels[id]? = some channel ∧ channel.Misreads event frame
  keeps_by_name (name : Text) (error : Error) (failed : (client.deliver name event frame).2 = .error error)
    (decoding : error.Decoding) : (client.deliver name event frame).1 = client

theorem untouched (client : Client) (event : Text) (frame : Frame) : client.Untouched event frame where
  fails _ := receive_decoding_iff
  keeps _ _ failed decoding := by rw [(receive_failed failed decoding.ne_queueClosed).2]
  fails_by_name _ := deliver_decoding_iff
  keeps_by_name _ _ failed decoding := deliver_undecoded failed decoding

/-- A reader takes the success of a registered channel, with data that the channel cannot take. -/
structure Confounds (client : Client) (reader : ReaderId) (frame : Frame) (envelope : Envelope) (channel : Channel) : Prop where
  next : client.next reader = some (.frame frame)
  decoded : Envelope.ofArrival frame = .ok envelope
  success : envelope.event = some Envelope.succeededEvent
  found : (envelope.channel.bind client.lookup).bind (client.channels[·]?) = some channel
  live : channel.phase ≠ .ended
  unfit : envelope.data.Unfit frame.room.success

/-- The envelope of a frame that comes to a channel has been decoded before, so only the data of a success can be at fault: with
too little room to decode the envelope again, the reader would have failed. -/
theorem Drops.confounds {reader : ReaderId} {frame : Frame} {envelope : Envelope} {name event : Text} {channel : Channel}
    {cause : Undecodable} (drops : client.Drops frame envelope name event channel cause)
    (next : client.next reader = some (.frame frame)) : client.Confounds reader frame envelope channel := by
  obtain again | ⟨limit, failed⟩ := Envelope.ofDelivery_of_ofArrival drops.decoded
  · cases (Channel.receive_refused drops.refused).1 with
    | envelope live failed =>
      rw [failed] at again
      contradiction
    | success live decoded success unfit =>
      obtain rfl := Except.ok.inj (decoded.symm.trans again)
      refine ⟨next, drops.decoded, success ▸ drops.called, ?_, live, unfit⟩
      rw [drops.named]
      exact drops.found
  · have refused := drops.refused
    simp only [Channel.receive, failed, Bind.bind, Except.bind] at refused
    split at refused
    · contradiction
    · cases refused

/-- A report that a channel could not decode a frame. -/
def Reporting (record : Record) : Prop := record.source = .connection ∧ record.message = Record.dropping

private theorem Writes.unreported {after : Client} (writes : Writes client after) : ∃ added,
    after.records = client.records ++ added ∧ ∀ record ∈ added, ¬Reporting record := by
  obtain ⟨added, grown, routine⟩ := writes
  exact ⟨added, grown, fun record member reporting => (routine record member).other reporting.1 reporting.2⟩

private theorem step_reports (client : Client) (event : Event) :
    ∃ added, (client.step event).records = client.records ++ added ∧
    ∀ record ∈ added, Reporting record → ∃ reader frame envelope channel, event = .turn reader ∧
      client.Confounds reader frame envelope channel := by
  by_cases failure : event = .failure
  · subst failure
    refine ⟨[⟨.dispatcher, .error, "Listener task failed", []⟩], rfl, fun record member reporting => ?_⟩
    rw [List.mem_singleton.mp member] at reporting
    exact absurd reporting.1 (by decide)
  · obtain usual | ⟨reader, frame, envelope, name, called, channel, cause, turning, next, drops, reported⟩ :=
      step_writes client failure
    · obtain ⟨added, grown, unreported⟩ := usual.unreported
      exact ⟨added, grown, fun record member reporting => absurd reporting (unreported record member)⟩
    · exact ⟨_, reported, fun _ _ _ => ⟨reader, frame, envelope, channel, turning, drops.confounds next⟩⟩

/-- A frame that cannot be decoded leaves no trace: a channel, whatever its state, refuses it exactly if it has not ended and the
frame, or the data of a success in it, does not decode, and then nothing at all is changed. What a client reports as a malformed
frame of a channel, in any event, is the success that a reader takes. -/
theorem undecoded_frames_leave_no_trace (client : Client) :
    (∀ event frame, client.Untouched event frame) ∧
      ∀ event : Event, ∃ added, (client.step event).records = client.records ++ added ∧
        ∀ record ∈ added, Reporting record → ∃ reader frame envelope channel, event = .turn reader ∧
          client.Confounds reader frame envelope channel :=
  ⟨client.untouched, client.step_reports⟩

end Client
end Pubsub
