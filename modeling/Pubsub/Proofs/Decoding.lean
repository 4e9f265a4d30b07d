import Pubsub.Channel.Basic
import Pubsub.Proofs.Documents

/-! How decoding fails. A frame is at fault, or it exceeds a limit of the reader of documents; only the
latter is more than one frame's misfortune. -/

namespace Pubsub

inductive Error.Decoding : Error → Prop where
  | fault (cause : Undecodable) : Decoding (.undecodable cause)
  | limit (limit : Limit) : Decoding (.limit limit)

theorem bind_error {α β : Type} {first : Except Error α} {next : α → Except Error β} {error : Error}
    (failed : (first >>= next) = .error error) :
    first = .error error ∨ ∃ value, first = .ok value ∧ next value = .error error := by
  cases first with
  | error other =>
    cases failed
    exact .inl rfl
  | ok value => exact .inr ⟨value, rfl, failed⟩

theorem of_bind_ok {α β : Type} {first : Except Error α} {next : α → Except Error β} {result : β}
    (done : (first >>= next) = .ok result) : ∃ value, first = .ok value ∧ next value = .ok result := by
  cases first with
  | error => contradiction
  | ok value => exact ⟨value, rfl, done⟩

namespace Envelope

variable {depth : Nat}

private theorem document_error {text : Text} {refused : Document.Refusal → Undecodable} {error : Error}
    (failed : document depth text refused = .error error) : error.Decoding := by
  unfold document at failed
  split at failed
  · contradiction
  · cases failed
    exact .limit _
  · cases failed
    exact .limit _
  · cases failed
    exact .fault _

private theorem field_error {members : Members} {name content : Text} {error : Error}
    (failed : field members name content = .error error) : error.Decoding := by
  unfold field at failed
  split at failed
  · contradiction
  · contradiction
  · contradiction
  · cases failed
    exact .fault _

private theorem payload_error {members : Members} {content : Text} {error : Error}
    (failed : payload members content = .error error) : error.Decoding := by
  unfold payload at failed
  split at failed
  · contradiction
  · cases data : field members "data" content with
    | ok => simp [data, Except.map] at failed
    | error other =>
      simp only [data, Except.map, Except.error.injEq] at failed
      exact failed ▸ field_error data

private theorem ofMembers_error {members : Members} {content : Text} {error : Error}
    (failed : ofMembers members content = .error error) : error.Decoding := by
  unfold ofMembers at failed
  rcases bind_error failed with event | ⟨_, _, failed⟩
  · exact field_error event
  rcases bind_error failed with data | ⟨_, _, failed⟩
  · exact payload_error data
  rcases bind_error failed with id | ⟨_, _, failed⟩
  · exact field_error id
  rcases bind_error failed with channel | ⟨_, _, failed⟩
  · exact field_error channel
  · contradiction

theorem ofText_error {content : Text} {error : Error} (failed : ofText depth content = .error error) : error.Decoding := by
  unfold ofText at failed
  rcases bind_error failed with parsed | ⟨value, _, failed⟩
  · exact document_error parsed
  · split at failed
    · exact ofMembers_error failed
    · cases failed
      exact .fault _

theorem ofFrame_error {frame : Frame} {error : Error} (failed : ofFrame depth frame = .error error) : error.Decoding := by
  cases frame with
  | text content room => exact ofText_error failed
  | bytes content room =>
    simp only [ofFrame] at failed
    split at failed
    · exact ofText_error failed
    · cases failed
      exact .fault _

end Envelope

theorem Payload.members_error {payload : Payload} {depth : Nat} {error : Error}
    (failed : payload.members depth = .error error) : error.Decoding := by
  cases payload with
  | absent => contradiction
  | object => contradiction
  | text content =>
    unfold members at failed
    rcases bind_error failed with parsed | ⟨value, _, failed⟩
    · exact Envelope.document_error parsed
    · split at failed
      · contradiction
      · cases failed
        exact .fault _

theorem Channel.tokenOf_error {channel : Channel} {members : Members} {data : Payload} {error : Error}
    (failed : channel.tokenOf members data = .error error) : ∃ cause, error = .undecodable cause := by
  unfold tokenOf at failed
  split at failed
  · contradiction
  · contradiction
  · contradiction
  · cases failed
    exact ⟨_, rfl⟩

def Payload.exceeds (payload : Payload) (depth : Nat) : Bool :=
  match payload.members depth with
  | .error (.limit _) => true
  | _ => false

/-- Whether a frame exceeds a limit where it is decoded: in its envelope, when it arrives or when a channel reads it, or in
the data of an event that concerns the client itself. -/
def Frame.exceeds (frame : Frame) : Bool :=
  match Envelope.ofArrival frame with
  | .error (.limit _) => true
  | .error _ => false
  | .ok envelope =>
    if envelope.event = some Envelope.establishedEvent then envelope.data.exceeds frame.room.confirmation
    else
      (match Envelope.ofDelivery frame with
        | .error (.limit _) => true
        | _ => false) ||
      envelope.event = some Envelope.succeededEvent && envelope.data.exceeds frame.room.success

theorem Payload.undecodable_of_within {payload : Payload} {depth : Nat} {error : Error}
    (failed : payload.members depth = .error error) (within : payload.exceeds depth = false) :
    ∃ cause, error = .undecodable cause := by
  cases members_error failed with
  | fault cause => exact ⟨cause, rfl⟩
  | limit limit => simp [exceeds, failed] at within

theorem Frame.undecodable_of_within {frame : Frame} {error : Error} (failed : Envelope.ofArrival frame = .error error)
    (within : frame.exceeds = false) : ∃ cause, error = .undecodable cause := by
  cases Envelope.ofFrame_error failed with
  | fault cause => exact ⟨cause, rfl⟩
  | limit limit => simp [exceeds, failed] at within

private theorem Envelope.ofText_elsewhere {here there : Nat} {content : Text} {envelope : Envelope}
    (decoded : ofText here content = .ok envelope) :
    ofText there content = .ok envelope ∨ ∃ limit, ofText there content = .error (.limit limit) := by
  unfold ofText at decoded ⊢
  obtain ⟨value, read, rest⟩ := of_bind_ok decoded
  have parsed : Document.parse here content = .ok value := by
    unfold document at read
    split at read
    next parsed => exact parsed.trans (congrArg Except.ok (Except.ok.inj read))
    all_goals contradiction
  rcases (Document.parse_elsewhere parsed : Document.parse there content = _ ∨ _) with
    again | ⟨count, failed⟩ | ⟨container, failed⟩
  · simp only [document, again]
    exact .inl rest
  · simp only [document, failed]
    exact .inr ⟨.digits count, rfl⟩
  · simp only [document, failed]
    exact .inr ⟨.depth container, rfl⟩

/-- A channel reads the envelope that was read on arrival, unless there is no room for that. -/
theorem Envelope.ofDelivery_of_ofArrival {frame : Frame} {envelope : Envelope} (decoded : ofArrival frame = .ok envelope) :
    ofDelivery frame = .ok envelope ∨ ∃ limit, ofDelivery frame = .error (.limit limit) := by
  cases frame with
  | text content room => exact ofText_elsewhere decoded
  | bytes content room =>
    simp only [ofArrival, ofDelivery, ofFrame] at decoded ⊢
    split at decoded
    · exact ofText_elsewhere decoded
    · contradiction

theorem Frame.delivery_within {frame : Frame} {envelope : Envelope} (within : frame.exceeds = false)
    (decoded : Envelope.ofArrival frame = .ok envelope) (other : envelope.event ≠ some Envelope.establishedEvent) :
    Envelope.ofDelivery frame = .ok envelope := by
  rcases Envelope.ofDelivery_of_ofArrival decoded with again | ⟨limit, failed⟩
  · exact again
  · simp [exceeds, decoded, failed, other] at within

theorem Frame.confirmation_within {frame : Frame} {envelope : Envelope} (within : frame.exceeds = false)
    (decoded : Envelope.ofArrival frame = .ok envelope) (confirms : envelope.event = some Envelope.establishedEvent) :
    envelope.data.exceeds frame.room.confirmation = false := by
  simpa [exceeds, decoded, confirms] using within

private theorem Frame.success_within {frame : Frame} {envelope : Envelope} (within : frame.exceeds = false)
    (decoded : Envelope.ofArrival frame = .ok envelope) (succeeds : envelope.event = some Envelope.succeededEvent) :
    envelope.data.exceeds frame.room.success = false := by
  have other : Envelope.succeededEvent ≠ Envelope.establishedEvent := by decide
  simp only [exceeds, decoded, succeeds, Option.some.injEq, other, if_false, Bool.or_eq_false_iff, decide_true,
    Bool.true_and] at within
  exact within.2

private theorem Channel.succeed_error {channel : Channel} {data : Payload} {depth : Nat} {error : Error}
    (live : channel.phase ≠ .ended) (within : data.exceeds depth = false) (failed : channel.succeed depth data = .error error) :
    ∃ cause, error = .undecodable cause := by
  unfold succeed at failed
  rcases bind_error failed with malformed | ⟨members, _, failed⟩
  · exact Payload.undecodable_of_within malformed within
  rcases bind_error failed with wrong | ⟨token, _, failed⟩
  · exact tokenOf_error wrong
  · have free : ¬(channel.phase = .ended ∧ Phase.subscribed ≠ .ended) := fun refused => live refused.1
    simp only [moveTo, if_neg free] at failed
    contradiction

/-- A frame within the limits is refused for a fault of its own, if at all. -/
theorem Channel.receive_error {channel : Channel} {event : Text} {frame : Frame} {envelope : Envelope} {error : Error}
    (within : frame.exceeds = false) (decoded : Envelope.ofArrival frame = .ok envelope)
    (other : envelope.event ≠ some Envelope.establishedEvent) (named : envelope.event = some event)
    (failed : channel.receive event frame = .error error) : ∃ cause, error = .undecodable cause := by
  have again := Frame.delivery_within within decoded other
  unfold receive at failed
  split at failed
  · contradiction
  next live =>
    simp only [again, Bind.bind, Except.bind] at failed
    split at failed
    next success =>
      subst success
      exact succeed_error live (Frame.success_within within decoded named) failed
    · contradiction

end Pubsub
