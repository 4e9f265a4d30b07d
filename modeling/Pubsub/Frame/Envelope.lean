import Pubsub.Error

/-! The envelope of an arriving frame, and the data of a control event. A document past one of the
reader's limits stops the reader; every other fault in a frame is a cause of `Undecodable`. -/

namespace Pubsub

structure Envelope where
  event : Option Text
  data : Payload
  id : Option Text
  channel : Option Text

namespace Envelope

def establishedEvent : Text := "pusher:connection_established"

def errorEvent : Text := "pusher:error"

def reservedPrefix : Text := "pusher_internal:"

def succeededEvent : Text := "pusher_internal:subscription_succeeded"

/-- Reads a document; `refused` is the cause when it is none. -/
def document (depth : Nat) (text : Text) (refused : Document.Refusal → Undecodable) : Except Error Json :=
  match Document.parse depth text with
  | .ok found => .ok found
  | .error (.tooManyDigits count) => .error (.limit (.digits count))
  | .error (.tooDeep container) => .error (.limit (.depth container))
  | .error refusal => .error (.undecodable (refused refusal))

/-- A member that is missing, null or a text. -/
def field (members : Members) (name content : Text) : Except Error (Option Text) :=
  match members.get? name with
  | none | some .null => .ok none
  | some (.text value) => .ok (some value)
  | some value => .error (.undecodable (.field name value.kindName content))

/-- The data may be an object as well. -/
def payload (members : Members) (content : Text) : Except Error Payload :=
  match members.get? "data" with
  | some (.object inner) => .ok (.object inner)
  | _ => (field members "data" content).map fun
    | none => .absent
    | some value => .text value

def ofMembers (members : Members) (content : Text) : Except Error Envelope := do
  let event ← field members "event" content
  let data ← payload members content
  let id ← field members "id" content
  let channel ← field members "channel" content
  pure { event, data, id, channel }

def ofText (depth : Nat) (content : Text) : Except Error Envelope := do
  match ← document depth content (.envelope · content) with
  | .object members => ofMembers members content
  | value => .error (.undecodable (.envelopeKind value.kindName content))

/-- Bytes are decoded first; from then on they are treated as their text. -/
def ofFrame (depth : Nat) : Frame → Except Error Envelope
  | .text content _ => ofText depth content
  | .bytes content _ =>
    match Utf8.decode content with
    | .ok content => ofText depth content
    | .error fault => .error (.undecodable (.bytes fault content))

/-- The envelope of a frame as it is read where the frame arrives. -/
def ofArrival (frame : Frame) : Except Error Envelope := ofFrame frame.room.arrival frame

/-- The envelope of a frame as a channel reads it. -/
def ofDelivery (frame : Frame) : Except Error Envelope := ofFrame frame.room.delivery frame

end Envelope

/-- The members of a control event's data, which is an object or the text of one. Missing data
counts as an empty object. -/
def Payload.members (depth : Nat) : Payload → Except Error Members
  | .absent => .ok []
  | .object members => .ok members
  | .text content => do
    match ← Envelope.document depth content (.data · content) with
    | .object members => .ok members
    | value => .error (.undecodable (.dataKind value.kindName content))

end Pubsub
