import Pubsub.Channel.Family
import Pubsub.Channel.Phase
import Pubsub.Json.Document
import Pubsub.Json.Shown
import Pubsub.Text.Utf8

/-! What can go wrong, by cause, and how it is reported: a message, and named details after it. -/

namespace Pubsub

structure Report where
  message : Text
  context : Members

namespace Report

def text (report : Report) : Text :=
  if report.context.isEmpty then report.message
  else
    let details := report.context.map fun (name, value) => name ++ "=" ++ value.plain
    report.message ++ " [" ++ Text.join ", " details ++ "]"

/-- Adds a detail to the context that a caller gave. The first result is the report, the second
the caller's context afterwards: one that is not empty is shared, so the caller sees the detail
too, while an empty one is replaced. -/
def withDetail (message : Text) (context : Option Members) : Option (Text × Text) → Report × Option Members
  | none => (⟨message, context.getD []⟩, context)
  | some (name, value) =>
    let shared := (context.getD []).put name (.text value)
    (⟨message, shared⟩, context.map fun given => if given.isEmpty then given else shared)

end Report

/-- How deep the lists and objects of a document may be nested, in each place where a frame is read: as deep as the
interpreter's stack still has room for them there. -/
structure Room where
  /-- Where the frame arrives. -/
  arrival : Nat := 900
  /-- Where the data of a confirmation is read. -/
  confirmation : Nat := 900
  /-- Where a channel reads the frame again. -/
  delivery : Nat := 900
  /-- Where a channel reads the data of a success. -/
  success : Nat := 900
deriving DecidableEq

/-- What arrives on a socket: text, or bytes that should spell text, and the room that there will be to read it. -/
inductive Frame where
  | text (content : Text) (room : Room := {})
  | bytes (content : List UInt8) (room : Room := {})
deriving DecidableEq

namespace Frame

def room : Frame → Room
  | .text _ room | .bytes _ room => room

def preview : Frame → Text
  | .text content _ => content.quoted.preview
  | .bytes content _ => (Utf8.quoted content).preview

end Frame

/-- The data of a frame: missing, a text, or an object. -/
inductive Payload where
  | absent
  | text (content : Text)
  | object (members : Members)

def Payload.json : Payload → Json
  | .absent => .null
  | .text content => .text content
  | .object members => .object members

def Payload.preview (payload : Payload) : Text := payload.json.shown.preview

/-- Why a frame, or the data in it, cannot be decoded. Each cause keeps what it was found in. -/
inductive Undecodable where
  | bytes (fault : Utf8.Fault) (frame : List UInt8)
  | envelope (refusal : Document.Refusal) (frame : Text)
  | envelopeKind (kind : Text) (frame : Text)
  | field (name kind : Text) (frame : Text)
  | data (refusal : Document.Refusal) (data : Text)
  | dataKind (kind : Text) (data : Text)
  | token (kind : Text) (data : Payload) (channel : Text)

/-- The documents that stop a reader, rather than being refused by it. -/
inductive Limit where
  | digits (count : Nat)
  | depth (container : Document.Container)
deriving DecidableEq

inductive Error where
  | emptyName (family : Family)
  | refusedName (name : Text) (family : Family)
  | restrictedName (name : Text)
  | alreadySubscribed (name : Text)
  | unknownChannel (name : Text)
  | emptyEvent (channel : Text)
  | missingListener (channel : Text)
  | reservedEvent (channel event : Text)
  | bindingEnded (channel : Text)
  | phaseEnded (channel : Text) (phase : Phase)
  | queueClosed
  | executorDown
  | notConnected (url : Text)
  | noTransport
  | undecodable (cause : Undecodable)
  | cannotConnect (reason url : Text)
  | badNumber (setting value : Text)
  | unknownLevel (level : Text)
  | limit (limit : Limit)
  | socketClosed (code : Nat) (reason : Text)
  | system (reason : Text)
  /-- A reader that has waited for itself cannot be waited for. -/
  | barredReader

/-- The kinds of error. The last ones come from below the client: a handler of the client's own
errors does not see them. -/
inductive Error.Kind where
  | invalidArgument
  | illegalState
  | undecodable
  | connection
  | configuration
  | missingTransport
  | badValue
  | depth
  | socketClosed
  | system
  | runtime
deriving DecidableEq

namespace Undecodable

def wrongKind (place expected kind : Text) : Text :=
  "Malformed " ++ place ++ " — " ++ expected ++ ", got " ++ kind

def report : Undecodable → Report
  | .bytes fault frame =>
    ⟨"Frame is not valid UTF-8: " ++ fault.message, [("raw", .text (Frame.bytes frame).preview)]⟩
  | .envelope refusal frame =>
    ⟨"Failed to decode envelope: " ++ refusal.message, [("raw", .text (Frame.text frame).preview)]⟩
  | .envelopeKind kind frame =>
    ⟨wrongKind "envelope" "expected a JSON object" kind, [("raw", .text (Frame.text frame).preview)]⟩
  | .field name kind frame =>
    ⟨wrongKind "envelope" ("'" ++ name ++ "' must be a string") kind, [("raw", .text (Frame.text frame).preview)]⟩
  | .data refusal content =>
    ⟨"Failed to decode event data: " ++ refusal.message, [("raw", .text (Payload.text content).preview)]⟩
  | .dataKind kind content =>
    ⟨wrongKind "event data" "expected a JSON object" kind, [("raw", .text (Payload.text content).preview)]⟩
  | .token kind payload channel =>
    ⟨wrongKind "event data" "'resume_after' must be a string" kind,
      [("channel", .text channel), ("raw", .text payload.preview)]⟩

end Undecodable

namespace Error

def kind : Error → Kind
  | .emptyName _ | .refusedName _ _ | .restrictedName _ | .alreadySubscribed _ | .unknownChannel _
  | .emptyEvent _ | .missingListener _ | .reservedEvent _ _ => .invalidArgument
  | .bindingEnded _ | .phaseEnded _ _ | .queueClosed | .notConnected _ => .illegalState
  | .undecodable _ => .undecodable
  | .cannotConnect _ _ => .connection
  | .badNumber _ _ => .configuration
  | .noTransport => .missingTransport
  | .unknownLevel _ | .limit (.digits _) => .badValue
  | .limit (.depth _) => .depth
  | .socketClosed _ _ => .socketClosed
  | .system _ => .system
  | .executorDown | .barredReader => .runtime

/-- Whether the error is one of the client's own. -/
def own (error : Error) : Bool :=
  match error.kind with
  | .invalidArgument | .illegalState | .undecodable | .connection => true
  | _ => false

def report : Error → Report
  | .emptyName family => ⟨"Cannot subscribe to a channel with an empty name", [("variant", .text family.label)]⟩
  | .refusedName name family =>
    ⟨"Channel name " ++ name ++ " is invalid. Private channel names must start with \"" ++
        Family.personalPrefix ++ "\" and presence channel names must start with \"" ++
        Family.presencePrefix ++ "\"",
      [("variant", .text family.label)]⟩
  | .restrictedName name =>
    ⟨"Channel " ++ name ++ " requires authorization, which this client does not provide", []⟩
  | .alreadySubscribed name => ⟨"Already subscribed to a channel with name " ++ name, []⟩
  | .unknownChannel name => ⟨"Cannot unsubscribe from unknown channel " ++ name, []⟩
  | .emptyEvent channel =>
    ⟨"Cannot bind or unbind to channel " ++ channel ++ " with an empty event name", []⟩
  | .missingListener channel =>
    ⟨"Cannot bind or unbind to channel " ++ channel ++ " with a null listener", []⟩
  | .reservedEvent channel event =>
    ⟨"Cannot bind or unbind channel " ++ channel ++ " with an internal event name such as " ++ event, []⟩
  | .bindingEnded channel =>
    ⟨"Cannot bind or unbind to events on a channel that has been unsubscribed. Subscribe again to get a new channel.",
      [("channel", .text channel)]⟩
  | .phaseEnded channel phase =>
    ⟨"Channel has been unsubscribed and cannot change state",
      [("channel", .text channel), ("requested", .text phase.label)]⟩
  | .queueClosed => ⟨"EventQueue has been shut down", []⟩
  | .executorDown => ⟨"cannot schedule new futures after shutdown", []⟩
  | .notConnected url => ⟨"Cannot send while not connected", [("url", .text url)]⟩
  | .noTransport => ⟨"'NoneType' object has no attribute 'send'", []⟩
  | .undecodable cause => cause.report
  | .cannotConnect reason url => ⟨"Failed to connect: " ++ reason, [("url", .text url)]⟩
  | .badNumber setting value => ⟨"Invalid number for " ++ setting ++ ": " ++ value, []⟩
  | .unknownLevel level => ⟨"Unknown level: " ++ level.quoted, []⟩
  | .limit (.digits count) => ⟨(Document.Refusal.tooManyDigits count).message, []⟩
  | .limit (.depth container) => ⟨(Document.Refusal.tooDeep container).message, []⟩
  | .socketClosed code reason =>
    ⟨"received " ++ Text.ofNat code ++ " (abnormal closure [internal]) " ++ reason ++
      "; no close frame sent", []⟩
  | .system reason => ⟨reason, []⟩
  | .barredReader => ⟨"await wasn't used with future", []⟩

def message (error : Error) : Text := error.report.text

end Error
end Pubsub
