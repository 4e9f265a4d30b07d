import Pubsub.Text.Blank
import Pubsub.Text.Quoted

/-! The arguments of the program: a channel, the events to bind, and where to connect. Options may stand
before or after the names, and their long forms may be cut short, but all names stand together. -/

namespace Pubsub

inductive Misuse where
  | ambiguous (argument : Text) (candidates : List Text)
  | needless (value : Text)
  | missingUrl
  | missingNames
  | unrecognized (arguments : List Text)
  | noUrl
deriving DecidableEq

structure Arguments where
  channel : Text
  events : List Text
  url : Text
deriving DecidableEq

inductive Command where
  | help
  | watch (arguments : Arguments)

namespace Arguments

inductive Flag where
  | help
  | url
deriving DecidableEq

inductive Shape where
  | name
  /-- Two dashes alone: whatever follows is a name. -/
  | separator
  /-- An option, in its short or long form, with the value that is attached to it. -/
  | flag (flag : Flag) (short : Bool) (value : Option Text)
  | unknown
deriving DecidableEq

/-- Parts a text at its first equals sign. -/
def atEquals (argument : Text) : Text × Option Text :=
  match argument.dropWhile (· != .char '=') with
  | [] => (argument, none)
  | _ :: value => (argument.takeWhile (· != .char '='), some value)

def longForms : List (Text × Flag) := [("--help", .help), ("--url", .url)]

/-- A number below zero is a name, though it starts with a dash. One line break after it is forgiven. -/
def isNegativeNumber : Text → Bool
  | .char '-' :: rest =>
    let isDigit (point : CodePoint) : Bool := point.digit?.isSome
    let digits := if rest.getLast? = some (.char '\n') then rest.dropLast else rest
    match digits.dropWhile isDigit with
    | [] => !digits.isEmpty
    | .char '.' :: fraction => !fraction.isEmpty && fraction.all isDigit
    | _ => false
  | _ => false

/-- What starts with a dash and is no option: a name, if it is a number or holds a blank. -/
def shapeOfOther (argument : Text) : Shape :=
  if isNegativeNumber argument ∨ .char ' ' ∈ argument then .name else .unknown

/-- An argument with two dashes, or the beginning of one. -/
def shapeOfLong (argument : Text) : Except Misuse Shape :=
  let (form, value) := atEquals argument
  match longForms.filter (fun (long, _) => form = long), longForms.filter (fun (long, _) => form.isPrefixOf long) with
  | [(_, flag)], _ | [], [(_, flag)] => .ok (.flag flag false value)
  | _, [] => .ok (shapeOfOther argument)
  | _, several => .error (.ambiguous argument (several.map (·.1)))

def shape : Text → Except Misuse Shape
  | [.char '-', .char '-'] => .ok .separator
  | .char '-' :: .char '-' :: rest => shapeOfLong (.char '-' :: .char '-' :: rest)
  | [.char '-', .char 'h'] => .ok (.flag .help true none)
  | .char '-' :: .char 'h' :: value => .ok (.flag .help true (some value))
  | .char '-' :: point :: rest => .ok (shapeOfOther (.char '-' :: point :: rest))
  | _ => .ok .name

/-- The shapes of arguments; behind a separator all are names. -/
def shapes : List Text → Except Misuse (List (Text × Shape))
  | [] => .ok []
  | argument :: rest => do
    match ← shape argument with
    | .separator => pure ((argument, .separator) :: rest.map fun name => (name, .name))
    | found => pure ((argument, found) :: (← shapes rest))

structure Draft where
  names : Option (Text × List Text) := none
  url : Option Text := none
  /-- Whether the value of the option is still to come. -/
  wanting : Bool := false
  unrecognized : List Text := []
  /-- Names, and perhaps a separator, that stand together. -/
  block : List (Text × Shape) := []

/-- A channel and its events. One more separator among the events is dropped. -/
def namesOf (block : List (Text × Shape)) : Option (Text × List Text) :=
  let events (rest : List (Text × Shape)) : List Text := (rest.map (·.1)).erase "--"
  match block with
  | (_, .separator) :: (channel, _) :: rest => some (channel, events rest)
  | (channel, .name) :: (_, .separator) :: rest => some (channel, events rest)
  | (channel, .name) :: rest => some (channel, events rest)
  | _ => none

/-- A block has ended: the first one holds the names, any other nothing of use. -/
def Draft.endBlock (draft : Draft) : Draft :=
  let unused := { draft with
    block := [], unrecognized := draft.unrecognized ++ draft.block.map (·.1) }
  match draft.names with
  | some _ => unused
  | none =>
    match namesOf draft.block with
    | some names => { draft with block := [], names := some names }
    | none => unused

/-- Help takes no value. Letters may follow its short form, as if they were options of their own. -/
def helpMisuse? (short : Bool) (value : Text) : Option Misuse :=
  if short then
    match value.dropWhile (· == .char 'h') with
    | .char '=' :: value => some (.needless value)
    | .char '-' :: rest => some (.needless (.char '-' :: rest))
    | _ => none
  else some (.needless value)

/-- The two ways in which reading stops before the end. -/
inductive Stop where
  | help
  | misuse (misuse : Misuse)

def Draft.take (draft : Draft) (argument : Text) : Shape → Except Stop Draft
  | .name =>
    if draft.wanting then .ok { draft with url := some argument, wanting := false }
    else .ok { draft with block := draft.block ++ [(argument, .name)] }
  | found =>
    if draft.wanting then .error (.misuse .missingUrl)
    else
      match found with
      | .flag .url _ none => .ok { draft.endBlock with wanting := true }
      | .flag .url _ (some value) => .ok { draft.endBlock with url := some value }
      | .flag .help _ none => .error .help
      | .flag .help short (some value) => .error ((helpMisuse? short value).elim .help .misuse)
      | .unknown =>
        let ended := draft.endBlock
        .ok { ended with unrecognized := ended.unrecognized ++ [argument] }
      | _ => .ok { draft with block := draft.block ++ [(argument, found)] }

def Draft.takeAll (draft : Draft) : List (Text × Shape) → Except Stop Draft
  | [] => if draft.wanting then .error (.misuse .missingUrl) else .ok draft.endBlock
  | (argument, shape) :: rest => do (← draft.take argument shape).takeAll rest

/-- Reads all arguments. Without a URL among them, the default is taken, if there is one. -/
def read (defaultUrl : Text) (arguments : List Text) : Except Misuse Command := do
  let found ← shapes arguments
  match Draft.takeAll {} found with
  | .error .help => pure .help
  | .error (.misuse misuse) => throw misuse
  | .ok draft =>
    match draft.names with
    | none => throw .missingNames
    | some (channel, events) =>
      if !draft.unrecognized.isEmpty then throw (.unrecognized draft.unrecognized)
      let url := draft.url.getD defaultUrl
      if url.isEmpty then throw .noUrl
      pure (.watch { channel, events, url })

end Arguments

namespace Misuse

def message : Misuse → Text
  | .ambiguous argument candidates =>
    "ambiguous option: " ++ argument ++ " could match " ++ Text.join ", " candidates
  | .needless value => "argument -h/--help: ignored explicit argument " ++ value.quoted
  | .missingUrl => "argument --url: expected one argument"
  | .missingNames => "the following arguments are required: channel, events"
  | .unrecognized arguments => "unrecognized arguments: " ++ Text.join " " arguments
  | .noUrl => "no WebSocket URL: pass --url or set CHANNEL_FEED_WS_URL"

end Misuse

namespace Arguments

def usage : Text := "usage: channel-feed [-h] [--url URL] channel [events ...]\n"

/-- What is told about misuse, and the status to leave with. -/
def complaint (misuse : Misuse) : Text := usage ++ "channel-feed: error: " ++ misuse.message ++ "\n"

def misuseStatus : Nat := 2

def help : Text :=
  usage ++
  "\nSubscribe to a channel and log its events\n" ++
  "\npositional arguments:\n" ++
  "  channel     Channel name\n" ++
  "  events      Event names to bind\n" ++
  "\noptions:\n" ++
  "  -h, --help  show this help message and exit\n" ++
  "  --url URL   WebSocket URL (default: CHANNEL_FEED_WS_URL)\n"

end Arguments
end Pubsub
