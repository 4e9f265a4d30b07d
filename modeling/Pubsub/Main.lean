import Pubsub.Program.Arguments
import Pubsub.Program.Settings
import Pubsub.Program.Watch

/-! The command line. Frames arrive on standard input, one a line, and the frames to send go to
standard output, so that any socket can be put between; the log goes to standard error. -/

namespace Pubsub.Main

/-- A half of a pair on its own cannot be written. -/
def display (text : Text) : String :=
  String.ofList (text.map fun point => point.char?.getD '\ufffd')

def variableNames : List String := [
  "WS_URL", "PING_INTERVAL", "PING_TIMEOUT", "CLOSE_TIMEOUT", "THREAD_PREFIX", "SHUTDOWN_TIMEOUT",
  "LOG_LEVEL"]

def environment : IO Environment :=
  variableNames.filterMapM fun name => do
    let name := "CHANNEL_FEED_" ++ name
    return (← IO.getEnv name).map fun value => ((name : Text), (value : Text))

/-- Shows what has come to the log and to the peer since an earlier state. -/
def present (threshold : Nat) (earlier client : Client) : IO Unit := do
  for record in client.records.drop earlier.records.length do
    if threshold ≤ record.level.weight then
      IO.eprintln (display (record.source.label ++ " - " ++ record.level.label ++ " - " ++ record.message))
  for sent in client.sent.drop earlier.sent.length do
    IO.println (display sent.content.text)
  (← IO.getStdout).flush

def goOn (threshold : Nat) (client : Client) (happenings : List Happening) : IO Client := do
  let later := happenings.foldl Watch.meet client
  let later := Watch.make { later with waiting := [] } later.waiting
  present threshold client later
  return later

partial def readFrames (threshold : Nat) (client : Client) : IO Client := do
  let line ← (← IO.getStdin).getLine
  if line.isEmpty then return client
  let arrival := Arrival.frame (.text (line.trimAsciiEnd.toString : Text))
  readFrames threshold (← goOn threshold client [.arrival arrival, .turn, .sent (.ok ())])

def watch (threshold : Nat) (arguments : Arguments) : IO UInt32 := do
  match Watch.subscribe arguments.channel arguments.events arguments.url with
  | (_, .done (.error error)) =>
    IO.eprintln (display error.message)
    return 1
  | (client, _) =>
    present threshold { client with records := [] } client
    let (opened, _) := Watch.connect client none
    present threshold client opened
    let client ← readFrames threshold (← goOn threshold opened [.turn])
    let report := Watch.leave client { clock := "now" } none
    present threshold client report.client
    match report.error with
    | some error =>
      IO.eprintln (display error.message)
      return 1
    | none => return 0

def run (arguments : List Text) : IO UInt32 := do
  let settings := Settings.load (← environment)
  match settings.bind fun settings => settings.threshold.map (settings, ·) with
  | .error error =>
    IO.eprintln (display error.message)
    return 1
  | .ok (settings, threshold) =>
    match Arguments.read settings.url arguments with
    | .ok .help =>
      IO.print (display Arguments.help)
      return 0
    | .error misuse =>
      IO.eprint (display (Arguments.complaint misuse))
      return Arguments.misuseStatus.toUInt32
    | .ok (.watch arguments) => watch threshold arguments

end Pubsub.Main

def main (arguments : List String) : IO UInt32 :=
  Pubsub.Main.run (arguments.map Pubsub.Text.ofString)
