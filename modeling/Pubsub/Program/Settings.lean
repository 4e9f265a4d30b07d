import Pubsub.Decimal.Reader
import Pubsub.Error
import Pubsub.Text.Uppercase

/-! The settings of the program, as its environment gives them. A number that is missing or empty takes its
default; a text only where it is missing. -/

namespace Pubsub

abbrev Environment := List (Text × Text)

structure Settings where
  url : Text
  pingInterval : Binary64
  pingTimeout : Binary64
  closeTimeout : Binary64
  threadPrefix : Text
  shutdownTimeout : Binary64
  level : Text

namespace Settings

def variableName (name : Text) : Text := "CHANNEL_FEED_" ++ name

def text (environment : Environment) (name : Text) (default : Text) : Text :=
  (environment.lookup (variableName name)).getD default

def number (environment : Environment) (name : Text) (default : Nat) : Except Error Binary64 :=
  match environment.lookup (variableName name) with
  | none | some [] => .ok (.ofDecimal false default 0)
  | some value =>
    match Binary64.ofText? value with
    | some number => .ok number
    | none => .error (.badNumber (variableName name) value)

/-- The first number that cannot be read is reported. -/
def load (environment : Environment) : Except Error Settings := do
  let pingInterval ← number environment "PING_INTERVAL" 20
  let pingTimeout ← number environment "PING_TIMEOUT" 10
  let closeTimeout ← number environment "CLOSE_TIMEOUT" 5
  let shutdownTimeout ← number environment "SHUTDOWN_TIMEOUT" 5
  pure {
    url := text environment "WS_URL" ""
    pingInterval, pingTimeout, closeTimeout, shutdownTimeout
    threadPrefix := text environment "THREAD_PREFIX" "channel-feed-events"
    level := (text environment "LOG_LEVEL" "INFO").upper }

def levels : List (Text × Nat) := [
  ("NOTSET", 0), ("DEBUG", 10), ("INFO", 20), ("WARN", 30), ("WARNING", 30), ("ERROR", 40),
  ("CRITICAL", 50), ("FATAL", 50)]

/-- The least weight of the records that are shown. -/
def threshold (settings : Settings) : Except Error Nat :=
  match levels.lookup settings.level with
  | some weight => .ok weight
  | none => .error (.unknownLevel settings.level)

end Settings
end Pubsub
