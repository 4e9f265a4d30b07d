import Pubsub.Json.Basic

/-! Log records, with the details that go with a message. -/

namespace Pubsub

inductive Level where
  | debug
  | info
  | warning
  | error
deriving DecidableEq

def Level.label : Level → Text
  | .debug => "DEBUG"
  | .info => "INFO"
  | .warning => "WARNING"
  | .error => "ERROR"

def Level.weight : Level → Nat
  | .debug => 10
  | .info => 20
  | .warning => 30
  | .error => 40

/-- The parts of the client that keep a log. -/
inductive Source where
  | channel
  | manager
  | connection
  | dispatcher
  | program
deriving DecidableEq

def Source.label : Source → Text
  | .channel => "channel_feed.channel"
  | .manager => "channel_feed.manager"
  | .connection => "channel_feed.connection"
  | .dispatcher => "channel_feed.dispatcher"
  | .program => "channel_feed"

structure Record where
  source : Source
  level : Level
  message : Text
  details : Members := []

end Pubsub
