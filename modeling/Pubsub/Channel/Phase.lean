import Pubsub.Text.Basic

/-! The phases of a subscription. The last one is never left. -/

namespace Pubsub

inductive Phase where
  | initial
  | requested
  | subscribed
  | ended
deriving DecidableEq

def Phase.label : Phase → Text
  | .initial => "initial"
  | .requested => "subscribe_sent"
  | .subscribed => "subscribed"
  | .ended => "unsubscribed"

end Pubsub
