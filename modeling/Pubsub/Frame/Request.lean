import Pubsub.Json.Compact

/-! The frames a client sends of its own: requests to subscribe a channel or to end it. -/

namespace Pubsub

inductive Request where
  | subscribe (channel : Text) (resumeAfter : Option Text)
  | unsubscribe (channel : Text)
deriving DecidableEq

namespace Request

def subscribeEvent : Text := "pusher:subscribe"

def unsubscribeEvent : Text := "pusher:unsubscribe"

def event : Request → Text
  | .subscribe _ _ => subscribeEvent
  | .unsubscribe _ => unsubscribeEvent

/-- A token is a member only where there is one; the empty token counts. -/
def data : Request → Members
  | .subscribe channel none => [("channel", .text channel)]
  | .subscribe channel (some token) => [("channel", .text channel), ("resume_after", .text token)]
  | .unsubscribe channel => [("channel", .text channel)]

def json (request : Request) : Json :=
  .object [("event", .text request.event), ("data", .object request.data)]

def encode (request : Request) : Text := request.json.compact

end Request
end Pubsub
