import Pubsub.Client.Basic

/-! What a client tells about its connection. -/

namespace Pubsub

structure Statistics where
  connected : Bool
  name : Json
  received : Nat
  channels : List Text

def Client.statistics (client : Client) : Statistics where
  connected := client.isConnected
  name := client.connection.name
  received := client.connection.received
  channels := client.listing.map client.nameOf

/-- The clock tells when the last frame arrived; where none did, no time is told. -/
def Statistics.json (statistics : Statistics) (clock : Text) : Json :=
  .object [
    ("connected", .bool statistics.connected),
    ("socket_id", statistics.name),
    ("messages_received", .int statistics.received),
    ("last_message_time", if statistics.received = 0 then .null else .text clock),
    ("channels", .list (statistics.channels.map .text))]

end Pubsub
