import Mathlib.Data.Finset.Dedup
import Pubsub.Proofs.Orderly

/-! A client and its server agree on what is registered. The server is asked for every registered channel once the
connection is established, by one call or another, and told the end of a channel that it was asked for. -/

namespace Pubsub

def Stage.resubscribes : Stage → Bool
  | .resubscribing _ _ _ => true
  | _ => false

namespace Client

/-- Where no call requests channels in turn, the names that are served are those of the registered channels. -/
theorem Agrees.served {client : Client} {socket : SocketId} (agrees : client.Agrees socket [])
    (settled : ∀ entry ∈ client.calls, entry.2.stage.resubscribes = false) :
    client.servedBy socket = (client.registered.map client.nameOf).toFinset := by
  ext name
  rw [List.mem_toFinset, List.mem_map]
  constructor
  · intro given
    obtain ⟨id, member, named⟩ := agrees.names name given
    exact ⟨id, member, named⟩
  · rintro ⟨id, member, rfl⟩
    rcases agrees.channels id member with waits | ⟨entry, held, waits⟩ | served
    · contradiction
    · have done := settled entry held
      cases stage : entry.2.stage with
      | resubscribing => simp [stage, Stage.resubscribes] at done
      | _ => simp [stage, Stage.rest] at waits
    · exact served.1

/-- In every run in good order, the peer of the current socket serves exactly the registered names, whenever the
connection is established and no call requests channels in turn. Over the whole run, a channel makes requests for its own
name, and none after the one that tells its end. -/
theorem served_names_are_registered (url : Text) (events : List Event)
    (orderly : Follows Client.orderly (fresh url) events = true) :
    let client := (fresh url).run events
    (client.isConnected = true → (∀ entry ∈ client.calls, entry.2.stage.resubscribes = false) →
      ∃ socket, client.connection.socket = some socket ∧
        client.servedBy socket = (client.registered.map client.nameOf).toFinset) ∧
    (∀ entry ∈ client.ledger,
      entry.channel < client.channels.length ∧ client.nameOf entry.channel = entry.request.name) ∧
    client.ledger.Pairwise fun earlier later => earlier.request.ends = true → later.channel ≠ earlier.channel := by
  intro client
  have standing := run_standing (fresh_standing url) orderly
  have booked := run_booked url events
  refine ⟨fun connected settled => ?_, booked.known, booked.final⟩
  obtain ⟨socket, online⟩ := isConnected_iff.mp connected
  exact ⟨socket, online.2, (standing.inStep.agrees socket online).served settled⟩

/-- While the request of a channel is being sent again, the channel is unsubscribed and its name subscribed anew. -/
def renewed : List Event :=
  [.subscribe .application (some "feed") none [], .connect .application, .resume 0 (.ok ()), .turn 0] ++
    Event.arrival [("event", .text "pusher:connection_established")] ++
    [.unsubscribe .application (some "feed"), .subscribe .application (some "feed") none [],
      .resume 1 (.ok ()), .resume 2 (.ok ()), .resume 3 (.ok ())]

/-- The server serves the name for the channel that has it now, of which it was told after the end of the other. -/
theorem served_names_are_registered_renewed :
    ((fresh "url").run renewed).servedBy 0 = {("feed" : Text)} ∧
      ((fresh "url").run renewed).ledger =
        [⟨some 0, 0, .subscribe "feed" none⟩, ⟨some 0, 0, .unsubscribe "feed"⟩, ⟨some 0, 1, .subscribe "feed" none⟩] := by
  obtain ⟨agreed, _⟩ := served_names_are_registered "url" renewed (by decide +kernel)
  obtain ⟨socket, current, served⟩ := agreed (by decide +kernel) (by decide +kernel)
  have first : ((fresh "url").run renewed).connection.socket = some 0 := by decide +kernel
  obtain rfl : 0 = socket := Option.some.inj (first.symm.trans current)
  have registered : ((fresh "url").run renewed).registered.map ((fresh "url").run renewed).nameOf = [("feed" : Text)] := by
    decide +kernel
  refine ⟨?_, by decide +kernel⟩
  rw [served, registered]
  rfl

end Client
end Pubsub
