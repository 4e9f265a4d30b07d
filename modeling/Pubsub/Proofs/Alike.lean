import Pubsub.Proofs.Apart

/-! The log and the count of frames are only ever written: clients that differ in nothing else go on to
differ in nothing else, whatever happens to them. -/

namespace Pubsub.Client

/-- The same but for the log and the count of frames. -/
def Alike (a b : Client) : Prop :=
  ∃ records received, b = { a with records, connection := { a.connection with received } }

theorem Apart.alike {a b : Client} (apart : Apart [] false a b) : Alike a b := by
  obtain ⟨_, _, -, rfl⟩ := apart
  exact ⟨_, _, rfl⟩

namespace Alike

theorem refl (client : Client) : Alike client client := ⟨client.records, client.connection.received, rfl⟩

theorem trans {a b c : Client} (first : Alike a b) (second : Alike b c) : Alike a c := by
  obtain ⟨_, _, rfl⟩ := first
  obtain ⟨_, _, rfl⟩ := second
  exact ⟨_, _, rfl⟩

theorem channels {a b : Client} (alike : Alike a b) : b.channels = a.channels := by
  obtain ⟨_, _, rfl⟩ := alike
  rfl

theorem of_log (client : Client) (source : Source) (level : Level) (message : Text) (details : Members) :
    Alike client (client.log source level message details) := ⟨_, _, rfl⟩

variable {a b : Client} (alike : Alike a b)
include alike

theorem apart : Apart [] false a b := by
  obtain ⟨_, _, rfl⟩ := alike
  exact ⟨_, _, nofun, rfl⟩

theorem confirm (reader : ReaderId) (socket : SocketId) (members : Members) :
    Alike (a.confirm reader socket members).1 (b.confirm reader socket members).1 :=
  (alike.apart.confirm reader socket members).1.alike

theorem step (event : Event) : Alike (a.step event) (b.step event) := by
  cases event with
  | callback =>
    obtain ⟨_, _, rfl⟩ := alike
    exact ⟨_, _, rfl⟩
  | _ => exact (alike.apart.step (by simp)).alike

omit alike in
theorem run (alike : Alike a b) (events : List Event) : Alike (a.run events) (b.run events) := by
  induction events generalizing a b with
  | nil => exact alike
  | cons event rest ih => exact ih (alike.step event)

end Alike
end Pubsub.Client
