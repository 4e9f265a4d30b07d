import Pubsub.Proofs.Run

/-! Operations on channels leave all else alone. -/

namespace Pubsub.Client

def Quiet (before after : Client) : Prop :=
  ∃ channels waiting records, after = { before with channels, waiting, records }

namespace Quiet

theorem refl (client : Client) : Quiet client client := ⟨_, _, _, rfl⟩

theorem trans {first middle last : Client} (a : Quiet first middle) (b : Quiet middle last) : Quiet first last := by
  obtain ⟨_, _, _, rfl⟩ := a
  obtain ⟨_, _, _, rfl⟩ := b
  exact ⟨_, _, _, rfl⟩

variable (client : Client)

theorem log (source : Source) (level : Level) (message : Text) (details : Members) :
    Quiet client (client.log source level message details) := ⟨_, _, _, rfl⟩

theorem change (id : ChannelId) (update : Channel → Except Error Channel) : Quiet client (client.change id update) := by
  unfold Client.change
  split
  · exact refl client
  · split <;> exact ⟨_, _, _, rfl⟩

theorem react (id : ChannelId) (reaction : Reaction) : Quiet client (client.react id reaction).1 := by
  unfold Client.react submit
  split <;> exact ⟨_, _, _, rfl⟩

theorem moveTo (id : ChannelId) (phase : Phase) : Quiet client (client.moveTo id phase).1 := by
  unfold Client.moveTo
  split
  · exact refl client
  · split
    · exact refl client
    · exact react client id _

theorem rollBack (id : ChannelId) : Quiet client (client.rollBack id) := by
  unfold Client.rollBack
  split
  · exact moveTo client id .initial
  · exact refl client

theorem receive (id : ChannelId) (event : Text) (frame : Frame) : Quiet client (client.receive id event frame).1 := by
  unfold Client.receive
  split
  · exact refl client
  · split
    · exact refl client
    · exact react client id _

theorem deliver (name event : Text) (frame : Frame) : Quiet client (client.deliver name event frame).1 := by
  unfold Client.deliver
  split
  · exact log client _ _ _ _
  · exact receive client _ event frame

end Quiet

variable {before after : Client}

theorem Quiet.target (quiet : Quiet before after) : after.target = before.target := by
  obtain ⟨_, _, _, rfl⟩ := quiet
  rfl

end Pubsub.Client
