import Pubsub.Proofs.Course

/-! A call that requests channels in turn goes on in stretches, from one frame that it waits for to the next. In each
it passes over the channels that are not to be requested by then, up to the first that is. -/

namespace Pubsub.Client

/-- A channel whose turn it is, if it is to be requested: it is still registered as that same channel, and has not
ended. -/
def wanted (client : Client) (id : ChannelId) : Option Channel :=
  client.channels[id]?.filter fun channel => client.lookup channel.name = some id ∧ channel.phase ≠ .ended

section
variable {client : Client} {id : ChannelId} {channel : Channel}

theorem wanted_eq_some : client.wanted id = some channel ↔
    client.channels[id]? = some channel ∧ client.lookup channel.name = some id ∧ channel.phase ≠ .ended := by
  rw [wanted, Option.filter_eq_some_iff, decide_eq_true_iff]

theorem wanted_eq_none : client.wanted id = none ↔
    ∀ channel, client.channels[id]? = some channel → client.lookup channel.name = some id → channel.phase = .ended := by
  simp only [wanted, Option.filter_eq_none_iff, decide_eq_true_eq, not_and, Classical.not_not]

end

inductive Stretch (client : Client) (task : Task) (reader : Option ReaderId) (ids : List ChannelId) :
    Client × Progress → Prop where
  | ends (passed : ∀ id ∈ ids, client.wanted id = none) (records : List Record) :
      Stretch client task reader ids ({ client with records }, .done (.ok none))
  | asks {passed rest : List ChannelId} {id : ChannelId} (split : ids = passed ++ id :: rest)
      (passed : ∀ other ∈ passed, client.wanted other = none) {channel : Channel} (wanted : client.wanted id = some channel)
      {socket : Option SocketId} (target : client.target = .ok socket) (records : List Record) :
      Stretch client task reader ids
        ({ client with records }.asking task (.resubscribing id rest reader) id channel socket, .suspended client.nextCall)
  | fails {passed rest : List ChannelId} {id : ChannelId} (split : ids = passed ++ id :: rest)
      (passed : ∀ other ∈ passed, client.wanted other = none) {channel : Channel} (wanted : client.wanted id = some channel)
      {error : Error} (target : client.target = .error error) (records : List Record) :
      Stretch client task reader ids
        (({ client with records }.moveTo id .requested).1.rollBack id, .done (.error error))

theorem asking_sent (client : Client) (task : Task) (stage : Stage) (id : ChannelId) (channel : Channel)
    (socket : Option SocketId) : (client.asking task stage id channel socket).sent =
      client.sent ++ [⟨socket, .request id channel.request⟩] := by
  obtain ⟨_, _, _, same⟩ := Quiet.moveTo client id .requested
  simp only [asking, same]
  rfl

variable {client : Client} {task : Task} {reader : Option ReaderId}

theorem Stretch.pass (records : List Record) {id : ChannelId} {rest : List ChannelId} {result : Client × Progress}
    (stretch : Stretch { client with records } task reader rest result) (unwanted : client.wanted id = none) :
    Stretch client task reader (id :: rest) result := by
  cases stretch with
  | ends passed records => exact .ends (List.forall_mem_cons.mpr ⟨unwanted, passed⟩) records
  | asks split passed wanted target records =>
    exact .asks (congrArg (id :: ·) split) (List.forall_mem_cons.mpr ⟨unwanted, passed⟩) wanted target records
  | fails split passed wanted target records =>
    exact .fails (congrArg (id :: ·) split) (List.forall_mem_cons.mpr ⟨unwanted, passed⟩) wanted target records

theorem resubscribe_stretch (client : Client) (task : Task) (reader : Option ReaderId) (ids : List ChannelId) :
    Stretch client task reader ids (resubscribe task reader ids client) := by
  induction ids generalizing client with
  | nil =>
    unfold resubscribe
    split
    · exact .ends (List.forall_mem_nil _) client.records
    · exact .ends (List.forall_mem_nil _) _
  | cons id rest ih =>
    apply resubscribe_cases (motive := Stretch client task reader (id :: rest))
    · intro ended
      have unwanted : client.wanted id = none := wanted_eq_none.mpr fun channel found _ => ended channel found
      exact .pass client.records (ih client) unwanted
    · intro channel found removed
      have unwanted : client.wanted id = none :=
        wanted_eq_none.mpr fun other same known => absurd (Option.some.inj (found.symm.trans same) ▸ known) removed
      exact .pass _ (ih _) unwanted
    · intro channel socket found registered live target
      have wanted : client.wanted id = some channel := wanted_eq_some.mpr ⟨found, registered, live⟩
      exact .asks (List.nil_append _).symm (List.forall_mem_nil _) wanted target client.records
    · intro channel error found registered live target
      have wanted : client.wanted id = some channel := wanted_eq_some.mpr ⟨found, registered, live⟩
      exact .fails (List.nil_append _).symm (List.forall_mem_nil _) wanted target client.records

end Pubsub.Client
