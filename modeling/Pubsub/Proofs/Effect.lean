import Pubsub.Proofs.Acceptance

/-! What one event can do. Either a channel is told of something, or the application itself changes a channel or
makes one; anything else only moves channels. What holds over runs is shown for each of these once. -/

namespace Pubsub

def Event.update : Event → Option (ChannelId × (Channel → Except Error Channel))
  | .bind id event listener => some (id, (·.bind event listener))
  | .unbind id event listener => some (id, (·.unbind event listener))
  | .setToken id token => some (id, fun channel => .ok { channel with token })
  | .setLifecycle id lifecycle => some (id, fun channel => .ok { channel with lifecycle })
  | _ => none

/-- What an event assigns to a channel, and may even after the channel has ended: a token or a lifecycle listener. -/
def Event.assigned (id : ChannelId) (channel : Channel) : Event → Channel
  | .setToken other token => if other = id then { channel with token } else channel
  | .setLifecycle other lifecycle => if other = id then { channel with lifecycle } else channel
  | _ => channel

/-- What an update leaves of a channel: all but its bindings, its token or its lifecycle listener. -/
theorem Event.update_ok {event : Event} {id : ChannelId} {update : Channel → Except Error Channel}
    (asked : event.update = some (id, update)) {channel changed : Channel} (updated : update channel = .ok changed) :
    (∃ name who, changed = { channel with bindings := channel.bindings.add name who }) ∨
    (∃ name who, changed = { channel with bindings := channel.bindings.remove name who }) ∨
    (∃ token, event = .setToken id token ∧ changed = { channel with token }) ∨
    ∃ lifecycle, changed = { channel with lifecycle } := by
  cases event with
  | bind id event listener =>
    cases asked
    obtain ⟨name, who, _, _, same⟩ := Channel.bind_ok updated
    exact .inl ⟨name, who, same⟩
  | unbind id event listener =>
    cases asked
    obtain ⟨name, who, _, _, same⟩ := Channel.unbind_ok updated
    exact .inr (.inl ⟨name, who, same⟩)
  | setToken id token =>
    cases asked
    cases updated
    exact .inr (.inr (.inl ⟨token, rfl, rfl⟩))
  | setLifecycle id lifecycle =>
    cases asked
    cases updated
    exact .inr (.inr (.inr ⟨lifecycle, rfl⟩))
  | _ => contradiction

namespace Client

/-- The channel that is told of something in an event: it accepts a frame, or the application itself
moves it to the subscribed phase. -/
def taker (client : Client) : Event → Option Accepted
  | .move id .subscribed =>
    (client.channels[id]?.filter (·.phase ≠ .ended)).map fun channel => ⟨id, channel, .success channel.token⟩
  | event => client.accepted event

inductive Creates (client : Client) : Event → Channel → Prop where
  | make {name : Option Text} {family : Family} {channel : Channel} (made : Channel.make name family = .ok channel) :
      Creates client (.make name family) channel
  | subscribe {task : Task} {name : Option Text} {listener : Option Listener} {events : List (Option Text)}
      {channel : Channel} (made : client.newChannel name listener events = .ok channel) :
      Creates client (.subscribe task name listener events) channel

theorem taker_cases {client : Client} {event : Event} {accepted : Accepted} (taker : client.taker event = some accepted) :
    client.accepted event = some accepted ∨
    ∃ id channel, event = .move id .subscribed ∧ client.channels[id]? = some channel ∧
      accepted = ⟨id, channel, .success channel.token⟩ := by
  unfold Client.taker at taker
  split at taker
  next id =>
    obtain ⟨channel, filtered, rfl⟩ := Option.map_eq_some_iff.mp taker
    exact .inr ⟨id, channel, rfl, (Option.filter_eq_some_iff.mp filtered).1, rfl⟩
  · exact .inl taker

theorem taker_found {client : Client} {event : Event} {accepted : Accepted} (taker : client.taker event = some accepted) :
    client.channels[accepted.id]? = some accepted.channel := by
  rcases taker_cases taker with accepts | ⟨id, channel, _, found, rfl⟩
  · exact accepted_found accepts
  · exact found

theorem taker_eq_accepted {client : Client} {event : Event} (other : ∀ id, event ≠ .move id .subscribed) :
    client.taker event = client.accepted event := by
  unfold taker
  split
  next id => exact absurd rfl (other id)
  · rfl

private theorem taker_of_accepted {client : Client} {event : Event} {accepted : Accepted}
    (accepts : client.accepted event = some accepted) : client.taker event = some accepted := by
  rw [taker_eq_accepted, accepts]
  rintro id rfl
  contradiction

theorem taker_live {client : Client} {event : Event} {accepted : Accepted} (taker : client.taker event = some accepted) :
    accepted.channel.phase ≠ .ended := by
  intro ended
  unfold Client.taker at taker
  split at taker
  next id =>
    obtain ⟨channel, filtered, rfl⟩ := Option.map_eq_some_iff.mp taker
    exact of_decide_eq_true (Option.filter_eq_some_iff.mp filtered).2 ended
  · obtain ⟨offer, _, taken⟩ := Option.bind_eq_some_iff.mp taker
    obtain ⟨channel, _, mapped⟩ := Option.bind_eq_some_iff.mp taken
    obtain ⟨acceptance, accepts, rfl⟩ := Option.map_eq_some_iff.mp mapped
    rw [Channel.accepted, if_pos ended] at accepts
    contradiction

theorem accepted_of_nobody {client : Client} {event : Event} (nobody : client.taker event = none) :
    client.accepted event = none := by
  cases accepts : client.accepted event with
  | none => rfl
  | some accepted => rw [taker_of_accepted accepts] at nobody; contradiction

/-- The callbacks that an event submits, each with the channel that it comes from. None are taken once the queue for them
is shut down. -/
def submitted (client : Client) (event : Event) : List (ChannelId × Callback) :=
  match client.taker event with
  | none => []
  | some accepted => if client.accepting then accepted.callbacks.map (accepted.id, ·) else []

/-- What an event does to channels, and to the callbacks that wait. -/
inductive Effect (client : Client) : Event → Client → Prop where
  | taken {event : Event} {accepted : Accepted} {after : Client} (taker : client.taker event = some accepted)
      (takes : Takes accepted client after) : Effect client event after
  | moved {event : Event} {after : Client} (nobody : client.taker event = none) (unchanged : event.update = none)
      (moves : Moves client after) : Effect client event after
  | changed {event : Event} {id : ChannelId} {update : Channel → Except Error Channel}
      (asked : event.update = some (id, update)) : Effect client event (client.change id update)
  | added {event : Event} {channel : Channel} {registered : List ChannelId} {after : Client}
      (creates : Creates client event channel)
      (moves : Moves { client with channels := client.channels ++ [channel], registered } after) :
      Effect client event after
  | called : Effect client .callback { client with waiting := client.waiting.tail }
  | closed : Effect client .shutDown { client with accepting := false }

private theorem perform_effect {client : Client} {event : Event} (sets : event.sets = true) :
    Effect client event (client.perform event) := by
  have still : Moves client client := ⟨rfl, rfl, rfl⟩
  cases event with
  | make name family =>
    simp only [perform]
    cases new : Channel.make name family with
    | error error => exact .moved rfl rfl still
    | ok channel => exact .added (.make new) ⟨rfl, rfl, rfl⟩
  | bind id event listener => exact .changed rfl
  | unbind id event listener => exact .changed rfl
  | setToken id token =>
    have asked : (Event.setToken id token).update = some (id, fun channel => .ok { channel with token }) := rfl
    exact .changed asked
  | setLifecycle id lifecycle =>
    have asked : (Event.setLifecycle id lifecycle).update = some (id, fun channel => .ok { channel with lifecycle }) := rfl
    exact .changed asked
  | move id phase =>
    obtain rfl : phase = .subscribed := of_decide_eq_true sets
    rcases moveTo_subscribed_cases client id with ⟨channel, found, live, takes⟩ | ⟨ended, unchanged⟩
    · exact .taken (by simp only [taker, found, Option.filter_some, live, ne_eq, not_false_eq_true, decide_true, if_true,
        Option.map_some]) takes
    · have nobody : client.taker (.move id .subscribed) = none := by
        cases found : client.channels[id]? with
        | none => simp [taker, found]
        | some channel => simp [taker, found, ended channel found]
      rw [perform, unchanged]
      exact .moved nobody rfl still
  | subscribe task name listener events =>
    cases new : client.newChannel name listener events with
    | error error =>
      simp only [perform, subscribe_of_refused task new]
      exact .moved rfl rfl still
    | ok channel => exact .added (.subscribe new) (subscribe_of_new task new)
  | callback => exact .called
  | shutDown => exact .closed
  | _ => contradiction

theorem step_effect (client : Client) (event : Event) : Effect client event (client.step event) := by
  cases accepts : client.accepted event with
  | some accepted => exact .taken (taker_of_accepted accepts) (step_of_accepted accepts)
  | none =>
    cases sets : event.sets with
    | false =>
      have nobody : client.taker event = none := by
        rw [taker_eq_accepted, accepts]
        rintro id rfl
        contradiction
      have unchanged : event.update = none := by cases event <;> first | contradiction | rfl
      exact .moved nobody unchanged (step_moves sets accepts)
    | true =>
      have possible : client.possible event = true := by cases event <;> first | contradiction | rfl
      rw [step, if_pos possible]
      exact perform_effect sets

private theorem change_waiting (client : Client) (id : ChannelId) (update : Channel → Except Error Channel) :
    (client.change id update).waiting = client.waiting := by
  unfold change
  split
  · rfl
  · split <;> rfl

/-- Callbacks are submitted by nothing but the channel that is told of something. -/
theorem step_waiting (client : Client) {event : Event} (making : event ≠ .callback) :
    (client.step event).waiting = client.waiting ++ (client.submitted event).map (·.2) := by
  have silent {waiting : List Callback} (nobody : client.taker event = none) (same : waiting = client.waiting) :
      waiting = client.waiting ++ (client.submitted event).map (·.2) := by
    rw [submitted, nobody, same, List.map_nil, List.append_nil]
  have effect := step_effect client event
  generalize client.step event = after at effect ⊢
  cases effect with
  | taken taker takes =>
    rw [takes.waiting, submitted, taker]
    dsimp only
    split <;> simp [Function.comp_def]
  | moved nobody _ moves => exact silent nobody moves.waiting
  | changed asked =>
    have nobody : client.taker event = none := by cases event <;> first | contradiction | rfl
    exact silent nobody (change_waiting client _ _)
  | added creates moves =>
    have nobody : client.taker event = none := by cases creates <;> rfl
    exact silent nobody moves.waiting
  | called => contradiction
  | closed => exact silent rfl rfl

end Client
end Pubsub
