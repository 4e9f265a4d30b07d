import Pubsub.Proofs.Edits

/-! What operations of a client leave alone. Most of them do nothing to channels but move them, and
those that concern channels do nothing to the connection. -/

namespace Pubsub

/-- What a channel is apart from its phase. -/
def Channel.profile (channel : Channel) : Channel := { channel with phase := .initial }

namespace Client

theorem moveTo_of_missing {client : Client} {id : ChannelId} (phase : Phase) (missing : client.channels[id]? = none) :
    client.moveTo id phase = (client, .ok ()) := by
  simp only [moveTo, missing]

theorem moveTo_of_ended {client : Client} {id : ChannelId} {channel : Channel} {phase : Phase}
    (found : client.channels[id]? = some channel) (ended : channel.phase = .ended) (other : phase ≠ .ended) :
    client.moveTo id phase = (client, .error (.phaseEnded channel.name phase)) := by
  simp only [moveTo, found, Channel.moveTo, ended, ne_eq, other, not_false_eq_true, and_self, if_true]

/-- A channel that may be moved is, and unless it is subscribed now nobody is told. -/
theorem moveTo_of_live {client : Client} {id : ChannelId} {channel : Channel} {phase : Phase}
    (found : client.channels[id]? = some channel) (allowed : channel.phase = .ended → phase = .ended)
    (other : phase ≠ .subscribed) :
    client.moveTo id phase =
      ({ client with
          channels := client.channels.set id { channel with phase }
          records := client.records ++ [channel.debug (channel.phase.label ++ " -> " ++ phase.label)] }, .ok ()) := by
  have free : ¬(channel.phase = .ended ∧ phase ≠ .ended) := fun refused => refused.2 (allowed refused.1)
  simp only [moveTo, found, Channel.moveTo, if_neg free, if_neg other, react, submit, setChannel, List.isEmpty_nil,
    true_or, if_true, List.append_nil]

private theorem moveTo_cases {motive : Client × Except Error Unit → Prop} (client : Client) (id : ChannelId)
    {phase : Phase}
    (other : phase ≠ .subscribed)
    (missing : client.channels[id]? = none → motive (client, .ok ()))
    (ended : ∀ channel, client.channels[id]? = some channel → channel.phase = .ended → phase ≠ .ended →
      motive (client, .error (.phaseEnded channel.name phase)))
    (moved : ∀ channel records, client.channels[id]? = some channel → (channel.phase = .ended → phase = .ended) →
      motive ({ client with channels := client.channels.set id { channel with phase }, records }, .ok ())) :
    motive (client.moveTo id phase) := by
  cases found : client.channels[id]? with
  | none => exact moveTo_of_missing phase found ▸ missing found
  | some channel =>
    by_cases refused : channel.phase = .ended ∧ phase ≠ .ended
    · rw [moveTo_of_ended found refused.1 refused.2]
      exact ended channel found refused.1 refused.2
    · have allowed : channel.phase = .ended → phase = .ended := fun atEnd =>
        Classical.byContradiction fun leaving => refused ⟨atEnd, leaving⟩
      rw [moveTo_of_live found allowed other]
      exact moved channel _ found allowed

/-- Nothing happens to channels but moves, and nobody is told of those. -/
structure Moves (before after : Client) : Prop where
  profiles : after.channels.map Channel.profile = before.channels.map Channel.profile
  waiting : after.waiting = before.waiting
  accepting : after.accepting = before.accepting

namespace Moves

theorem refl (client : Client) : Moves client client := ⟨rfl, rfl, rfl⟩

theorem trans {first middle last : Client} (a : Moves first middle) (b : Moves middle last) : Moves first last :=
  ⟨b.profiles.trans a.profiles, b.waiting.trans a.waiting, b.accepting.trans a.accepting⟩

variable (client : Client)

theorem moveTo (id : ChannelId) (phase : Phase) (other : phase ≠ .subscribed) :
    Moves client (client.moveTo id phase).1 := by
  apply moveTo_cases (motive := fun result => Moves client result.1) client id other
  · exact fun _ => .refl client
  · exact fun _ _ _ _ => .refl client
  · intro channel records found _
    refine ⟨?_, rfl, rfl⟩
    obtain ⟨inside, rfl⟩ := List.getElem?_eq_some_iff.mp found
    have bound : id < (client.channels.map Channel.profile).length := by simpa using inside
    have same : Channel.profile { client.channels[id] with phase } = (client.channels.map Channel.profile)[id] := by
      rw [List.getElem_map]
      rfl
    rw [List.map_set, same, List.set_getElem_self]

end Moves

theorem Moves.asking (client : Client) (task : Task) (stage : Stage) (id : ChannelId) (channel : Channel)
    (socket : Option SocketId) : Moves client (client.asking task stage id channel socket) :=
  (Moves.moveTo client id .requested (by decide)).trans ⟨rfl, rfl, rfl⟩

theorem Moves.rollBack (client : Client) (id : ChannelId) : Moves client (client.rollBack id) := by
  unfold Client.rollBack
  split
  · exact .moveTo client id .initial (by decide)
  · exact .refl client

theorem Edit.moves {readers : ReaderId → Prop} {before after : Client} (edit : Edit readers before after) :
    Moves before after := by
  cases edit with
  | retract => exact (Moves.moveTo before _ .requested (by decide)).trans (.rollBack _ _)
  | reset id => exact .moveTo before id .initial (by decide)
  | finish id => exact .moveTo before id .ended (by decide)
  | stop =>
    unfold Client.cancel
    split <;> exact ⟨rfl, rfl, rfl⟩
  | _ => exact ⟨rfl, rfl, rfl⟩

theorem Handing.moves {calls : Call → Prop} {before after : Client} (handing : Handing calls before after) :
    Moves before after := by
  cases handing with
  | ask => exact .asking before _ _ _ _ _
  | dismiss => exact ⟨rfl, rfl, rfl⟩

theorem Acts.moves {before after : Client} (acts : Acts (fun _ => True) (fun _ => True) before after) :
    Moves before after :=
  acts.keep (.refl before) (fun _ _ edit moves => moves.trans edit.moves)
    fun _ _ handing moves => moves.trans handing.moves

theorem Edits.moves {before after : Client} (edits : Edits (fun _ => True) before after) : Moves before after :=
  (Acts.edits edits).moves

theorem change_map {α : Type} (client : Client) (id : ChannelId) (update : Channel → Except Error Channel)
    (view : Channel → α) (kept : ∀ channel changed, update channel = .ok changed → view changed = view channel) :
    (client.change id update).channels.map view = client.channels.map view := by
  unfold change
  split
  · rfl
  next channel found =>
    split
    · rfl
    next changed updated =>
      obtain ⟨inside, rfl⟩ := List.getElem?_eq_some_iff.mp found
      have bound : id < (client.channels.map view).length := by simpa using inside
      have same : view changed = (client.channels.map view)[id] := by
        rw [List.getElem_map]
        exact kept _ _ updated
      change (client.channels.set id changed).map view = client.channels.map view
      rw [List.map_set, same, List.set_getElem_self]

end Client

namespace Channel

private theorem checkBinding_ok {channel : Channel} {event : Option Text} {listener : Option Listener}
    {checked : Text × Listener} (ok : channel.checkBinding event listener = .ok checked) :
    event = some checked.1 ∧ listener = some checked.2 := by
  unfold checkBinding at ok
  split at ok
  · contradiction
  · contradiction
  · contradiction
  · split at ok
    · contradiction
    · split at ok
      · contradiction
      · cases ok
        exact ⟨rfl, rfl⟩

theorem bind_ok {channel bound : Channel} {event : Option Text} {listener : Option Listener}
    (ok : channel.bind event listener = .ok bound) :
    ∃ name who, event = some name ∧ listener = some who ∧
      bound = { channel with bindings := channel.bindings.add name who } := by
  unfold Channel.bind at ok
  cases checked : channel.checkBinding event listener with
  | error error => rw [checked] at ok; contradiction
  | ok pair =>
    rw [checked] at ok
    cases ok
    obtain ⟨named, known⟩ := checkBinding_ok checked
    exact ⟨pair.1, pair.2, named, known, rfl⟩

theorem unbind_ok {channel unbound : Channel} {event : Option Text} {listener : Option Listener}
    (ok : channel.unbind event listener = .ok unbound) :
    ∃ name who, event = some name ∧ listener = some who ∧
      unbound = { channel with bindings := channel.bindings.remove name who } := by
  unfold Channel.unbind at ok
  cases checked : channel.checkBinding event listener with
  | error error => rw [checked] at ok; contradiction
  | ok pair =>
    rw [checked] at ok
    cases ok
    obtain ⟨named, known⟩ := checkBinding_ok checked
    exact ⟨pair.1, pair.2, named, known, rfl⟩

theorem bindAll_shape {channel bound : Channel} {listener : Listener} {events : List (Option Text)}
    (bindings : channel.bindAll listener events = .ok bound) :
    bound = { channel with bindings := bound.bindings } := by
  induction events generalizing channel with
  | nil => cases bindings; rfl
  | cons event rest ih =>
    unfold bindAll at bindings
    cases first : channel.bind event (some listener) with
    | error error => simp only [first, Bind.bind, Except.bind] at bindings; contradiction
    | ok next =>
      simp only [first, Bind.bind, Except.bind] at bindings
      obtain ⟨name, who, _, _, rfl⟩ := bind_ok first
      rw [ih bindings]

theorem make_shape {name : Option Text} {family : Family} {channel : Channel} (made : Channel.make name family = .ok channel) :
    ∃ given, name = some given ∧ channel = { name := given, family } := by
  unfold Channel.make Family.validate at made
  split at made
  · contradiction
  · contradiction
  · split at made
    · contradiction
    · cases made
      exact ⟨_, rfl, rfl⟩

end Channel

namespace Client

/-- A new channel has a name, and if there is a listener, that is its lifecycle listener and bound. -/
theorem newChannel_ok {client : Client} {name : Option Text} {listener : Option Listener}
    {events : List (Option Text)} {channel : Channel} (made : client.newChannel name listener events = .ok channel) :
    ∃ given, name = some given ∧
      (listener = none ∧ channel = { name := given } ∨
        ∃ who, listener = some who ∧
          Channel.bindAll { name := given, lifecycle := some who } who events = .ok channel) := by
  simp only [newChannel] at made
  split at made
  · contradiction
  · split at made
    · contradiction
    · cases fresh : Channel.make name .general with
      | error error =>
        rw [fresh] at made
        contradiction
      | ok start =>
        obtain ⟨given, named, rfl⟩ := Channel.make_shape fresh
        rw [fresh] at made
        cases listener with
        | none =>
          cases made
          exact ⟨given, named, .inl ⟨rfl, rfl⟩⟩
        | some who => exact ⟨given, named, .inr ⟨who, rfl, made⟩⟩

theorem newChannel_shape {client : Client} {name : Option Text} {listener : Option Listener}
    {events : List (Option Text)} {channel : Channel} (made : client.newChannel name listener events = .ok channel) :
    ∃ given, name = some given ∧ channel = { name := given, lifecycle := listener, bindings := channel.bindings } := by
  obtain ⟨given, named, ⟨rfl, rfl⟩ | ⟨who, rfl, bound⟩⟩ := newChannel_ok made
  · exact ⟨given, named, rfl⟩
  · exact ⟨given, named, Channel.bindAll_shape bound⟩

/-- A subscription that is not refused registers its channel, and then only moves it. -/
theorem subscribe_of_new {client : Client} {name : Option Text} {listener : Option Listener}
    {events : List (Option Text)} {channel : Channel} (task : Task)
    (made : client.newChannel name listener events = .ok channel) :
    Moves { client with
        channels := client.channels ++ [channel], registered := client.registered ++ [client.channels.length] }
      (client.subscribe task name listener events).1 := by
  have registered : Moves { client with
      channels := client.channels ++ [channel], registered := client.registered ++ [client.channels.length] }
      (client.register channel) := ⟨rfl, rfl, rfl⟩
  exact registered.trans (Goes.subscribe client made trivial).acts.moves

theorem subscribe_of_refused {client : Client} {name : Option Text} {listener : Option Listener}
    {events : List (Option Text)} {error : Error} (task : Task)
    (refused : client.newChannel name listener events = .error error) :
    client.subscribe task name listener events = (client, .done (.error error)) := by
  simp only [subscribe, refused]

end Client
end Pubsub
