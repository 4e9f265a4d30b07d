import Mathlib.Data.List.Nodup
import Pubsub.Proofs.Acceptance

/-! The registry of a client. No two registered channels share a name, so a name tells which of them is meant. -/

namespace Pubsub.Client

def names (client : Client) : List Text := client.channels.map (·.name)

def phase? (client : Client) (id : ChannelId) : Option Phase := client.channels[id]?.map (·.phase)

theorem nameOf_eq (client : Client) (id : ChannelId) : client.nameOf id = client.names[id]?.getD [] := by
  rw [nameOf, names, List.getElem?_map]

theorem phase?_of_found {client : Client} {id : ChannelId} {channel : Channel}
    (found : client.channels[id]? = some channel) : client.phase? id = some channel.phase := by
  rw [phase?, found, Option.map_some]

theorem nameOf_of_found {client : Client} {id : ChannelId} {channel : Channel}
    (found : client.channels[id]? = some channel) : client.nameOf id = channel.name := by
  rw [nameOf, found, Option.map_some, Option.getD_some]

structure Registry (client : Client) : Prop where
  known : ∀ id ∈ client.registered, id < client.channels.length
  distinct : (client.registered.map client.nameOf).Nodup

namespace Registry
variable {client : Client} (registry : client.Registry)
include registry

theorem nodup : client.registered.Nodup := List.Nodup.of_map _ registry.distinct

theorem listing : client.listing.Nodup :=
  (List.mergeSort_perm client.registered _).nodup_iff.mpr registry.nodup

theorem found {id : ChannelId} (member : id ∈ client.registered) :
    ∃ channel, client.channels[id]? = some channel ∧ channel.name = client.nameOf id := by
  have inside := registry.known id member
  have found := List.getElem?_eq_getElem inside
  exact ⟨_, found, (nameOf_of_found found).symm⟩

/-- Of the registered channels, one name means one. -/
theorem lookup_iff {name : Text} {id : ChannelId} :
    client.lookup name = some id ↔ id ∈ client.registered ∧ client.nameOf id = name := by
  refine ⟨fun found => ⟨List.mem_of_find?_eq_some found, by simpa using List.find?_some found⟩, ?_⟩
  rintro ⟨member, rfl⟩
  cases found : client.lookup (client.nameOf id) with
  | none => exact absurd (List.find?_eq_none.mp found id member) (by simp)
  | some other =>
    have known : other ∈ client.registered := List.mem_of_find?_eq_some found
    have same : client.nameOf other = client.nameOf id := by simpa using List.find?_some found
    exact congrArg some (List.inj_on_of_nodup_map registry.distinct known member same)

theorem lookup_nameOf {id : ChannelId} (member : id ∈ client.registered) :
    client.lookup (client.nameOf id) = some id := registry.lookup_iff.mpr ⟨member, rfl⟩

end Registry

theorem lookup_mem {client : Client} {name : Text} {id : ChannelId} (found : client.lookup name = some id) :
    id ∈ client.registered := List.mem_of_find?_eq_some found

theorem lookup_eq_none {client : Client} {name : Text} :
    client.lookup name = none ↔ ∀ id ∈ client.registered, client.nameOf id ≠ name := by
  simp [lookup]

/-- Channels that are known keep their names when others are made. -/
theorem nameOf_of_names {before after : Client} (names : before.names <+: after.names) {id : ChannelId}
    (known : id < before.channels.length) : after.nameOf id = before.nameOf id := by
  have inside : id < before.names.length := by rwa [Client.names, List.length_map]
  rw [nameOf_eq, nameOf_eq, List.prefix_iff_getElem?.mp names id inside, List.getElem?_eq_getElem inside]

theorem Registry.of_sublist {before after : Client} (registry : before.Registry) (names : before.names <+: after.names)
    (registered : after.registered.Sublist before.registered) : after.Registry := by
  have longer : before.channels.length ≤ after.channels.length := by
    simpa only [Client.names, List.length_map] using names.length_le
  refine ⟨fun id member => Nat.lt_of_lt_of_le (registry.known id (registered.subset member)) longer, ?_⟩
  have same : after.registered.map after.nameOf = after.registered.map before.nameOf :=
    List.map_congr_left fun id member => nameOf_of_names names (registry.known id (registered.subset member))
  rw [same]
  exact registry.distinct.sublist (registered.map before.nameOf)

theorem Registry.register {client : Client} (registry : client.Registry) {channel : Channel}
    (new : client.lookup channel.name = none) : (client.register channel).Registry := by
  have names : client.names <+: (client.register channel).names := by
    simp [Client.names, Client.register, log]
  have old {id : ChannelId} (member : id ∈ client.registered) :
      (client.register channel).nameOf id = client.nameOf id := nameOf_of_names names (registry.known id member)
  have last : (client.register channel).nameOf client.channels.length = channel.name := by
    simp [nameOf, Client.register, log]
  refine ⟨?_, ?_⟩
  · intro id member
    have longer : (client.register channel).channels.length = client.channels.length + 1 := by
      simp [Client.register, log]
    rcases List.mem_append.mp member with older | newest
    · exact longer ▸ Nat.lt_succ_of_lt (registry.known id older)
    · exact longer ▸ List.mem_singleton.mp newest ▸ Nat.lt_succ_self _
  · change ((client.registered ++ [client.channels.length]).map (client.register channel).nameOf).Nodup
    rw [List.map_append, List.map_congr_left fun id member => old member, List.map_singleton, last,
      List.nodup_append]
    refine ⟨registry.distinct, List.nodup_singleton _, ?_⟩
    rintro name taken other newest rfl
    obtain ⟨id, member, named⟩ := List.mem_map.mp taken
    exact lookup_eq_none.mp new id member (named.trans (List.mem_singleton.mp newest))

theorem moveTo_channels {client : Client} {id : ChannelId} {channel : Channel} {phase : Phase}
    (found : client.channels[id]? = some channel) (allowed : channel.phase = .ended → phase = .ended) :
    (client.moveTo id phase).1.channels = client.channels.set id { channel with phase } := by
  have free : ¬(channel.phase = .ended ∧ phase ≠ .ended) := fun refused => refused.2 (allowed refused.1)
  simp only [moveTo, found, Channel.moveTo, if_neg free, react, setChannel, submit_fst]

/-- A move that is refused changes nothing. -/
theorem moveTo_either (client : Client) (id : ChannelId) (phase : Phase) :
    (client.moveTo id phase).1 = client ∨
      ∃ channel, client.channels[id]? = some channel ∧ (channel.phase = .ended → phase = .ended) := by
  cases found : client.channels[id]? with
  | none => exact .inl (by rw [moveTo_of_missing phase found])
  | some channel =>
    by_cases refused : channel.phase = .ended ∧ phase ≠ .ended
    · exact .inl (by rw [moveTo_of_ended found refused.1 refused.2])
    · exact .inr ⟨channel, rfl, fun ended => Classical.byContradiction fun leaving => refused ⟨ended, leaving⟩⟩

theorem moveTo_phase? {client : Client} {id : ChannelId} {channel : Channel} {phase : Phase}
    (found : client.channels[id]? = some channel) (allowed : channel.phase = .ended → phase = .ended) :
    (client.moveTo id phase).1.phase? id = some phase := by
  obtain ⟨inside, _⟩ := List.getElem?_eq_some_iff.mp found
  rw [phase?, moveTo_channels found allowed, List.getElem?_set_self inside, Option.map_some]

theorem moveTo_phase?_of_ne (client : Client) {id other : ChannelId} (phase : Phase) (apart : other ≠ id) :
    (client.moveTo id phase).1.phase? other = client.phase? other := by
  rcases moveTo_either client id phase with same | ⟨channel, found, allowed⟩
  · rw [same]
  · rw [phase?, moveTo_channels found allowed, List.getElem?_set_ne apart.symm, phase?]

/-- A channel is only in a phase because it was before, or is moved there now. -/
theorem moveTo_phase?_cases (client : Client) (id other : ChannelId) (phase : Phase) :
    (client.moveTo id phase).1.phase? other = client.phase? other ∨
      other = id ∧ (client.moveTo id phase).1.phase? other = some phase := by
  by_cases apart : other = id
  · rcases moveTo_either client id phase with same | ⟨channel, found, allowed⟩
    · exact .inl (by rw [same])
    · subst apart
      exact .inr ⟨rfl, moveTo_phase? found allowed⟩
  · exact .inl (moveTo_phase?_of_ne client phase apart)

theorem set_names {client : Client} {id : ChannelId} {channel changed : Channel}
    (found : client.channels[id]? = some channel) (named : changed.name = channel.name) :
    (client.channels.set id changed).map (·.name) = client.names := by
  obtain ⟨inside, rfl⟩ := List.getElem?_eq_some_iff.mp found
  have bound : id < client.names.length := by rwa [names, List.length_map]
  have same : changed.name = client.names[id] := by simp only [named, names, List.getElem_map]
  rw [List.map_set, same, ← names, List.set_getElem_self]

theorem moveTo_names (client : Client) (id : ChannelId) (phase : Phase) :
    (client.moveTo id phase).1.names = client.names := by
  rcases moveTo_either client id phase with same | ⟨channel, found, allowed⟩
  · rw [same]
  · rw [names, moveTo_channels found allowed]
    exact set_names found rfl

theorem rollBack_eq (client : Client) (id : ChannelId) :
    client.rollBack id = if client.phase? id = some .requested then (client.moveTo id .initial).1 else client := by
  unfold rollBack
  cases found : client.channels[id]? with
  | none => simp [phase?, found]
  | some channel =>
    obtain ⟨name, family, phase, token, lifecycle, bindings⟩ := channel
    cases phase <;> simp [phase?, found]

def Freezes (before after : Client) : Prop :=
  ∀ (id : ChannelId) (channel : Channel), before.channels[id]? = some channel → channel.phase = .ended →
    after.channels[id]? = some channel

namespace Freezes

theorem trans {first middle last : Client} (a : Freezes first middle) (b : Freezes middle last) : Freezes first last :=
  fun id channel found ended => b id channel (a id channel found ended) ended

variable (client : Client)

theorem moveTo (id : ChannelId) (phase : Phase) : Freezes client (client.moveTo id phase).1 := by
  intro other channel found ended
  rcases moveTo_either client id phase with same | ⟨state, here, allowed⟩
  · rw [same, found]
  · rw [moveTo_channels here allowed]
    by_cases same : id = other
    · subst same
      obtain rfl := Option.some.inj (here.symm.trans found)
      obtain ⟨inside, _⟩ := List.getElem?_eq_some_iff.mp found
      rw [List.getElem?_set_self inside, allowed ended, ← ended]
    · rw [List.getElem?_set_ne same, found]

theorem rollBack (id : ChannelId) : Freezes client (client.rollBack id) := by
  rw [rollBack_eq]
  split
  · exact moveTo client id .initial
  · exact fun _ _ found _ => found

theorem receive (id : ChannelId) (event : Text) (frame : Frame) : Freezes client (client.receive id event frame).1 := by
  intro other channel found ended
  cases known : client.channels[id]? with
  | none => simp only [Client.receive, known, found]
  | some state =>
    cases received : state.receive event frame with
    | error error => simp only [Client.receive, known, received, found]
    | ok reaction =>
      simp only [Client.receive, known, received, react, setChannel, submit_fst]
      by_cases here : id = other
      · subst here
        obtain rfl := Option.some.inj (known.symm.trans found)
        obtain ⟨inside, _⟩ := List.getElem?_eq_some_iff.mp found
        rw [Channel.receive, if_pos ended] at received
        cases received
        exact List.getElem?_set_self inside
      · exact (List.getElem?_set_ne here).trans found

theorem deliver (name event : Text) (frame : Frame) : Freezes client (client.deliver name event frame).1 := by
  unfold Client.deliver
  split
  · exact fun _ _ found _ => found
  · exact receive client _ event frame

/-- What is over stays over where no channel is made. -/
theorem isOver {before after : Client} (freezes : Freezes before after) (names : after.names = before.names)
    {id : ChannelId} (isOver : before.Over id) : after.Over id := by
  intro last found
  have longer : after.channels.length = before.channels.length := by
    simpa only [Client.names, List.length_map] using congrArg List.length names
  obtain ⟨inside, _⟩ := List.getElem?_eq_some_iff.mp found
  have here := List.getElem?_eq_getElem (longer ▸ inside)
  have ended := isOver _ here
  exact Option.some.inj ((freezes id _ here ended).symm.trans found) ▸ ended

end Freezes
end Pubsub.Client
