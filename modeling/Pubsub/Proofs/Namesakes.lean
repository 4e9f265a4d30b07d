import Pubsub.Proofs.Families
import Pubsub.Proofs.Finality
import Pubsub.Proofs.Listing

/-! One live channel per name. A channel that was registered once is registered for good under its own name, unless it
has ended, so of all channels that ever had a name at most one is not at its end. -/

namespace Pubsub

def Family.Admits (name : Text) : Prop :=
  name ≠ [] ∧ ¬Family.personalPrefix <+: name ∧ ¬Family.presencePrefix <+: name

private theorem Family.validate_general {name : Option Text} {given : Text}
    (valid : Family.general.validate name = .ok given) :
    name = some given ∧ Family.Admits given := by
  cases name with
  | none => contradiction
  | some name =>
    by_cases empty : name = []
    · rw [empty] at valid
      contradiction
    · rw [validate_of_named general empty] at valid
      split at valid
      next own =>
        cases valid
        exact ⟨rfl, empty, ofName_general_iff.mp own.symm⟩
      · contradiction

namespace Client
variable {client : Client}

private theorem newChannel_admits {name : Option Text} {listener : Option Listener} {events : List (Option Text)}
    {channel : Channel} (made : client.newChannel name listener events = .ok channel) : Family.Admits channel.name := by
  obtain ⟨given, rfl, shape⟩ := newChannel_shape made
  rw [shape]
  cases valid : Family.general.validate (some given) with
  | error error =>
    simp only [newChannel, Channel.make, valid, Except.map, Bind.bind, Except.bind] at made
    split at made
    · contradiction
    · split at made <;> contradiction
  | ok text =>
    obtain ⟨same, admits⟩ := Family.validate_general valid
    exact Option.some.inj same ▸ admits

/-- A registered channel is registered still, or has ended. -/
theorem step_registered (tidy : client.Tidy) (event : Event) {id : ChannelId} (member : id ∈ client.registered) :
    id ∈ (client.step event).registered ∨ (client.step event).phase? id = some .ended := by
  obtain ⟨start, begins, proceeds, later⟩ := step_proceeds tidy event
  have started : id ∈ start.registered := by
    rcases begins.registered with same | ⟨channel, _, rfl⟩
    · exact same ▸ member
    · exact List.mem_append_left _ member
  refine (proceeds.kept id started).imp_right fun isOver => ?_
  have known := tidy.registry.known id member
  have found := List.getElem?_eq_getElem (Nat.lt_of_lt_of_le known (channels_of_names (step_names tidy event)))
  rw [phase?_of_found found, isOver _ found]

theorem run_registered (tidy : client.Tidy) (events : List Event) {id : ChannelId}
    (member : id ∈ client.registered) :
    id ∈ (client.run events).registered ∨ (client.run events).phase? id = some .ended := by
  refine (run_induction (motive := fun client =>
    client.Tidy ∧ (id ∈ client.registered ∨ client.phase? id = some .ended)) ?_ ⟨tidy, .inl member⟩ events).2
  rintro client event ⟨tidy, registered | ended⟩
  · exact ⟨step_tidy event tidy, step_registered tidy event registered⟩
  · exact ⟨step_tidy event tidy, .inr (step_phase?_of_ended tidy ended event)⟩

def Admitted (client : Client) : Prop := ∀ id ∈ client.registered, Family.Admits (client.nameOf id)

private theorem step_admitted (tidy : client.Tidy) (admitted : client.Admitted) (event : Event) :
    (client.step event).Admitted := by
  intro id member
  obtain ⟨start, begins, proceeds, _⟩ := step_proceeds tidy event
  have started := proceeds.registered.subset member
  have old (known : id ∈ client.registered) : Family.Admits ((client.step event).nameOf id) := by
    rw [nameOf_of_names (step_names tidy event) (tidy.registry.known id known)]
    exact admitted id known
  rcases begins.registered with same | ⟨channel, ⟨_, _, _, _, _, made⟩, rfl⟩
  · exact old (same ▸ started)
  · rcases List.mem_append.mp started with known | newest
    · exact old known
    · obtain rfl := List.mem_singleton.mp newest
      have last : (client.step event).nameOf client.channels.length = channel.name := by
        rw [nameOf_eq, proceeds.names, ← nameOf_eq]
        simp [nameOf, Client.register, log]
      exact last ▸ newChannel_admits made

/-- A frame that is delivered by name does nothing to channels but the one that is registered under the name. -/
theorem deliver_spares {name : Text} {id : ChannelId} (other : client.lookup name ≠ some id) (event : Text) (frame : Frame) :
    (client.deliver name event frame).1.channels[id]? = client.channels[id]? ∧
      ∀ entry ∈ client.submitted (.deliver name event frame), entry.1 ≠ id := by
  refine ⟨?_, ?_⟩
  · cases found : client.lookup name with
    | none =>
      simp only [deliver, found]
      rfl
    | some registered =>
      have apart : registered ≠ id := fun same => other (same ▸ found)
      rw [deliver_of_lookup found, receive]
      split
      · rfl
      · split
        · rfl
        · simp only [react, setChannel, submit_fst, List.getElem?_set_ne apart]
  · intro entry member
    unfold submitted at member
    split at member
    · contradiction
    next accepted taker =>
      split at member
      · obtain ⟨callback, _, rfl⟩ := List.mem_map.mp member
        obtain ⟨offer, offered, taken⟩ := Option.bind_eq_some_iff.mp taker
        obtain ⟨registered, found, rfl⟩ := Option.map_eq_some_iff.mp offered
        obtain ⟨channel, _, mapped⟩ := Option.bind_eq_some_iff.mp taken
        obtain ⟨acceptance, _, rfl⟩ := Option.map_eq_some_iff.mp mapped
        exact fun same => other (same ▸ found)
      · contradiction

/-- At any moment of any run, every channel that was registered by then is registered under its own name or has ended,
so two of one name that have not ended are the same; a delivery by name acts on no other. Registered names are not
empty and not restricted, and the listing has every registered channel once, with names that strictly increase. -/
theorem one_live_channel_per_name (url : Text) (transport : Transport) (events : List Event) :
    let client := (initial url transport).run events
    let subscribed (id : ChannelId) : Prop :=
      ∃ earlier, earlier <+: events ∧ id ∈ ((initial url transport).run earlier).registered
    (∀ id, subscribed id → client.lookup (client.nameOf id) = some id ∨ client.phase? id = some .ended) ∧
    (∀ first second, subscribed first → subscribed second → client.nameOf first = client.nameOf second →
      client.phase? first ≠ some .ended → client.phase? second ≠ some .ended → first = second) ∧
    (∀ name event frame id, client.lookup name ≠ some id →
      (client.deliver name event frame).1.channels[id]? = client.channels[id]? ∧
        ∀ entry ∈ client.submitted (.deliver name event frame), entry.1 ≠ id) ∧
    (∀ id ∈ client.registered, Family.Admits (client.nameOf id)) ∧
    client.listing.Perm client.registered ∧ client.registered.Nodup ∧
    (client.listing.map client.nameOf).Pairwise (· < ·) := by
  intro client subscribed
  have tidy : client.Tidy := (initial_tidy url transport).run events
  have kept (id : ChannelId) (once : subscribed id) :
      client.lookup (client.nameOf id) = some id ∨ client.phase? id = some .ended := by
    obtain ⟨earlier, ⟨rest, rfl⟩, member⟩ := once
    have later := run_registered ((initial_tidy url transport).run earlier) rest member
    rw [← run_append] at later
    exact later.imp_left tidy.registry.lookup_nameOf
  have admitted : client.Tidy ∧ client.Admitted :=
    run_induction (motive := fun client => client.Tidy ∧ client.Admitted)
      (fun _ event both => ⟨step_tidy event both.1, step_admitted both.1 both.2 event⟩)
      ⟨initial_tidy url transport, nofun⟩ events
  refine ⟨kept, ?_, ?_, admitted.2, client.listing_perm, tidy.registry.nodup, tidy.registry.increasing⟩
  · intro first second one other same firstLive secondLive
    have here := (kept first one).resolve_right firstLive
    have there := (kept second other).resolve_right secondLive
    exact Option.some.inj ((same ▸ here).symm.trans there)
  · exact fun name event frame id other => deliver_spares other event frame

end Client
end Pubsub
