import Mathlib.Data.List.Nodup
import Pubsub.Proofs.Decoding
import Pubsub.Proofs.Effect

/-! What binding and unbinding keep holds of the bindings of every channel of every run. So no listener is bound to an
event twice, and no event has two entries; a request about one pair leaves the others as they are. -/

namespace Pubsub

namespace Bindings

def Distinct (bindings : Bindings) : Prop := ∀ entry ∈ bindings.entries, entry.2.Nodup

theorem Distinct.listenersFor {bindings : Bindings} (distinct : bindings.Distinct) (event : Text) :
    (bindings.listenersFor event).Nodup := by
  unfold Bindings.listenersFor
  cases found : bindings.entries.find? (·.1 == event) with
  | none => exact List.nodup_nil
  | some entry => exact distinct entry (List.mem_of_find?_eq_some found)

theorem Distinct.add {bindings : Bindings} (distinct : bindings.Distinct) (event : Text) (listener : Listener) :
    (bindings.add event listener).Distinct := by
  unfold Bindings.add
  split
  · intro entry member
    obtain ⟨old, inside, rfl⟩ := List.mem_map.mp member
    split
    next fresh =>
      have longer := (distinct old inside).concat fresh.2
      rwa [List.concat_eq_append] at longer
    next => exact distinct old inside
  · intro entry member
    rcases List.mem_append.mp member with inside | last
    · exact distinct entry inside
    · obtain rfl := List.mem_singleton.mp last
      exact List.nodup_singleton listener

theorem Distinct.remove {bindings : Bindings} (distinct : bindings.Distinct) (event : Text) (listener : Listener) :
    (bindings.remove event listener).Distinct := by
  intro entry member
  obtain ⟨old, inside, left⟩ := List.mem_filterMap.mp member
  dsimp only at left
  split at left
  · split at left
    · contradiction
    · cases left
      exact (distinct old inside).filter _
  · exact Option.some.inj left ▸ distinct old inside

theorem Distinct.empty : ({} : Bindings).Distinct := fun _ member => absurd member List.not_mem_nil

/-- What is true of no bindings, and stays true when listeners are bound and unbound. -/
structure Lasting (holds : Bindings → Prop) : Prop where
  empty : holds {}
  add : ∀ {bindings}, holds bindings → ∀ event listener, holds (bindings.add event listener)
  remove : ∀ {bindings}, holds bindings → ∀ event listener, holds (bindings.remove event listener)

theorem Distinct.lasting : Lasting Distinct := ⟨.empty, .add, .remove⟩

/-- A listener that is not bound to an event yet comes last. -/
theorem listenersFor_add (bindings : Bindings) (event other : Text) (listener : Listener) :
    (bindings.add event listener).listenersFor other =
      if other = event ∧ listener ∉ bindings.listenersFor event then bindings.listenersFor event ++ [listener]
      else bindings.listenersFor other := by
  unfold add
  split
  next bound =>
    let extend (entry : Text × List Listener) : Text × List Listener :=
      if entry.1 == event ∧ listener ∉ entry.2 then (entry.1, entry.2 ++ [listener]) else entry
    have kept : ∀ entry, (extend entry).1 = entry.1 := by
      intro entry
      simp only [extend]
      split <;> rfl
    have found : (bindings.entries.map extend).find? (·.1 == other) = (bindings.entries.find? (·.1 == other)).map extend := by
      rw [List.find?_map]
      simp only [Function.comp_def, kept]
    change ((((bindings.entries.map extend).find? (·.1 == other)).map (·.2)).getD [] : List Listener) = _
    rw [found]
    unfold listenersFor
    by_cases same : other = event
    · subst same
      obtain ⟨entry, member, here⟩ := List.any_eq_true.mp bound
      cases first : bindings.entries.find? (·.1 == other) with
      | none => exact absurd here (List.find?_eq_none.mp first entry member)
      | some entry =>
        have named : entry.1 = other := by simpa using List.find?_some first
        by_cases new : listener ∈ entry.2 <;> simp [extend, named, new]
    · rw [if_neg fun both => same both.1]
      cases first : bindings.entries.find? (·.1 == other) with
      | none => rfl
      | some entry =>
        have named : entry.1 = other := by simpa using List.find?_some first
        have apart : entry.1 ≠ event := fun here => same (named.symm.trans here)
        simp [extend, apart]
  next unbound =>
    have missing : bindings.entries.find? (·.1 == event) = none := by
      refine List.find?_eq_none.mpr ?_
      intro entry member named
      exact unbound (List.any_eq_true.mpr ⟨entry, member, named⟩)
    unfold listenersFor
    rw [List.find?_append]
    by_cases same : other = event
    · subst same
      simp [missing]
    · have last : [(event, [listener])].find? (·.1 == other) = none := by simp [Ne.symm same]
      rw [last, Option.or_none, if_neg fun both => same both.1]

variable {bindings : Bindings} {event other : Text} {listener who : Listener}

def Keyed (bindings : Bindings) : Prop := bindings.entries.Pairwise fun first second => first.1 ≠ second.1

theorem Keyed.add (keyed : bindings.Keyed) (event : Text) (listener : Listener) : (bindings.add event listener).Keyed := by
  unfold Bindings.add
  split
  · refine List.pairwise_map.mpr (List.Pairwise.imp ?_ keyed)
    intro first second apart
    split <;> split <;> exact apart
  next unbound =>
    refine List.pairwise_append.mpr ⟨keyed, List.pairwise_singleton _ _, ?_⟩
    intro entry member last new
    obtain rfl := List.mem_singleton.mp new
    exact fun same => unbound (List.any_eq_true.mpr ⟨entry, member, by simpa using same⟩)

theorem Keyed.remove (keyed : bindings.Keyed) (event : Text) (listener : Listener) :
    (bindings.remove event listener).Keyed := by
  have kept {entry left : Text × List Listener} (held : left ∈ (if entry.1 == event then
      if (entry.2.filter (· != listener)).isEmpty then none else some (event, entry.2.filter (· != listener))
      else some entry : Option (Text × List Listener))) : left.1 = entry.1 := by
    split at held
    next here =>
      split at held
      · contradiction
      · cases held
        exact (beq_iff_eq.mp here).symm
    · cases held
      rfl
  refine List.pairwise_filterMap.mpr (List.Pairwise.imp ?_ keyed)
  intro first second apart left one right another
  rwa [kept one, kept another]

theorem Keyed.lasting : Lasting Keyed := ⟨.nil, .add, .remove⟩

private theorem listenersFor_cons (held : List Listener) (rest : List (Text × List Listener)) :
    listenersFor ⟨(event, held) :: rest⟩ other = if event = other then held else listenersFor ⟨rest⟩ other := by
  unfold listenersFor
  rw [List.find?_cons]
  by_cases same : event = other
  · simp [same]
  · simp only [beq_eq_false_iff_ne.mpr same, if_neg same]

theorem listenersFor_of_absent {entries : List (Text × List Listener)} (absent : ∀ entry ∈ entries, entry.1 ≠ event) :
    listenersFor ⟨entries⟩ event = [] := by
  have missing : entries.find? (·.1 == event) = none := by
    refine List.find?_eq_none.mpr ?_
    intro entry member
    simpa using absent entry member
  simp only [listenersFor, missing, Option.map_none, Option.getD_none]

private theorem Keyed.listenersFor_of_mem (keyed : bindings.Keyed) {entry : Text × List Listener}
    (inside : entry ∈ bindings.entries) :
    bindings.listenersFor entry.1 = entry.2 := by
  obtain ⟨entries⟩ := bindings
  induction entries with
  | nil => contradiction
  | cons first rest ih =>
    obtain ⟨alone, keyed⟩ := List.pairwise_cons.mp keyed
    rw [listenersFor_cons]
    rcases List.mem_cons.mp inside with rfl | later
    · exact if_pos rfl
    · rw [if_neg (alone entry later)]
      exact ih keyed later

def put (bindings : Bindings) (event : Text) (listeners : List Listener) : Bindings :=
  ⟨bindings.entries.map fun entry => if entry.1 == event then (entry.1, listeners) else entry⟩

def without (bindings : Bindings) (event : Text) : Bindings := ⟨bindings.entries.filter (·.1 != event)⟩

theorem without_put (bindings : Bindings) (event : Text) (listeners : List Listener) :
    (bindings.put event listeners).without event = bindings.without event := by
  obtain ⟨entries⟩ := bindings
  refine congrArg Bindings.mk ?_
  induction entries with
  | nil => rfl
  | cons entry rest ih => by_cases own : entry.1 = event <;> simpa [put, own] using ih

private theorem listenersFor_put (heard : bindings.listenersFor event ≠ []) (listeners : List Listener) :
    (bindings.put event listeners).listenersFor other = if event = other then listeners else bindings.listenersFor other := by
  have kept (entry : Text × List Listener) : (if entry.1 == event then (entry.1, listeners) else entry).1 = entry.1 := by
    split <;> rfl
  simp only [listenersFor, put, List.find?_map, Function.comp_def, kept]
  cases found : bindings.entries.find? (·.1 == other) with
  | none =>
    have apart : event ≠ other := by
      rintro rfl
      exact heard (by simp only [listenersFor, found, Option.map_none, Option.getD_none])
    rw [if_neg apart]
    rfl
  | some entry =>
    have named : entry.1 = other := by simpa using List.find?_some found
    by_cases same : event = other
    · simp [named, same]
    · simp [named, same, Ne.symm same]

private theorem listenersFor_without (bindings : Bindings) (event other : Text) :
    (bindings.without event).listenersFor other = if event = other then [] else bindings.listenersFor other := by
  split
  next same =>
    refine listenersFor_of_absent fun entry inside named => ?_
    exact (bne_iff_ne.mp (List.mem_filter.mp inside).2) (named.trans same.symm)
  next apart =>
    have kept (entry : Text × List Listener) : (entry.1 != event && entry.1 == other) = (entry.1 == other) := by
      by_cases named : entry.1 = other
      · simp [named, Ne.symm apart]
      · simp [named]
    simp only [listenersFor, without, List.find?_filter, ← Bool.and_eq_true, kept, Bool.decide_eq_true]

theorem add_of_unbound (unbound : bindings.contains event = false) (listener : Listener) :
    bindings.add event listener = ⟨bindings.entries ++ [(event, [listener])]⟩ := by
  simp only [Bindings.add, unbound, Bool.false_eq_true, if_false]

theorem Keyed.add_of_bound (keyed : bindings.Keyed) (bound : bindings.contains event = true) (listener : Listener) :
    bindings.add event listener = if (bindings.listenersFor event).contains listener then bindings
      else bindings.put event (bindings.listenersFor event ++ [listener]) := by
  rw [Bindings.add, if_pos bound]
  split
  next old =>
    refine congrArg Bindings.mk ((List.map_congr_left fun entry inside => ?_).trans (List.map_id _))
    refine if_neg fun both => both.2 ?_
    rw [← keyed.listenersFor_of_mem inside, beq_iff_eq.mp both.1]
    exact List.contains_iff_mem.mp old
  next new =>
    refine congrArg Bindings.mk (List.map_congr_left fun entry inside => ?_)
    by_cases own : entry.1 = event
    · have held := keyed.listenersFor_of_mem inside
      rw [own] at held
      rw [held, List.contains_iff_mem] at new
      simp only [own, beq_self_eq_true, new, not_false_eq_true, and_self, if_true, held]
    · simp only [beq_eq_false_iff_ne.mpr own, Bool.false_eq_true, false_and, if_false]

theorem remove_of_unbound (unbound : bindings.contains event = false) (listener : Listener) :
    bindings.remove event listener = bindings := by
  refine congrArg Bindings.mk ((List.filterMap_congr fun entry inside => ?_).trans List.filterMap_some)
  exact if_neg (List.any_eq_false.mp unbound entry inside)

/-- Unbinding works on one entry, since an event has no other. -/
theorem Keyed.remove_eq (keyed : bindings.Keyed) (event : Text) (listener : Listener) :
    bindings.remove event listener =
      if ((bindings.listenersFor event).filter (· != listener)).isEmpty then bindings.without event
      else bindings.put event ((bindings.listenersFor event).filter (· != listener)) := by
  have held (entry : Text × List Listener) (inside : entry ∈ bindings.entries) (own : entry.1 = event) :
      entry.2 = bindings.listenersFor event := by rw [← own, keyed.listenersFor_of_mem inside]
  split
  next none =>
    refine congrArg Bindings.mk ((List.filterMap_congr fun entry inside => ?_).trans (congrFun List.filterMap_eq_filter _))
    by_cases own : entry.1 = event
    · simp [own, held entry inside own, none, Option.guard]
    · simp [own, Option.guard]
  next more =>
    refine congrArg Bindings.mk ((List.filterMap_congr fun entry inside => ?_).trans (congrFun List.filterMap_eq_map _))
    by_cases own : entry.1 = event
    · simp only [own, beq_self_eq_true, if_true, held entry inside own, if_neg more, Function.comp_apply]
    · simp only [beq_eq_false_iff_ne.mpr own, Bool.false_eq_true, if_false, Function.comp_apply]

private theorem listenersFor_remove (keyed : bindings.Keyed) : (bindings.remove event listener).listenersFor other =
    if event = other then (bindings.listenersFor other).filter (· != listener) else bindings.listenersFor other := by
  rw [keyed.remove_eq]
  split
  next none =>
    rw [listenersFor_without]
    split
    next same => rw [← same, List.isEmpty_iff.mp none]
    next => rfl
  next more =>
    have heard : bindings.listenersFor event ≠ [] := by
      intro empty
      rw [empty] at more
      exact more rfl
    rw [listenersFor_put heard]
    split
    next same => rw [same]
    next => rfl

theorem mem_listenersFor_add : who ∈ (bindings.add event listener).listenersFor other ↔
    event = other ∧ listener = who ∨ who ∈ bindings.listenersFor other := by
  rw [listenersFor_add]
  split
  next new =>
    obtain ⟨rfl, _⟩ := new
    rw [List.mem_append, List.mem_singleton, or_comm, @eq_comm _ who]
    simp only [true_and]
  next old =>
    refine (or_iff_right_of_imp ?_).symm
    rintro ⟨rfl, rfl⟩
    simpa using old

theorem mem_listenersFor_remove (keyed : bindings.Keyed) : who ∈ (bindings.remove event listener).listenersFor other ↔
    ¬(event = other ∧ listener = who) ∧ who ∈ bindings.listenersFor other := by
  rw [listenersFor_remove keyed]
  split
  next same =>
    subst same
    rw [List.mem_filter, bne_iff_ne, and_comm, ne_comm]
    simp only [true_and]
  next apart => simp only [apart, false_and, not_false_eq_true, true_and]

end Bindings

namespace Channel

private theorem bind_unreserved {channel bound : Channel} {event : Text} {listener : Option Listener}
    (ok : channel.bind (some event) listener = .ok bound) : Envelope.reservedPrefix.isPrefixOf event = false := by
  cases reserved : Envelope.reservedPrefix.isPrefixOf event with
  | false => rfl
  | true =>
    unfold Channel.bind checkBinding at ok
    cases event with
    | nil => contradiction
    | cons first rest =>
      cases listener with
      | none => contradiction
      | some listener =>
        simp only [reserved, if_true] at ok
        contradiction

/-- A listener that is bound to events on a channel without bindings is bound to those and no others, and none of them is
reserved. -/
theorem bindAll_listenersFor {channel bound : Channel} {listener : Listener} {events before : List Text}
    (sole : ∀ event, channel.bindings.listenersFor event = if event ∈ before then [listener] else [])
    (ok : channel.bindAll listener (events.map some) = .ok bound) :
    (∀ event, bound.bindings.listenersFor event = if event ∈ before ++ events then [listener] else []) ∧
      ∀ event ∈ events, Envelope.reservedPrefix.isPrefixOf event = false := by
  induction events generalizing channel before with
  | nil =>
    cases ok
    simpa using sole
  | cons first rest ih =>
    obtain ⟨next, binds, ok⟩ := of_bind_ok ok
    have unreserved := bind_unreserved binds
    obtain ⟨name, who, named, known, rfl⟩ := bind_ok binds
    cases named
    cases known
    have grown (event : Text) : (channel.bindings.add first listener).listenersFor event =
        if event ∈ before ++ [first] then [listener] else [] := by
      rw [Bindings.listenersFor_add, sole first, sole event]
      by_cases old : first ∈ before
      · have more : event ∈ before ++ [first] ↔ event ∈ before := by
          simp only [List.mem_append, List.mem_singleton, or_iff_left_iff_imp]
          rintro rfl
          exact old
        simp [old, more]
      · by_cases new : event = first
        · subst new
          simp [old]
        · simp [new]
    obtain ⟨bound, others⟩ := ih grown ok
    refine ⟨fun event => ?_, List.forall_mem_cons.mpr ⟨unreserved, others⟩⟩
    rw [bound, List.append_assoc, List.singleton_append]
end Channel

section
variable {holds : Bindings → Prop}

private theorem Channel.bindAll_lasting (lasting : Bindings.Lasting holds) {channel bound : Channel}
    {listener : Listener}
    {events : List (Option Text)} (before : holds channel.bindings) (ok : channel.bindAll listener events = .ok bound) :
    holds bound.bindings := by
  induction events generalizing channel with
  | nil =>
    cases ok
    exact before
  | cons event rest ih =>
    obtain ⟨next, first, ok⟩ := of_bind_ok ok
    obtain ⟨name, who, _, _, rfl⟩ := bind_ok first
    exact ih (lasting.add before name who) ok

namespace Client

def Binds (holds : Bindings → Prop) (client : Client) : Prop := ∀ bindings ∈ client.channels.map (·.bindings), holds bindings

def Distinct (client : Client) : Prop := ∀ bindings ∈ client.channels.map (·.bindings), bindings.Distinct

theorem bindings_eq_of_profiles {before after : List Channel} (same : after.map Channel.profile = before.map Channel.profile) :
    after.map (·.bindings) = before.map (·.bindings) := by
  have bindings := congrArg (List.map (·.bindings)) same
  simpa only [List.map_map, Function.comp_def, Channel.profile] using bindings

theorem Moves.binds {before after : Client} (moves : Moves before after) (binds : before.Binds holds) : after.Binds holds := by
  unfold Binds
  rwa [bindings_eq_of_profiles moves.profiles]

theorem Takes.binds {accepted : Accepted} {before after : Client} (takes : Takes accepted before after)
    (found : before.channels[accepted.id]? = some accepted.channel) (binds : before.Binds holds) : after.Binds holds := by
  unfold Binds
  rw [bindings_eq_of_profiles takes.profiles]
  intro bindings member
  obtain ⟨channel, inside, rfl⟩ := List.mem_map.mp member
  rcases List.mem_or_eq_of_mem_set inside with old | rfl
  · exact binds _ (List.mem_map_of_mem old)
  · have kept : (accepted.acceptance.update accepted.channel).bindings = accepted.channel.bindings := by
      cases accepted.acceptance <;> rfl
    rw [kept]
    exact binds _ (List.mem_map_of_mem (List.mem_of_getElem? found))

theorem Binds.change {client : Client} (binds : client.Binds holds) (id : ChannelId)
    (update : Channel → Except Error Channel)
    (kept : ∀ channel changed, update channel = .ok changed → holds channel.bindings → holds changed.bindings) :
    (client.change id update).Binds holds := by
  unfold Client.change
  split
  · exact binds
  next channel found =>
    split
    · exact binds
    next changed updated =>
      intro bindings member
      obtain ⟨other, inside, rfl⟩ := List.mem_map.mp member
      rcases List.mem_or_eq_of_mem_set inside with old | rfl
      · exact binds _ (List.mem_map_of_mem old)
      · exact kept channel _ updated (binds _ (List.mem_map_of_mem (List.mem_of_getElem? found)))

theorem Binds.append {client : Client} (binds : client.Binds holds) {channel : Channel} (fresh : holds channel.bindings)
    (registered : List ChannelId) : Binds holds { client with channels := client.channels ++ [channel], registered } := by
  intro bindings member
  simp only [List.map_append, List.map_cons, List.map_nil] at member
  rcases List.mem_append.mp member with old | last
  · exact binds bindings old
  · obtain rfl := List.mem_singleton.mp last
    exact fresh

theorem Creates.binds (lasting : Bindings.Lasting holds) {client : Client} {event : Event} {channel : Channel}
    (creates : Creates client event channel) : holds channel.bindings := by
  cases creates with
  | make made =>
    obtain ⟨given, _, rfl⟩ := Channel.make_shape made
    exact lasting.empty
  | subscribe made =>
    obtain ⟨given, rfl, ⟨rfl, rfl⟩ | ⟨who, rfl, bound⟩⟩ := newChannel_ok made
    · exact lasting.empty
    · exact Channel.bindAll_lasting lasting lasting.empty bound

theorem Effect.binds (lasting : Bindings.Lasting holds) {client after : Client} {event : Event}
    (effect : Effect client event after) (binds : client.Binds holds) : after.Binds holds := by
  cases effect with
  | taken taker takes => exact takes.binds (taker_found taker) binds
  | moved _ _ moves => exact moves.binds binds
  | changed asked =>
    refine binds.change _ _ ?_
    intro channel changed updated kept
    rcases Event.update_ok asked updated with ⟨name, who, rfl⟩ | ⟨name, who, rfl⟩ | ⟨token, _, rfl⟩ | ⟨lifecycle, rfl⟩
    · exact lasting.add kept name who
    · exact lasting.remove kept name who
    · exact kept
    · exact kept
  | added creates moves => exact moves.binds (binds.append (creates.binds lasting) _)
  | called => exact binds
  | closed => exact binds

theorem run_binds (lasting : Bindings.Lasting holds) {client : Client} (binds : client.Binds holds) (events : List Event) :
    (client.run events).Binds holds :=
  run_induction (motive := Binds holds) (fun client event => (step_effect client event).binds lasting) binds events

/-- A client that nothing has happened to has no channels yet. -/
theorem initial_binds (url : Text) (transport : Transport) : (initial url transport).Binds holds := nofun

theorem Effect.distinct {client after : Client} {event : Event} (effect : Effect client event after)
    (distinct : client.Distinct) : after.Distinct := effect.binds Bindings.Distinct.lasting distinct

end Client
end
end Pubsub
