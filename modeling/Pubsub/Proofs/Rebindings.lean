import Mathlib.Data.List.Induction
import Pubsub.Proofs.Bindings

/-! What bindings come to after any requests to bind and to unbind. Who is bound is told by the last request about each
pair, and what every other question answers follows from who is bound. So the order of requests about different pairs
shows nowhere. -/

namespace Pubsub

/-- A request to bind a listener to an event, or to unbind it. -/
structure Rebinding where
  event : Text
  listener : Listener
  binds : Bool
deriving DecidableEq

def Rebinding.pair (rebinding : Rebinding) : Text × Listener := (rebinding.event, rebinding.listener)

namespace Bindings

def rebind (bindings : Bindings) (rebinding : Rebinding) : Bindings :=
  if rebinding.binds then bindings.add rebinding.event rebinding.listener
  else bindings.remove rebinding.event rebinding.listener

def after (history : List Rebinding) : Bindings := history.foldl rebind {}

def latest (history : List Rebinding) (event : Text) (who : Listener) : Option Bool :=
  ((history.filter fun rebinding => rebinding.pair == (event, who)).getLast?).map (·.binds)

variable {bindings one two : Bindings} {event : Text} {who : Listener}

def Filled (bindings : Bindings) : Prop := ∀ entry ∈ bindings.entries, entry.2 ≠ []

theorem Filled.add (filled : bindings.Filled) (event : Text) (listener : Listener) :
    (bindings.add event listener).Filled := by
  unfold Bindings.add
  split
  · intro entry member
    obtain ⟨old, inside, rfl⟩ := List.mem_map.mp member
    split
    · exact List.concat_ne_nil listener old.2
    · exact filled old inside
  · intro entry member
    rcases List.mem_append.mp member with inside | last
    · exact filled entry inside
    · obtain rfl := List.mem_singleton.mp last
      exact List.cons_ne_nil listener []

theorem Filled.remove (filled : bindings.Filled) (event : Text) (listener : Listener) :
    (bindings.remove event listener).Filled := by
  intro entry member
  obtain ⟨old, inside, left⟩ := List.mem_filterMap.mp member
  dsimp only at left
  split at left
  · split at left
    · contradiction
    next more =>
      cases left
      exact fun none => more (List.isEmpty_iff.mpr none)
  · exact Option.some.inj left ▸ filled old inside

theorem Filled.lasting : Lasting Filled := ⟨nofun, .add, .remove⟩

structure Regular (bindings : Bindings) : Prop where
  keyed : bindings.Keyed
  distinct : bindings.Distinct
  filled : bindings.Filled

theorem Regular.lasting : Lasting Regular where
  empty := ⟨Keyed.lasting.empty, Distinct.lasting.empty, Filled.lasting.empty⟩
  add regular event listener :=
    ⟨regular.keyed.add event listener, regular.distinct.add event listener, regular.filled.add event listener⟩
  remove regular event listener :=
    ⟨regular.keyed.remove event listener, regular.distinct.remove event listener, regular.filled.remove event listener⟩

theorem Keyed.events (keyed : bindings.Keyed) : bindings.events.Nodup := List.pairwise_map.mpr keyed

theorem contains_iff : bindings.contains event = true ↔ event ∈ bindings.events := by
  simp only [contains, events, List.any_eq_true, List.mem_map, beq_iff_eq]

theorem Filled.mem_events (filled : bindings.Filled) : event ∈ bindings.events ↔ bindings.listenersFor event ≠ [] := by
  constructor
  · intro member
    obtain ⟨entry, inside, named⟩ := List.mem_map.mp member
    cases found : bindings.entries.find? (·.1 == event) with
    | none => exact absurd (beq_iff_eq.mpr named) (List.find?_eq_none.mp found entry inside)
    | some first =>
      simp only [listenersFor, found, Option.map_some, Option.getD_some]
      exact filled first (List.mem_of_find?_eq_some found)
  · intro heard
    by_contra absent
    exact heard (listenersFor_of_absent fun entry inside named => absent (List.mem_map.mpr ⟨entry, inside, named⟩))

/-- No question tells two bindings apart. Neither names nor listeners are asked for in an order. -/
structure Alike (one two : Bindings) : Prop where
  listenersFor : ∀ event, (one.listenersFor event).Perm (two.listenersFor event)
  contains : ∀ event, one.contains event = two.contains event
  events : one.events.Perm two.events
  size : one.size = two.size

/-- What bindings answer is told by who is bound to what. -/
theorem Regular.alike (first : one.Regular) (second : two.Regular)
    (same : ∀ event who, who ∈ one.listenersFor event ↔ who ∈ two.listenersFor event) : one.Alike two := by
  have listeners (event : Text) : (one.listenersFor event).Perm (two.listenersFor event) :=
    (List.perm_ext_iff_of_nodup (first.distinct.listenersFor event) (second.distinct.listenersFor event)).mpr (same event)
  have named (event : Text) : event ∈ one.events ↔ event ∈ two.events := by
    rw [first.filled.mem_events, second.filled.mem_events, ← List.isEmpty_eq_false_iff, ← List.isEmpty_eq_false_iff,
      (listeners event).isEmpty_eq]
  have events : one.events.Perm two.events :=
    (List.perm_ext_iff_of_nodup first.keyed.events second.keyed.events).mpr named
  refine ⟨listeners, fun event => ?_, events, ?_⟩
  · rw [Bool.eq_iff_iff, contains_iff, contains_iff]
    exact named event
  · simpa only [Bindings.events, Bindings.size, List.length_map] using events.length_eq

theorem Lasting.rebind {holds : Bindings → Prop} (lasting : Lasting holds) (before : holds bindings)
    (rebinding : Rebinding) : holds (bindings.rebind rebinding) := by
  unfold Bindings.rebind
  split
  · exact lasting.add before _ _
  · exact lasting.remove before _ _

private theorem after_concat (history : List Rebinding) (rebinding : Rebinding) :
    after (history ++ [rebinding]) = (after history).rebind rebinding := by
  simp only [after, List.foldl_append, List.foldl_cons, List.foldl_nil]

theorem Lasting.after {holds : Bindings → Prop} (lasting : Lasting holds) (history : List Rebinding) :
    holds (after history) := by
  induction history using List.reverseRecOn with
  | nil => exact lasting.empty
  | append_singleton history rebinding ih =>
    rw [after_concat]
    exact lasting.rebind ih rebinding

/-- A request settles its own pair and no other. -/
theorem mem_listenersFor_rebind (keyed : bindings.Keyed) (rebinding : Rebinding) :
    who ∈ (bindings.rebind rebinding).listenersFor event ↔
      if rebinding.pair = (event, who) then rebinding.binds = true else who ∈ bindings.listenersFor event := by
  obtain ⟨name, listener, binds⟩ := rebinding
  simp only [rebind, Rebinding.pair, Prod.mk.injEq]
  cases binds with
  | true =>
    rw [if_pos rfl, mem_listenersFor_add]
    split
    next own => simp only [own, and_self, true_or]
    next other => simp only [other, false_or]
  | false =>
    rw [if_neg Bool.false_ne_true, mem_listenersFor_remove keyed]
    split
    next own => simp only [own, and_self, not_true_eq_false, false_and, Bool.false_eq_true]
    next other => simp only [other, not_false_eq_true, true_and]

private theorem latest_concat (history : List Rebinding) (rebinding : Rebinding) :
    latest (history ++ [rebinding]) event who =
      if rebinding.pair = (event, who) then some rebinding.binds else latest history event who := by
  unfold latest
  rw [List.filter_append]
  split
  next own =>
    simp only [own, beq_self_eq_true, List.filter_cons_of_pos, List.filter_nil, List.getLast?_concat, Option.map_some]
  next other =>
    simp only [beq_eq_false_iff_ne.mpr other, Bool.false_eq_true, not_false_eq_true, List.filter_cons_of_neg,
      List.filter_nil, List.append_nil]

/-- A listener is bound exactly if the last request about it was one to bind. -/
theorem mem_listenersFor_after (history : List Rebinding) :
    who ∈ (after history).listenersFor event ↔ latest history event who = some true := by
  induction history using List.reverseRecOn with
  | nil => simp [after, latest, listenersFor]
  | append_singleton history rebinding ih =>
    rw [after_concat, mem_listenersFor_rebind (Keyed.lasting.after history), latest_concat]
    split
    · exact Option.some_inj.symm
    · exact ih

/-- Requests about different pairs may change places. -/
theorem latest_swap {first second : Rebinding} (apart : first.pair ≠ second.pair) (before later : List Rebinding) :
    latest (before ++ first :: second :: later) event who = latest (before ++ second :: first :: later) event who := by
  unfold latest
  simp only [List.filter_append, List.filter_cons]
  -- At most one of the two is about the pair that is asked for, so the filtered histories are the same.
  by_cases own : first.pair = (event, who)
  · have other : second.pair ≠ (event, who) := fun same => apart (own.trans same.symm)
    simp only [beq_eq_false_iff_ne.mpr other, Bool.false_eq_true, if_false]
  · simp only [beq_eq_false_iff_ne.mpr own, Bool.false_eq_true, if_false]

theorem alike_swap {first second : Rebinding} (apart : first.pair ≠ second.pair) (before later : List Rebinding) :
    (after (before ++ first :: second :: later)).Alike (after (before ++ second :: first :: later)) := by
  refine (Regular.lasting.after _).alike (Regular.lasting.after _) fun event who => ?_
  rw [mem_listenersFor_after, mem_listenersFor_after, latest_swap apart]

end Bindings
end Pubsub
