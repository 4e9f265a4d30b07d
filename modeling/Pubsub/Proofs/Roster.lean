import Pubsub.Channel.Roster
import Pubsub.Proofs.Rebindings

/-! Sheets that are written on in place show what bindings are, and a copy keeps what it showed when it was taken. Both
rest on one invariant: every event writes on a sheet of its own, so a write shows nowhere else, and no event ever writes
on a copy. -/

namespace Pubsub

/-- What happens to a roster: a listener is bound or unbound, or somebody takes a copy. -/
inductive Roster.Operation where
  | rebind (rebinding : Rebinding)
  | copy (event : Text)

def Roster.Operation.rebinding? : Operation → Option Rebinding
  | .rebind rebinding => some rebinding
  | .copy _ => none

namespace Roster

def step (roster : Roster) : Operation → Roster
  | .rebind ⟨event, listener, true⟩ => roster.add event listener
  | .rebind ⟨event, listener, false⟩ => roster.remove event listener
  | .copy event => (roster.copy event).1

def run (roster : Roster) (operations : List Operation) : Roster := operations.foldl step roster

variable {roster : Roster} {event : Text} {sheet other : SheetId} {listeners : List Listener}

private theorem read_write_self (there : sheet < roster.sheets.length) :
    (roster.write sheet listeners).read sheet = listeners := by
  simp only [read, write, List.getD_eq_getElem?_getD, List.getElem?_set_self there, Option.getD_some]

private theorem read_write_of_ne (apart : other ≠ sheet) :
    (roster.write sheet listeners).read other = roster.read other := by
  simp only [read, write, List.getD_eq_getElem?_getD, List.getElem?_set_ne apart.symm]

private theorem read_issue_of_lt (there : sheet < roster.sheets.length) :
    (roster.issue listeners).1.read sheet = roster.read sheet := by
  simp only [read, issue, List.getD_eq_getElem?_getD, List.getElem?_append_left there]

private theorem read_issue_self (roster : Roster) (listeners : List Listener) :
    (roster.issue listeners).1.read (roster.issue listeners).2 = listeners := by
  simp only [read, issue, List.getD_eq_getElem?_getD, List.getElem?_concat_length, Option.getD_some]

private theorem lt_write (there : other < roster.sheets.length) :
    other < (roster.write sheet listeners).sheets.length := by
  rwa [write, List.length_set]

private theorem lt_issue (there : other ≤ roster.sheets.length) : other < (roster.issue listeners).1.sheets.length := by
  rw [issue, List.length_append, List.length_singleton]
  exact Nat.lt_succ_of_le there

structure Separate (roster : Roster) : Prop where
  keyed : (roster.entries.map (·.1)).Nodup
  apart : (roster.entries.map (·.2)).Nodup
  issued : ∀ entry ∈ roster.entries, entry.2 < roster.sheets.length

private theorem sheet?_eq_none : roster.sheet? event = none ↔ ∀ entry ∈ roster.entries, entry.1 ≠ event := by
  simp only [sheet?, Option.map_eq_none_iff, List.find?_eq_none, beq_iff_eq, ne_eq]

private theorem mem_of_sheet? (found : roster.sheet? event = some sheet) : (event, sheet) ∈ roster.entries := by
  obtain ⟨⟨name, own⟩, first, rfl⟩ := Option.map_eq_some_iff.mp found
  obtain rfl : name = event := by simpa using List.find?_some first
  exact List.mem_of_find?_eq_some first

/-- Only the event itself writes on its sheet. -/
theorem Separate.sheet_iff (separate : roster.Separate) (found : roster.sheet? event = some sheet)
    {entry : Text × SheetId} (inside : entry ∈ roster.entries) : entry.2 = sheet ↔ entry.1 = event := by
  have own := mem_of_sheet? found
  constructor
  · intro same
    rw [List.inj_on_of_nodup_map separate.apart inside own same]
  · intro same
    rw [List.inj_on_of_nodup_map separate.keyed inside own same]

theorem Separate.there (separate : roster.Separate) (found : roster.sheet? event = some sheet) :
    sheet < roster.sheets.length := separate.issued _ (mem_of_sheet? found)

/-- What one operation does, if anything: it writes on the sheet of an event, which may lose it then, or takes a fresh
sheet, which may become the sheet of an event that had none. -/
inductive Move (roster : Roster) : Roster → Prop where
  | stay : Move roster roster
  | write {event : Text} {sheet : SheetId} (found : roster.sheet? event = some sheet) (listeners : List Listener) :
      Move roster (roster.write sheet listeners)
  | drop {event : Text} {sheet : SheetId} (found : roster.sheet? event = some sheet) (listeners : List Listener) :
      Move roster ((roster.write sheet listeners).drop event)
  | enter {event : Text} (missing : roster.sheet? event = none) (listeners : List Listener) :
      Move roster (roster.enter event listeners)
  | issue (listeners : List Listener) : Move roster (roster.issue listeners).1

private theorem step_move (roster : Roster) (operation : Operation) : Move roster (roster.step operation) := by
  cases operation with
  | copy event => exact .issue _
  | rebind rebinding =>
    obtain ⟨event, listener, binds⟩ := rebinding
    cases binds with
    | true =>
      change Move roster (roster.add event listener)
      unfold add
      split
      next missing => exact .enter missing [listener]
      next found =>
        dsimp only
        split
        · exact .stay
        · exact .write found _
    | false =>
      change Move roster (roster.remove event listener)
      unfold remove
      split
      next => exact .stay
      next found =>
        dsimp only
        split
        · exact .drop found _
        · exact .write found _

theorem Separate.move {after : Roster} (separate : roster.Separate) (move : Move roster after) : after.Separate := by
  cases move with
  | stay => exact separate
  | write found listeners =>
    exact ⟨separate.keyed, separate.apart, fun entry inside => lt_write (separate.issued entry inside)⟩
  | drop found listeners =>
    exact ⟨separate.keyed.sublist (List.filter_sublist.map _), separate.apart.sublist (List.filter_sublist.map _),
      fun entry inside => lt_write (separate.issued entry (List.mem_of_mem_filter inside))⟩
  | @enter event missing listeners =>
    have unnamed : event ∉ roster.entries.map (·.1) := by
      intro member
      obtain ⟨entry, inside, named⟩ := List.mem_map.mp member
      exact sheet?_eq_none.mp missing entry inside named
    have fresh : roster.sheets.length ∉ roster.entries.map (·.2) := by
      intro member
      obtain ⟨entry, inside, last⟩ := List.mem_map.mp member
      exact Nat.ne_of_lt (separate.issued entry inside) last
    refine ⟨?_, ?_, fun entry inside => ?_⟩
    · simpa only [Roster.enter, Roster.issue, List.map_append, List.map_cons, List.map_nil, List.concat_eq_append] using
        separate.keyed.concat unnamed
    · simpa only [Roster.enter, Roster.issue, List.map_append, List.map_cons, List.map_nil, List.concat_eq_append] using
        separate.apart.concat fresh
    · rcases List.mem_append.mp inside with old | new
      · exact lt_issue (Nat.le_of_lt (separate.issued entry old))
      · obtain rfl := List.mem_singleton.mp new
        exact lt_issue (Nat.le_refl _)
  | issue listeners =>
    exact ⟨separate.keyed, separate.apart, fun entry inside => lt_issue (Nat.le_of_lt (separate.issued entry inside))⟩

theorem Separate.run (separate : roster.Separate) (operations : List Operation) : (roster.run operations).Separate := by
  induction operations generalizing roster with
  | nil => exact separate
  | cons operation rest ih => exact ih (separate.move (step_move roster operation))

theorem Separate.empty : ({} : Roster).Separate := ⟨List.nodup_nil, List.nodup_nil, nofun⟩

structure Loose (roster : Roster) (sheet : SheetId) : Prop where
  issued : sheet < roster.sheets.length
  free : ∀ entry ∈ roster.entries, entry.2 ≠ sheet

private theorem Separate.loose_copy (separate : roster.Separate) (event : Text) :
    (roster.copy event).1.Loose (roster.copy event).2 :=
  ⟨lt_issue (Nat.le_refl _), fun entry inside => Nat.ne_of_lt (separate.issued entry inside)⟩

theorem Loose.move {after : Roster} (loose : roster.Loose sheet) (move : Move roster after) :
    after.Loose sheet ∧ after.read sheet = roster.read sheet := by
  cases move with
  | stay => exact ⟨loose, rfl⟩
  | write found listeners =>
    have apart := loose.free _ (mem_of_sheet? found)
    exact ⟨⟨lt_write loose.issued, loose.free⟩, read_write_of_ne apart.symm⟩
  | drop found listeners =>
    have apart := loose.free _ (mem_of_sheet? found)
    exact ⟨⟨lt_write loose.issued, fun entry inside => loose.free entry (List.mem_of_mem_filter inside)⟩,
      read_write_of_ne apart.symm⟩
  | enter missing listeners =>
    refine ⟨⟨lt_issue (Nat.le_of_lt loose.issued), fun entry inside => ?_⟩, read_issue_of_lt loose.issued⟩
    rcases List.mem_append.mp inside with old | new
    · exact loose.free entry old
    · obtain rfl := List.mem_singleton.mp new
      exact Nat.ne_of_gt loose.issued
  | issue listeners =>
    exact ⟨⟨lt_issue (Nat.le_of_lt loose.issued), loose.free⟩, read_issue_of_lt loose.issued⟩

theorem Loose.run (loose : roster.Loose sheet) (operations : List Operation) :
    (roster.run operations).read sheet = roster.read sheet := by
  induction operations generalizing roster with
  | nil => rfl
  | cons operation rest ih =>
    obtain ⟨later, same⟩ := loose.move (step_move roster operation)
    exact (ih later).trans same

private theorem listenersFor_bindings (roster : Roster) (event : Text) :
    roster.bindings.listenersFor event = ((roster.sheet? event).map roster.read).getD [] := by
  simp only [Bindings.listenersFor, bindings, sheet?, List.find?_map, Function.comp_def, Option.map_map]

private theorem contains_bindings (roster : Roster) (event : Text) :
    roster.bindings.contains event = (roster.sheet? event).isSome := by
  rw [Bool.eq_iff_iff]
  simp only [Bindings.contains, bindings, sheet?, List.any_map, Function.comp_def, Option.isSome_map, List.find?_isSome,
    List.any_eq_true]

private theorem read_copy (roster : Roster) (event : Text) :
    (roster.copy event).1.read (roster.copy event).2 = roster.bindings.listenersFor event := by
  rw [listenersFor_bindings]
  exact read_issue_self ..

private theorem bindings_issue (separate : roster.Separate) (listeners : List Listener) :
    (roster.issue listeners).1.bindings = roster.bindings := by
  refine congrArg Bindings.mk (List.map_congr_left fun entry inside => ?_)
  rw [read_issue_of_lt (separate.issued entry inside)]

private theorem bindings_enter (separate : roster.Separate) (event : Text) (listeners : List Listener) :
    (roster.enter event listeners).bindings = ⟨roster.bindings.entries ++ [(event, listeners)]⟩ := by
  -- The new entry comes last, and no sheet that was there before is touched.
  have fresh : (roster.issue listeners).1.read roster.sheets.length = listeners := read_issue_self ..
  have old : (roster.issue listeners).1.bindings = roster.bindings := bindings_issue separate listeners
  refine congrArg Bindings.mk (List.map_append.trans ?_)
  exact congrArg₂ (· ++ ·) (congrArg Bindings.entries old) (congrArg (fun held => [(event, held)]) fresh)

/-- A write shows at the event whose sheet it is, and nowhere else. -/
theorem bindings_write (separate : roster.Separate) (found : roster.sheet? event = some sheet) (listeners : List Listener) :
    (roster.write sheet listeners).bindings = roster.bindings.put event listeners := by
  refine congrArg Bindings.mk ?_
  rw [bindings, List.map_map]
  refine List.map_congr_left fun entry inside => ?_
  -- Another event cannot hold the same sheet, or it would see the write as well.
  by_cases own : entry.1 = event
  · rw [(separate.sheet_iff found inside).mpr own, read_write_self (separate.there found)]
    simp only [Function.comp_apply, own, beq_self_eq_true, if_true]
  · have apart : entry.2 ≠ sheet := fun same => own ((separate.sheet_iff found inside).mp same)
    rw [read_write_of_ne apart]
    simp only [Function.comp_apply, beq_eq_false_iff_ne.mpr own, Bool.false_eq_true, if_false]

private theorem bindings_drop (roster : Roster) (event : Text) :
    (roster.drop event).bindings = roster.bindings.without event := by
  refine congrArg Bindings.mk ?_
  rw [bindings, List.filter_map]
  rfl

private theorem read_of_sheet? (found : roster.sheet? event = some sheet) :
    roster.read sheet = roster.bindings.listenersFor event := by
  rw [listenersFor_bindings, found, Option.map_some, Option.getD_some]

theorem Separate.bindings (separate : roster.Separate) : roster.bindings.Keyed :=
  List.pairwise_map.mpr (List.pairwise_map.mp separate.keyed)

private theorem bindings_add (separate : roster.Separate) (event : Text) (listener : Listener) :
    (roster.add event listener).bindings = roster.bindings.add event listener := by
  have bound := contains_bindings roster event
  unfold add
  split
  next missing =>
    rw [bindings_enter separate, Bindings.add_of_unbound (by rw [bound, missing]; rfl)]
  next sheet found =>
    rw [separate.bindings.add_of_bound (by rw [bound, found]; rfl), ← read_of_sheet? found]
    dsimp only
    split
    next => rfl
    next => exact bindings_write separate found _

private theorem bindings_remove (separate : roster.Separate) (event : Text) (listener : Listener) :
    (roster.remove event listener).bindings = roster.bindings.remove event listener := by
  unfold remove
  split
  next missing =>
    refine (Bindings.remove_of_unbound ?_ listener).symm
    rw [contains_bindings, missing]
    rfl
  next sheet found =>
    rw [separate.bindings.remove_eq, ← read_of_sheet? found]
    dsimp only
    split
    next => rw [bindings_drop, bindings_write separate found, Bindings.without_put]
    next => exact bindings_write separate found _

private theorem bindings_step (separate : roster.Separate) (operation : Operation) :
    (roster.step operation).bindings = operation.rebinding?.elim roster.bindings roster.bindings.rebind := by
  cases operation with
  | copy event => exact bindings_issue separate _
  | rebind rebinding =>
    obtain ⟨event, listener, binds⟩ := rebinding
    cases binds with
    | true => exact bindings_add separate event listener
    | false => exact bindings_remove separate event listener

private theorem Separate.bindings_run (separate : roster.Separate) (operations : List Operation) :
    (roster.run operations).bindings = (operations.filterMap Operation.rebinding?).foldl Bindings.rebind roster.bindings := by
  induction operations generalizing roster with
  | nil => rfl
  | cons operation rest ih =>
    refine (ih (separate.move (step_move roster operation))).trans ?_
    rw [bindings_step separate]
    cases operation <;> rfl

/-- Copies do not show in the bindings. -/
theorem bindings_run (operations : List Operation) :
    (({} : Roster).run operations).bindings = Bindings.after (operations.filterMap Operation.rebinding?) :=
  Separate.empty.bindings_run operations

theorem run_append (roster : Roster) (operations later : List Operation) :
    roster.run (operations ++ later) = (roster.run operations).run later := List.foldl_append

/-- Over all requests to bind and to unbind, and all copies that are taken in between: an event has a sheet only while
there are listeners on it, and the events that are named, counted and found are those that have listeners. The listeners
of an event are those about whom the last request was one to bind. So a request leaves all pairs but its own as they
are, and requests about different pairs may change places unnoticed. A copy keeps the listeners that the event had when
it was taken, whatever is done later. -/
theorem shown_is_last_request (operations : List Operation) :
    let roster := ({} : Roster).run operations
    let bindings := roster.bindings
    let history := operations.filterMap Operation.rebinding?
    bindings = Bindings.after history ∧
    (∀ entry ∈ roster.entries, roster.read entry.2 ≠ []) ∧
    (∀ event, (bindings.contains event = true ↔ bindings.listenersFor event ≠ []) ∧
      (event ∈ bindings.events ↔ bindings.listenersFor event ≠ [])) ∧
    bindings.events.Nodup ∧ bindings.size = bindings.events.length ∧
    (∀ event, (bindings.listenersFor event).Nodup ∧
      ∀ who, who ∈ bindings.listenersFor event ↔ Bindings.latest history event who = some true) ∧
    (∀ rebinding event who, rebinding.pair ≠ (event, who) →
      (who ∈ (roster.step (.rebind rebinding)).bindings.listenersFor event ↔ who ∈ bindings.listenersFor event)) ∧
    (∀ first second later, first.pair ≠ second.pair →
      (roster.run (.rebind first :: .rebind second :: later)).bindings.Alike
        (roster.run (.rebind second :: .rebind first :: later)).bindings) ∧
    ∀ event later, ((roster.copy event).1.run later).read (roster.copy event).2 = bindings.listenersFor event := by
  intro roster bindings history
  have separate : roster.Separate := Separate.empty.run operations
  have shown : bindings = Bindings.after history := bindings_run operations
  have regular : bindings.Regular := shown ▸ Bindings.Regular.lasting.after history
  refine ⟨shown, ?_, ?_, regular.keyed.events, (List.length_map _).symm, ?_, ?_, ?_, ?_⟩
  · intro entry inside
    exact regular.filled _ (List.mem_map_of_mem inside)
  · intro event
    rw [Bindings.contains_iff]
    exact ⟨regular.filled.mem_events, regular.filled.mem_events⟩
  · intro event
    refine ⟨regular.distinct.listenersFor event, fun who => ?_⟩
    rw [shown]
    exact Bindings.mem_listenersFor_after history
  · intro rebinding event who other
    have stepped : (roster.step (.rebind rebinding)).bindings = bindings.rebind rebinding := bindings_step separate _
    rw [stepped, Bindings.mem_listenersFor_rebind regular.keyed, if_neg other]
  · intro first second later apart
    rw [← run_append, ← run_append, bindings_run, bindings_run, List.filterMap_append, List.filterMap_append]
    exact Bindings.alike_swap apart history (later.filterMap Operation.rebinding?)
  · intro event later
    exact ((separate.loose_copy event).run later).trans (read_copy roster event)

/-- The sheet of an event is written on while a copy of it stays as it is. -/
example :
    let roster := ({} : Roster).run [.rebind ⟨"price", "ada", true⟩]
    let later := (roster.copy "price").1.run [.rebind ⟨"price", "ada", false⟩]
    roster.sheet? "price" = some 0 ∧ later.read 0 = [] ∧ later.read (roster.copy "price").2 = ["ada"] ∧
      later.bindings.size = 0 := by decide

end Roster
end Pubsub
