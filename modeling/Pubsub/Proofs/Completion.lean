import Pubsub.Proofs.Queueing

/-! What the end of a wait means. Markers and tasks wait in one line, and the worker takes them in turn, so a drain whose
marker is taken, or a shutdown that waited until nothing was left, comes after the end of all that was accepted before. A queue
that is closed already is not waited for. -/

namespace Pubsub.Queue
open Occurrence

variable {α : Type}

def puts (queue : Queue α) : Event α → List (Item α)
  | .go =>
    match queue.lock with
    | .caller operation true => operation.items
    | _ => []
  | .turn =>
    match queue.worker with
    | .submitting _ child _ _ true => [.work child]
    | _ => []
  | _ => []

def picks (queue : Queue α) : Event α → List (Item α)
  | .turn =>
    match queue.worker with
    | .idle => queue.waiting.take 1
    | _ => []
  | _ => []

def put (queue : Queue α) : List (Event α) → List (Item α)
  | [] => []
  | event :: rest => queue.puts event ++ (queue.happens event).1.put rest

def picked (queue : Queue α) : List (Event α) → List (Item α)
  | [] => []
  | event :: rest => queue.picks event ++ (queue.happens event).1.picked rest

private theorem put_append (queue : Queue α) (first second : List (Event α)) :
    queue.put (first ++ second) = queue.put first ++ (queue.run first).1.put second := by
  induction first generalizing queue with
  | nil => rfl
  | cons event rest ih => simp only [List.cons_append, put, run, ih, List.append_assoc]

structure Lines (queue : Queue α) (put picked : List (Item α)) (occurred : List (Occurrence α)) (next : Queue α) : Prop where
  order : queue.waiting ++ put = picked ++ next.waiting
  taken : Item.works put = taken occurred
  begun : Item.works picked = begun occurred
  /-- The task at work is what was taken last. -/
  last {work : Work α} : next.worker.task = some work →
    (picked = [] ∧ queue.worker.task = some work) ∨ ∃ earlier, picked = earlier ++ [.work work]

theorem Lines.refl (queue : Queue α) : Lines queue [] [] [] queue where
  order := List.append_nil _
  taken := rfl
  begun := rfl
  last task := .inl ⟨rfl, task⟩

theorem Lines.trans {queue middle next : Queue α} {put more picked further : List (Item α)} {first second : List (Occurrence α)}
    (head : Lines queue put picked first middle) (tail : Lines middle more further second next) :
    Lines queue (put ++ more) (picked ++ further) (first ++ second) next where
  order := by rw [← List.append_assoc, head.order, List.append_assoc, tail.order, List.append_assoc]
  taken := by rw [Item.works_append, taken_append, head.taken, tail.taken]
  begun := by rw [Item.works_append, begun_append, head.begun, tail.begun]
  last task := by
    rcases tail.last task with ⟨rfl, still⟩ | ⟨earlier, rfl⟩
    · rw [List.append_nil]
      exact head.last still
    · exact .inr ⟨picked ++ earlier, (List.append_assoc _ _ _).symm⟩

/-- What leaves the line alone and begins nothing. -/
private theorem Lines.still {queue next : Queue α} {event : Event α} {occurred : List (Occurrence α)}
    (none : queue.puts event = []) (still : queue.picks event = []) (waiting : next.waiting = queue.waiting)
    (taken : Occurrence.taken occurred = [])
    (begun : Occurrence.begun occurred = []) (task : ∀ work, next.worker.task = some work → queue.worker.task = some work) :
    Lines queue (queue.puts event) (queue.picks event) occurred next where
  order := by rw [none, still, waiting, List.append_nil, List.nil_append]
  taken := by rw [none, taken]; rfl
  begun := by rw [still, begun]; rfl
  last same := .inl ⟨still, task _ same⟩

private theorem lines_turn {queue next : Queue α} {occurred : List (Occurrence α)} (turn : Turn queue occurred next) :
    Lines queue (queue.puts .turn) (queue.picks .turn) occurred next := by
  cases turn with
  | skip worker waiting =>
    have none : queue.puts .turn = [] := by simp only [puts, worker]
    have one : queue.picks .turn = [.marker] := by simp [picks, worker, waiting]
    rw [none, one]
    exact ⟨by simp [waiting], rfl, rfl, fun task => by simp [worker, Worker.task] at task⟩
  | @begin work rest worker waiting =>
    have none : queue.puts .turn = [] := by simp only [puts, worker]
    have one : queue.picks .turn = [.work work] := by simp [picks, worker, waiting]
    rw [none, one]
    refine ⟨by simp [waiting], rfl, rfl, fun task => .inr ⟨[], ?_⟩⟩
    cases task
    rfl
  | leave worker | pass worker | acquire worker | look worker =>
    exact .still (by simp only [puts, worker]) (by simp only [picks, worker]) rfl rfl rfl fun _ task => worker ▸ task
  | finish worker =>
    exact .still (by simp only [puts, worker]) (by simp only [picks, worker]) rfl rfl rfl fun _ task => by cases task
  | @refuse _ _ remedy _ worker =>
    have none : queue.puts .turn = [] := by simp only [puts, worker]
    have still : queue.picks .turn = [] := by simp only [picks, worker]
    cases remedy with
    | none | stop => exact .still none still rfl rfl rfl fun _ task => by cases task
    | goOn => exact .still none still rfl rfl rfl fun _ task => worker ▸ task
  | @hand _ child _ _ worker =>
    have one : queue.puts .turn = [.work child] := by simp only [puts, worker]
    have still : queue.picks .turn = [] := by simp only [picks, worker]
    rw [one, still]
    exact ⟨rfl, rfl, rfl, fun task => .inl ⟨rfl, worker ▸ task⟩⟩

/-- A worker that rests is at a closed gate, waits for the lock, or finds nothing in the line. -/
private theorem puts_of_rests {queue : Queue α} (sound : queue.Sound) (rests : queue.step = none) :
    queue.puts .turn = [] ∧ queue.picks .turn = [] := by
  rcases rests_of_step sound rests with ⟨worker, waiting⟩ | ⟨gate, next, -⟩ | kept
  · simp [puts, picks, worker, waiting]
  · cases worker : queue.worker <;> simp [worker, Worker.gate?] at next <;> simp [puts, picks, worker]
  · cases worker : queue.worker <;> simp [barred, worker] at kept
    simp [puts, picks, worker]

private theorem lines_happens {queue : Queue α} (sound : queue.Sound) (event : Event α) :
    Lines queue (queue.puts event) (queue.picks event) (queue.happens event).2 (queue.happens event).1 := by
  have change := change_happens sound event
  generalize (queue.happens event).1 = next at change
  generalize (queue.happens event).2 = occurred at change
  cases change with
  | enter | halt | release => exact .still rfl rfl rfl rfl rfl fun _ => id
  | look lock => exact .still (by simp only [puts, lock]) rfl rfl rfl rfl fun _ => id
  | @decline operation lock =>
    exact .still (by simp only [puts, lock]) rfl rfl (by cases operation <;> rfl) rfl fun _ => id
  | @act operation lock =>
    have all : queue.puts .go = operation.items := by simp only [puts, lock]
    rw [all]
    refine ⟨(queue.acted_waiting operation).symm, ?_, rfl, fun task => .inl ⟨rfl, queue.acted_worker operation ▸ task⟩⟩
    cases operation <;> rfl
  | turn turn => exact lines_turn turn
  | idle unheld rests =>
    have still : queue.puts event = [] ∧ queue.picks event = [] := by
      cases event with
      | enter | halt | release => exact ⟨rfl, rfl⟩
      | go =>
        refine ⟨?_, rfl⟩
        simp only [puts]
        split
        next lock => exact absurd lock (unheld rfl _ _)
        · rfl
      | turn => exact puts_of_rests sound (rests rfl)
    exact .still still.1 still.2 rfl rfl rfl fun _ => id

private theorem lines_run {queue : Queue α} (sound : queue.Sound) (events : List (Event α)) :
    Lines queue (queue.put events) (queue.picked events) (queue.run events).2 (queue.run events).1 := by
  induction events generalizing queue with
  | nil => exact .refl queue
  | cons event rest ih => exact (lines_happens sound event).trans (ih (sound_change sound (change_happens sound event)))

/-- From the beginning, all that joined the line was taken off it in the same order, or still waits. -/
theorem line_history (events : List (Event α)) : put {} events = picked {} events ++ (after events).waiting :=
  (lines_run (sound_new []) events).order

private theorem taken_line (events : List (Event α)) : taken (history events) = Item.works (put {} events) :=
  (lines_run (sound_new []) events).taken.symm

private theorem begun_line (events : List (Event α)) : begun (history events) = Item.works (picked {} events) :=
  (lines_run (sound_new []) events).begun.symm

private theorem task_line {events : List (Event α)} {work : Work α} (task : (after events).worker.task = some work) :
    ∃ earlier, picked {} events = earlier ++ [.work work] := by
  rcases (lines_run (sound_new []) events).last task with ⟨_, idle⟩ | last
  · contradiction
  · exact last

/-- When the worker has taken a marker, all that joined the line before it has ended. -/
theorem finished_of_marker {events later : List (Event α)}
    (passed : put {} events ++ [.marker] <+: picked {} (events ++ later)) :
    taken (history events) <+: finished (history (events ++ later)) := by
  obtain ⟨more, split⟩ := passed
  have counted := congrArg List.length (begun_history (events ++ later))
  rw [begun_line, ← split, Item.works_append, Item.works_append, List.length_append, List.length_append,
    List.length_append] at counted
  have busy : (after (events ++ later)).worker.task.toList.length ≤ (Item.works more).length := by
    cases task : (after (events ++ later)).worker.task with
    | none => exact Nat.zero_le _
    | some work =>
      obtain ⟨earlier, last⟩ := task_line task
      rw [← split] at last
      -- what the worker is at came after the marker
      rcases List.eq_nil_or_concat more with rfl | ⟨more, item, rfl⟩
      · rw [List.append_nil] at last
        have same := List.singleton_inj.mp (List.append_inj' last rfl).2
        contradiction
      · rw [List.concat_eq_append, ← List.append_assoc] at last
        obtain rfl := List.singleton_inj.mp (List.append_inj' last rfl).2
        simp [Item.works]
  refine finished_of_length ?_
  rw [taken_line]
  omega

/-- Nothing is left to end where nothing is left to do. -/
theorem finished_of_done {events : List (Event α)} (nothing : (after events).done = true) :
    finished (history events) = taken (history events) := by
  simp only [done, Bool.and_eq_true, List.isEmpty_iff] at nothing
  obtain ⟨waiting, idle⟩ := nothing
  have worker : (after events).worker.task = none := by
    generalize (after events).worker = worker at idle
    cases worker <;> first | rfl | contradiction
  rw [order_history, begun_history, waiting, worker, Option.toList_none, List.append_nil]
  exact (List.append_nil _).symm

/-- Turns put no marker in the line. -/
theorem put_turns (queue : Queue α) (count : Nat) : Item.marker ∉ queue.put (List.replicate count .turn) := by
  induction count generalizing queue with
  | zero => exact List.not_mem_nil
  | succ count ih =>
    rw [List.replicate_succ, put, List.mem_append, not_or]
    refine ⟨?_, ih _⟩
    simp only [puts]
    split <;> simp

private theorem marked_iff {queue : Queue α} : queue.marked = true ↔ Item.marker ∈ queue.waiting := by
  unfold marked
  rw [List.any_eq_true]
  constructor
  · rintro ⟨item, member, kind⟩
    cases item with
    | work => contradiction
    | marker => exact member
  · exact fun member => ⟨_, member, rfl⟩

private theorem put_call {queue : Queue α} (sound : queue.Sound) (lock : queue.lock = .free)
    (live : queue.closed = false)
    (operation : Operation α) : queue.put [.enter operation, .go, .go] = operation.items := by
  obtain ⟨waiting, down, worker, _, closed, halting, gates, marks, logged, kept⟩ := queue
  cases lock
  cases live
  cases sound.down rfl
  cases operation <;> rfl

private theorem put_draining {queue : Queue α} (sound : queue.Sound) (lock : queue.lock = .free)
    (live : queue.closed = false)
    (count : Nat) : ∃ works, Item.marker ∉ works ∧ queue.put (draining count) = .marker :: works := by
  refine ⟨_, put_turns (queue.run [.enter .drain, .go, .go]).1 count, ?_⟩
  rw [draining, put_append, put_call sound lock live]
  rfl

/-- The marker of a drain has been taken after some turns, and with it all before it, or it still waits. -/
theorem marker_drained {events : List (Event α)} (lock : (after events).lock = .free) (live : (after events).closed = false)
    (count : Nat) :
    let drained := events ++ draining count
    ((after drained).marked = false ∧ put {} events ++ [.marker] <+: picked {} drained) ∨
      ((after drained).marked = true ∧ picked {} drained <+: put {} events) := by
  intro drained
  obtain ⟨works, unmarked, joined⟩ := put_draining (sound_after events) lock live count
  have line : (put {} events ++ [.marker]) ++ works = picked {} drained ++ (after drained).waiting := by
    rw [← line_history drained, put_append, List.append_assoc]
    exact congrArg (put {} events ++ ·) joined.symm
  rcases List.append_eq_append_iff.mp line with ⟨passed, same, left⟩ | ⟨ahead, same, left⟩
  · refine .inl ⟨Bool.eq_false_iff.mpr fun marked => unmarked ?_, same ▸ List.prefix_append _ _⟩
    rw [left]
    exact List.mem_append_right passed (marked_iff.mp marked)
  · rcases List.eq_nil_or_concat ahead with rfl | ⟨before, item, rfl⟩
    · rw [List.append_nil] at same
      refine .inl ⟨Bool.eq_false_iff.mpr fun marked => unmarked ?_, same ▸ List.prefix_rfl⟩
      have waits := marked_iff.mp marked
      rwa [left] at waits
    · rw [List.concat_eq_append, ← List.append_assoc] at same
      obtain ⟨earlier, last⟩ := List.append_inj' same rfl
      obtain rfl := List.singleton_inj.mp last
      refine .inr ⟨marked_iff.mpr ?_, earlier ▸ List.prefix_append _ _⟩
      rw [left]
      simp

/-- A worker that rests before it comes to a marker, and is not kept by a caller, stands at a closed gate. -/
private theorem stands_of_marked {queue : Queue α} (sound : queue.Sound) (rests : queue.step = none)
    (free : queue.barred = false) (marked : queue.marked = true) : queue.Stands := by
  rcases rests_of_step sound rests with ⟨-, waiting⟩ | stands | kept
  · simp [Queue.marked, waiting] at marked
  · exact stands
  · rw [free] at kept
    contradiction

private theorem task_of_gate {worker : Worker α} {gate : Text} (next : worker.gate? = some gate) :
    worker.task.toList.length = 1 := by
  cases worker <;> simp [Worker.gate?] at next <;> rfl

/-- The answer of a drain, by what it leaves. -/
def answer (left : Queue α) (limited : Bool) : Awaited Bool :=
  if !left.marked then .now true else if limited then .now false else .stuck

private theorem drain_rests {events : List (Event α)} (lock : (after events).lock = .free)
    (live : (after events).closed = false) (limited : Bool) : ∃ count,
    (after events).drain limited = (after (events ++ draining count), answer (after (events ++ draining count)) limited) ∧
      (after (events ++ draining count)).step = none ∧ (after (events ++ draining count)).barred = false := by
  have sound := sound_after events
  obtain ⟨count, same⟩ := settle_draining sound lock live
  have called : ((after events).acted .drain).Sound := by
    have later := sound_run sound [.enter .drain, .go, .go]
    rwa [run_call_open sound lock live] at later
  have unheld : ((after events).acted .drain).Unheld := by simp [Unheld, acted, lock]
  refine ⟨count, ?_⟩
  rw [after_append, same]
  exact ⟨drain_open sound lock live limited, settle_rests _, (settle_unheld called unheld).barred⟩

private theorem sound_stopped {events : List (Event α)} (lock : (after events).lock = .free)
    (live : (after events).closed = false) : ((after events).acted .shutdown).halt.Sound := by
  have later := sound_run (sound_after events) (stopping 0)
  rwa [run_stopping (sound_after events) lock live] at later

private theorem shutdown_rests {events : List (Event α)} (lock : (after events).lock = .free)
    (live : (after events).closed = false) : ∃ count,
    (after events).shutdown true =
        (after (events ++ stopping count), if (after (events ++ stopping count)).done then .now () else .stuck) ∧
      (after (events ++ stopping count)).step = none ∧ (after (events ++ stopping count)).barred = false := by
  have sound := sound_after events
  obtain ⟨count, same⟩ := settle_stopping sound lock live
  have called := sound_stopped lock live
  have unheld : ((after events).acted .shutdown).halt.Unheld := by simp [Unheld, acted, halt, lock]
  refine ⟨count, ?_⟩
  rw [after_append, same]
  exact ⟨shutdown_open sound lock live true, settle_rests _, (settle_unheld called unheld).barred⟩

/-- A drain that is kept from nothing by a gate comes to its marker. -/
private theorem unmarked_of_admitted {events : List (Event α)} {count : Nat} (lock : (after events).lock = .free)
    (live : (after events).closed = false) (admitted : (after events).Admitted)
    (rests : (after (events ++ draining count)).step = none) (free : (after (events ++ draining count)).barred = false) :
    (after (events ++ draining count)).marked = false := by
  rcases marker_drained lock live count with ⟨unmarked, -⟩ | ⟨marked, ahead⟩
  · exact unmarked
  · -- the worker would be at a task that was accepted before the drain, and these have all ended
    obtain ⟨gate, next, -⟩ := stands_of_marked (sound_after _) rests free marked
    have ended := (finished_at_rest admitted rests free).length_le
    have counted := congrArg List.length (begun_history (events ++ draining count))
    have before : (Item.works (picked {} (events ++ draining count))).length ≤ (Item.works (put {} events)).length := by
      obtain ⟨rest, split⟩ := ahead
      rw [← split, Item.works_append, List.length_append]
      exact Nat.le_add_right _ _
    have busy := task_of_gate next
    rw [List.length_append, busy, begun_line] at counted
    rw [taken_line] at ended
    omega

private theorem taken_stopped {events : List (Event α)} (lock : (after events).lock = .free)
    (live : (after events).closed = false) (count : Nat) :
    taken (history (events ++ stopping count)) = taken (history events) := by
  have none := ((serves_run (sound_stopped lock live) (List.replicate count .turn)).closed rfl).2
  rw [history_append, taken_append, run_stopping (sound_after events) lock live]
  exact (congrArg (taken (history events) ++ ·) none).trans (List.append_nil _)

/-- A shutdown that is kept from nothing by a gate comes to the end of all work, for what still wants to submit is refused. -/
private theorem done_of_admitted {events : List (Event α)} {count : Nat} (lock : (after events).lock = .free)
    (live : (after events).closed = false) (admitted : (after events).Admitted)
    (rests : (after (events ++ stopping count)).step = none) (free : (after (events ++ stopping count)).barred = false) :
    (after (events ++ stopping count)).done = true := by
  rcases rests_of_step (sound_after _) rests with ⟨worker, waiting⟩ | ⟨gate, next, -⟩ | kept
  · simp [done, worker, waiting]
  · have ended := (finished_at_rest admitted rests free).length_le
    have counted := congrArg List.length (begun_history (events ++ stopping count))
    have order := congrArg List.length (order_history (events ++ stopping count))
    rw [List.length_append, task_of_gate next] at counted
    rw [taken_stopped lock live, List.length_append] at order
    omega
  · rw [free] at kept
    contradiction

/-- What the end of a wait means for a queue that is not closed when the wait begins. -/
structure Waits (events : List (Event α)) : Prop where
  /-- A drain by itself comes back with all that was accepted before it at an end. Otherwise its marker is behind a closed gate,
  and it comes back only if its time is limited. -/
  drained (limited : Bool) : ∃ count,
    ((after events).drain limited).1 = after (events ++ draining count) ∧
      ((((after events).drain limited).2 = .now true ∧
          taken (history events) <+: finished (history (events ++ draining count))) ∨
        (((after events).drain limited).2 = (if limited then .now false else .stuck) ∧
          .marker ∈ (after (events ++ draining count)).waiting ∧ (after (events ++ draining count)).Stands))
  drains (limited : Bool) (admitted : (after events).Admitted) : ((after events).drain limited).2 = .now true
  /-- A shutdown that waits comes back with all that was ever accepted at an end. Otherwise it stays behind a closed gate. -/
  stopped : ∃ count,
    ((after events).shutdown true).1 = after (events ++ stopping count) ∧
      ((((after events).shutdown true).2 = .now () ∧
          finished (history (events ++ stopping count)) = taken (history events)) ∨
        (((after events).shutdown true).2 = .stuck ∧ (after (events ++ stopping count)).Stands))
  stops (admitted : (after events).Admitted) : ((after events).shutdown true).2 = .now ()

private theorem waits_open {events : List (Event α)} (lock : (after events).lock = .free)
    (live : (after events).closed = false) :
    Waits events where
  drained limited := by
    obtain ⟨count, same, rests, free⟩ := drain_rests lock live limited
    refine ⟨count, by rw [same], ?_⟩
    rw [same]
    rcases marker_drained lock live count with ⟨unmarked, passed⟩ | ⟨marked, -⟩
    · refine .inl ⟨?_, finished_of_marker passed⟩
      simp only [answer, unmarked, Bool.not_false, if_true]
    · refine .inr ⟨?_, marked_iff.mp marked, stands_of_marked (sound_after _) rests free marked⟩
      simp only [answer, marked, Bool.not_true, Bool.false_eq_true, if_false]
  drains limited admitted := by
    obtain ⟨count, same, rests, free⟩ := drain_rests lock live limited
    rw [same]
    simp only [answer, unmarked_of_admitted lock live admitted rests free, Bool.not_false, if_true]
  stopped := by
    obtain ⟨count, same, rests, free⟩ := shutdown_rests lock live
    refine ⟨count, by rw [same], ?_⟩
    rw [same]
    rcases rests_of_step (sound_after _) rests with ⟨worker, waiting⟩ | ⟨gate, next, shut⟩ | kept
    · have nothing : (after (events ++ stopping count)).done = true := by simp [done, worker, waiting]
      exact .inl ⟨if_pos nothing, (finished_of_done nothing).trans (taken_stopped lock live count)⟩
    · have busy : (after (events ++ stopping count)).done = false := by
        cases worker : (after (events ++ stopping count)).worker <;> simp [worker, Worker.gate?] at next <;>
          simp [done, worker]
      exact .inr ⟨if_neg (Bool.eq_false_iff.mp busy), gate, next, shut⟩
    · rw [free] at kept
      contradiction
  stops admitted := by
    obtain ⟨count, same, rests, free⟩ := shutdown_rests lock live
    rw [same]
    exact if_pos (done_of_admitted lock live admitted rests free)

/-- On a queue that is not closed, a drain that comes back with success and a shutdown that waited come back after the end of
all that was accepted before, whatever happened to the queue and whatever happens meanwhile; and where nothing is left to do,
all has ended. A queue that is closed already is not waited for: drains and further shutdowns come back at once, whatever is
left. A caller that finds the lock taken gets it after two steps at most. -/
theorem waits_end_with_work (events : List (Event α)) :
    ((after events).lock = .free → (after events).closed = false → Waits events) ∧
      -- a drain in the lock puts its marker, and has been waited for when that has been taken
      ((after events).lock = .caller .drain true → ∀ later,
        put {} events ++ [.marker] <+: picked {} (events ++ .go :: later) →
          taken (history events) <+: finished (history (events ++ .go :: later))) ∧
      ((after events).done = true → finished (history events) = taken (history events)) ∧
      ((after events).lock = .free → (after events).closed = true → ∀ choice,
        (after events).drain choice = (after events, .now true) ∧
          (after events).shutdown choice = (after events, .now ())) ∧
      ∃ steps, steps.length ≤ 2 ∧ (∀ step ∈ steps, step = .go ∨ step = .turn) ∧
        (after (events ++ steps)).lock = .free := by
  refine ⟨waits_open, fun _ _ => finished_of_marker, finished_of_done, fun lock shut choice => ?_, ?_⟩
  · exact ⟨drain_closed lock shut choice, shutdown_closed lock shut choice⟩
  · obtain ⟨steps, short, kinds, freed⟩ := lock_let_go (sound_after events)
    exact ⟨steps, short, kinds, by rwa [after_append]⟩

def delayed : List (Event Text) :=
  [.enter (.submit (.task "a" (some "g") [])), .go, .go, .turn, .release "g"]

/-- The task is waited for without a limit. -/
theorem waits_end_with_work_delayed :
    (after delayed).lock = .free ∧ (after delayed).closed = false ∧ (after delayed).Admitted ∧
      ((after delayed).drain false).2 = .now true ∧ ((after delayed).shutdown true).2 = .now () := by
  have admitted : (after delayed).Admitted := ⟨fun work waits => absurd waits List.not_mem_nil, rfl⟩
  have waits := (waits_end_with_work delayed).1 rfl rfl
  exact ⟨rfl, rfl, admitted, waits.drains false admitted, waits.stops admitted⟩

/-- A task stands at a closed gate when its queue is shut down without a wait. -/
def deserted : List (Event Text) :=
  [.enter (.submit (.task "a" (some "g") [])), .go, .go, .turn, .enter .shutdown, .go, .go, .halt]

/-- A drain and a shutdown that should wait come back while the task has not even run. -/
theorem deserted_is_not_waited_for :
    ((after deserted).drain true).2 = .now true ∧ ((after deserted).drain false).2 = .now true ∧
      ((after deserted).shutdown true).2 = .now () ∧
      (taken (history deserted)).map Work.label = [Text.ofString "a"] ∧ finished (history deserted) = [] ∧
      (after deserted).marks = [] :=
  ⟨rfl, rfl, rfl, rfl, rfl, rfl⟩

end Pubsub.Queue
