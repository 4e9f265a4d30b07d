import Pubsub.Proofs.Labour

/-! All the work that a queue accepts comes to an end. The worker owes no more than so many turns to what waits, and a
caller keeps it from a turn only while it has the lock, which takes two steps at most. -/

namespace Pubsub.Queue
open Occurrence

variable {α : Type}

def admits (queue : Queue α) (gates : List Text) : Bool :=
  gates.all queue.gates.contains

/-- The worker stands at a closed gate. -/
def Stands (queue : Queue α) : Prop :=
  ∃ gate, queue.worker.gate? = some gate ∧ queue.gates.contains gate = false

/-- The worker rests for want of work, at a closed gate, or because a caller has the lock. -/
theorem rests_of_step {queue : Queue α} (sound : queue.Sound) (rests : queue.step = none) :
    (queue.worker = .idle ∧ queue.waiting = []) ∨ queue.Stands ∨ queue.barred = true := by
  unfold step at rests
  split at rests
  next worker =>
    split at rests
    next waiting => exact .inl ⟨worker, waiting⟩
    all_goals contradiction
  next work worker =>
    split at rests
    · contradiction
    next closed =>
      cases gate : work.gate with
      | none => simp [gate] at closed
      | some gate' => exact .inr (.inl ⟨gate', by simp only [worker, Worker.gate?, gate], by simpa [gate] using closed⟩)
  · contradiction
  · contradiction
  next gate _ worker =>
    split at rests
    · contradiction
    next closed =>
      exact .inr (.inl ⟨gate, by simp only [worker, Worker.gate?], Bool.eq_false_iff.mpr closed⟩)
  next worker =>
    split at rests
    · contradiction
    next taken =>
      cases lock : queue.lock with
      | free => exact absurd lock taken
      | worker =>
        have locks := sound.worker.mp lock
        rw [worker] at locks
        contradiction
      | caller => exact .inr (.inr (by simp only [barred, worker, lock]))
  next work child remedy left passed worker =>
    rcases queue.proceed_submit child passed with ⟨-, -, went⟩ | ⟨_, went⟩ | ⟨-, went⟩ <;> simp only [went] at rests <;>
      contradiction

theorem admits_cons {queue : Queue α} {gate : Text} {gates : List Text} :
    queue.admits (gate :: gates) = true ↔ queue.gates.contains gate = true ∧ queue.admits gates = true := by
  simp [admits]

theorem admits_append {queue : Queue α} {first second : List Text} :
    queue.admits (first ++ second) = true ↔ queue.admits first = true ∧ queue.admits second = true := by
  simp [admits]

/-- No task that waits, or that the worker is at, has a closed gate before it. -/
def Admitted (queue : Queue α) : Prop :=
  (∀ work, .work work ∈ queue.waiting → queue.admits work.gates = true) ∧ queue.admits queue.worker.gates = true

/-- The turns in which the worker did not have to wait for the lock. -/
def turns (queue : Queue α) : List (Event α) → Nat
  | [] => 0
  | event :: rest =>
    (match event with
      | .turn => if queue.barred then 0 else 1
      | _ => 0) + (queue.happens event).1.turns rest

/-- So many tasks are to have ended, of which so many have, and the worker needs no more than so many turns
for the rest: what it is at, and the first that wait. None of these stands at a closed gate. -/
private def Owes (queue : Queue α) (target done needed : Nat) : Prop :=
  target ≤ done ∨ ∃ first later, queue.waiting = first ++ later ∧ Item.efforts first + queue.worker.effort ≤ needed ∧
    (∀ work ∈ Item.works first, queue.admits work.gates = true) ∧ queue.admits queue.worker.gates = true ∧
    target ≤ done + queue.worker.task.toList.length + (Item.works first).length

private theorem efforts_pos {items : List (Item α)} (some : items ≠ []) : 0 < Item.efforts items := by
  cases items with
  | nil => contradiction
  | cons item rest =>
    cases item <;> simp only [Item.efforts, Item.effort] <;> omega

private theorem task_effort (worker : Worker α) : worker.task.toList.length ≤ worker.effort := by
  cases worker with
  | idle => exact Nat.le_refl 0
  | starting work =>
    simp only [Worker.task, Option.toList_some, List.length_singleton, Worker.effort, Work.effort_eq]
    omega
  | running work left =>
    simp only [Worker.task, Option.toList_some, List.length_singleton, Worker.effort]
    omega
  | submitting work child remedy left passed =>
    simp only [Worker.task, Option.toList_some, List.length_singleton, Worker.effort]
    split <;> omega

/-- When no turn is needed any more, the tasks have ended. -/
private theorem Owes.paid {queue : Queue α} {target done : Nat} (owes : queue.Owes target done 0) : target ≤ done := by
  rcases owes with paid | ⟨first, later, -, bounded, -, -, counted⟩
  · exact paid
  · have busy := task_effort queue.worker
    by_cases none : first = []
    · subst none
      simp only [Item.efforts, Item.works, List.filterMap_nil, List.length_nil] at bounded counted
      omega
    · have some := efforts_pos none
      omega

/-- The worker goes on with the task that it is at. What that task submits joins the line behind all that is owed. -/
private theorem Owes.onward {queue next : Queue α} {more : List (Item α)} {target done needed : Nat}
    (owes : queue.Owes target done (needed + 1)) (ahead : List Text) (waiting : next.waiting = queue.waiting ++ more)
    (gates : next.gates = queue.gates) (task : next.worker.task = queue.worker.task)
    (spent : next.worker.effort < queue.worker.effort) (own : queue.worker.gates = ahead ++ next.worker.gates) :
    next.Owes target done needed := by
  rcases owes with paid | ⟨first, later, split, bounded, admitted, free, counted⟩
  · exact .inl paid
  · rw [own] at free
    refine .inr ⟨first, later ++ more, by rw [waiting, split, List.append_assoc], by omega, fun work listed => ?_, ?_,
      task ▸ counted⟩
    · rw [admits, gates]
      exact admitted work listed
    · rw [admits, gates]
      exact (admits_append.mp free).2

/-- The task that the worker is at comes to its end. -/
private theorem Owes.ended {queue next : Queue α} {work : Work α} {target done needed : Nat}
    (owes : queue.Owes target done (needed + 1)) (task : queue.worker.task = some work)
    (waiting : next.waiting = queue.waiting) (gates : next.gates = queue.gates) (idle : next.worker = .idle) :
    next.Owes target (done + 1) needed := by
  rcases owes with paid | ⟨first, later, split, bounded, admitted, -, counted⟩
  · exact .inl (Nat.le_add_right_of_le paid)
  · have busy := task_effort queue.worker
    rw [task] at busy counted
    simp only [Option.toList_some, List.length_singleton] at busy counted
    refine .inr ⟨first, later, waiting.trans split, ?_, fun work listed => ?_, ?_, ?_⟩
    · rw [idle]
      simp only [Worker.effort]
      omega
    · rw [admits, gates]
      exact admitted work listed
    · rw [idle]
      rfl
    · rw [idle]
      exact counted

private theorem Owes.turn {queue next : Queue α} {occurred : List (Occurrence α)} {target done needed : Nat}
    (owes : queue.Owes target done (needed + 1)) (turn : Turn queue occurred next) :
    next.Owes target (done + (finished occurred).length) needed := by
  cases turn with
  | skip worker waiting =>
    rcases owes with paid | ⟨first, later, split, bounded, admitted, own, counted⟩
    · exact .inl paid
    cases first with
    | nil => exact .inl (by simpa [worker, Worker.task, Item.works, finished] using counted)
    | cons item first =>
      rw [waiting, List.cons_append, List.cons.injEq] at split
      obtain ⟨rfl, rfl⟩ := split
      refine .inr ⟨first, later, rfl, ?_, admitted, own, counted⟩
      simp only [Item.efforts, Item.effort] at bounded ⊢
      omega
  | begin worker waiting =>
    rcases owes with paid | ⟨first, later, split, bounded, admitted, -, counted⟩
    · exact .inl paid
    cases first with
    | nil => exact .inl (by simpa [worker, Worker.task, Item.works, finished] using counted)
    | cons item first =>
      rw [waiting, List.cons_append, List.cons.injEq] at split
      obtain ⟨rfl, rfl⟩ := split
      obtain ⟨next, others⟩ := List.forall_mem_cons.mp admitted
      refine .inr ⟨first, later, rfl, ?_, others, next, ?_⟩
      · simp only [Item.efforts, Item.effort, worker, Worker.effort] at bounded ⊢
        omega
      · simp [Item.works, worker, Worker.task, finished] at counted ⊢
        omega
  | leave worker =>
    refine owes.onward _ (List.append_nil _).symm rfl (by rw [worker]; rfl) ?_ (by rw [worker]; rfl)
    simp only [worker, Worker.effort, Work.effort_eq]
    omega
  | pass worker =>
    refine owes.onward [_] (List.append_nil _).symm rfl (by rw [worker]; rfl) ?_ (by rw [worker]; rfl)
    simp only [worker, Worker.effort, Deed.efforts, Deed.effort]
    omega
  | finish worker => exact owes.ended (by rw [worker]; rfl) rfl rfl rfl
  | acquire worker =>
    refine owes.onward [] (List.append_nil _).symm rfl (by rw [worker]; rfl) ?_ (by rw [worker]; rfl)
    simp only [worker, Worker.effort, Deed.efforts, Deed.effort, Bool.false_eq_true, if_false]
    omega
  | look worker =>
    refine owes.onward [] (List.append_nil _).symm rfl (by rw [worker]; rfl) ?_ (by rw [worker]; rfl)
    simp only [worker, Worker.effort, Bool.false_eq_true, if_false, if_true]
    omega
  | @refuse _ _ remedy _ worker =>
    cases remedy with
    | none | stop => exact owes.ended (by rw [worker]; rfl) rfl rfl rfl
    | goOn =>
      refine owes.onward [] (List.append_nil _).symm rfl (by rw [worker]; rfl) ?_ (by rw [worker]; rfl)
      simp only [refuse, worker, Worker.effort, Bool.false_eq_true, if_false]
      omega
  | hand worker =>
    refine owes.onward [] rfl rfl (by rw [worker]; rfl) ?_ (by rw [worker]; rfl)
    simp only [worker, Worker.effort, if_true]
    omega

/-- Open gates ahead leave no gate to stand at. -/
theorem not_stands {queue : Queue α} (own : queue.admits queue.worker.gates = true) : ¬ queue.Stands := by
  rintro ⟨gate, next, closed⟩
  have ahead : gate ∈ queue.worker.gates := by
    unfold Worker.gate? at next
    split at next
    next work worker =>
      rw [worker]
      exact List.mem_append_left _ (Option.mem_toList.mpr next)
    next worker =>
      cases next
      rw [worker]
      exact List.mem_cons_self
    · contradiction
  rw [List.all_eq_true.mp own gate ahead] at closed
  contradiction

/-- A worker that owes something, is not kept by a caller and does not take a turn has nothing left to do. -/
private theorem Owes.rests {queue : Queue α} {target done needed : Nat} (owes : queue.Owes target done needed)
    (sound : queue.Sound) (rests : queue.step = none) (free : queue.barred = false) : target ≤ done := by
  rcases owes with paid | ⟨first, later, split, -, -, own, counted⟩
  · exact paid
  · rcases rests_of_step sound rests with ⟨worker, waiting⟩ | stands | barred
    · obtain ⟨rfl, -⟩ := List.append_eq_nil_iff.mp (split.symm.trans waiting)
      simpa [worker, Worker.task, Item.works] using counted
    · exact absurd stands (not_stands own)
    · rw [free] at barred
      contradiction

/-- What waits behind is of no account, and gates do not close. -/
private theorem Owes.mono {queue next : Queue α} {target done needed : Nat} (owes : queue.Owes target done needed)
    {more : List (Item α)} (waiting : next.waiting = queue.waiting ++ more) (worker : next.worker = queue.worker)
    (gates : ∀ ahead, queue.admits ahead = true → next.admits ahead = true) : next.Owes target done needed := by
  rcases owes with paid | ⟨first, later, split, bounded, admitted, own, counted⟩
  · exact .inl paid
  · rw [← worker] at bounded counted own
    exact .inr ⟨first, later ++ more, by rw [waiting, split, List.append_assoc], bounded,
      fun work listed => gates _ (admitted work listed), gates _ own, counted⟩

private theorem admits_release {queue : Queue α} {ahead : List Text} (gate : Text)
    (admits : queue.admits ahead = true) :
    (queue.release gate).admits ahead = true := by
  rw [Queue.admits, List.all_eq_true] at admits ⊢
  intro other listed
  rw [release, List.contains_cons, admits other listed, Bool.or_true]

private theorem Owes.aside {queue next : Queue α} {event : Event α} {occurred : List (Occurrence α)}
    {target done needed : Nat}
    (owes : queue.Owes target done needed) (change : Change queue event occurred next) (aside : event ≠ .turn) :
    next.Owes target (done + (finished occurred).length) needed := by
  cases change with
  | enter | look | decline | halt => exact owes.mono (List.append_nil _).symm rfl fun _ => id
  | @act operation =>
    refine owes.mono (queue.acted_waiting operation) (queue.acted_worker operation) fun ahead => ?_
    simp only [admits, queue.acted_gates operation, imp_self]
  | release => exact owes.mono (List.append_nil _).symm rfl fun _ => admits_release _
  | turn => contradiction
  | idle => exact owes

private theorem Owes.happens {queue : Queue α} {target done needed : Nat} (owes : queue.Owes target done needed)
    (sound : queue.Sound) (event : Event α) :
    (queue.happens event).1.Owes target (done + (finished (queue.happens event).2).length)
      (needed - queue.turns [event]) := by
  have change := change_happens sound event
  cases event with
  | turn =>
    cases barred : queue.barred with
    | true =>
      -- without the lock the worker does nothing, and the turn does not count
      have rests : queue.step = none := by
        unfold Queue.barred at barred
        split at barred
        next worker lock => simp only [step, worker, lock]
        · contradiction
      simpa [turns, barred, Queue.happens, rests, finished] using owes
    | false =>
      cases stepped : queue.step with
      | none => exact .inl (Nat.le_add_right_of_le (owes.rests sound stepped barred))
      | some next =>
        simp only [Queue.happens, stepped, Option.getD_some, turns, barred, Bool.false_eq_true, if_false, Nat.add_zero]
        cases needed with
        | zero => exact .inl (Nat.le_add_right_of_le owes.paid)
        | succ needed => exact owes.turn (turn_of_step sound stepped)
  | enter | go | halt | release => exact owes.aside change (fun same => by cases same)

private theorem Owes.run {queue : Queue α} {target done needed : Nat} (owes : queue.Owes target done needed)
    (sound : queue.Sound) (events : List (Event α)) :
    (queue.run events).1.Owes target (done + (finished (queue.run events).2).length) (needed - queue.turns events) := by
  induction events generalizing queue done needed with
  | nil => exact owes
  | cons event rest ih =>
    have later := ih (owes.happens sound event) (sound_change sound (change_happens sound event))
    rw [Nat.add_assoc, Nat.sub_sub, ← List.length_append, ← finished_append] at later
    exact later

private theorem owes_admitted {events : List (Event α)} {needed : Nat} (admitted : (after events).Admitted)
    (enough : (after events).effort ≤ needed) :
    (after events).Owes (taken (history events)).length (finished (history events)).length needed := by
  refine .inr ⟨_, [], (List.append_nil _).symm, enough, fun work listed => admitted.1 work ?_, admitted.2, ?_⟩
  · obtain ⟨item, waits, same⟩ := List.mem_filterMap.mp listed
    cases item with
    | work task =>
      cases same
      exact waits
    | marker => contradiction
  · refine Nat.le_of_eq ?_
    rw [order_history, begun_history, List.length_append, List.length_append]

/-- What has been accepted ends after so many turns of the worker, whatever else happens meanwhile. -/
theorem finished_of_turns {events later : List (Event α)} (admitted : (after events).Admitted)
    (enough : (after events).effort ≤ (after events).turns later) :
    taken (history events) <+: finished (history (events ++ later)) := by
  have paid := (owes_admitted admitted enough).run (sound_after events) later
  rw [Nat.sub_self] at paid
  refine finished_of_length ?_
  rw [history_append, finished_append, List.length_append]
  exact paid.paid

/-- What has been accepted has ended by the time that the worker rests, if no caller keeps it. -/
theorem finished_at_rest {events later : List (Event α)} (admitted : (after events).Admitted)
    (rests : (after (events ++ later)).step = none) (free : (after (events ++ later)).barred = false) :
    taken (history events) <+: finished (history (events ++ later)) := by
  have owes := (owes_admitted admitted (Nat.le_refl _)).run (sound_after events) later
  refine finished_of_length ?_
  rw [after_append] at rests free
  rw [history_append, finished_append, List.length_append]
  exact owes.rests (sound_run (sound_after events) later) rests free

/-- When no caller has the lock, every turn counts. -/
theorem Unheld.turns {queue : Queue α} (unheld : queue.Unheld) (sound : queue.Sound) (count : Nat) :
    queue.turns (List.replicate count .turn) = count := by
  induction count generalizing queue with
  | zero => rfl
  | succ count ih =>
    simp only [List.replicate_succ, Queue.turns, unheld.barred, Bool.false_eq_true, if_false]
    have change := change_happens sound .turn
    have still : (queue.happens .turn).1.Unheld := by
      cases stepped : queue.step with
      | none => simpa only [happens, stepped, Option.getD_none] using unheld
      | some next => simpa only [happens, stepped, Option.getD_some] using unheld.turn (turn_of_step sound stepped)
    rw [ih still (sound_change sound change), Nat.add_comm]

/-- What has been accepted ends when the caller that has the lock has gone on twice, and then the worker often enough. -/
theorem finished_of_replicate {events : List (Event α)} (admitted : (after events).Admitted) {count : Nat}
    (enough : (after events).effort ≤ count) :
    taken (history events) <+: finished (history (events ++ .go :: .go :: List.replicate count .turn)) := by
  refine finished_of_turns admitted ?_
  have sound := sound_after events
  have counted := (unheld_run sound).turns (sound_run sound [.go, .go]) count
  have same : (after events).turns (.go :: .go :: List.replicate count .turn) = count := by
    simpa [Queue.turns, run] using counted
  rwa [same]

/-- The worker is let go on by turns. -/
theorem settle_turns (queue : Queue α) : ∃ count, queue.settle = (queue.run (List.replicate count .turn)).1 := by
  fun_induction settle queue with
  | case1 queue rests => exact ⟨0, rfl⟩
  | case2 queue next occurred stepped ih =>
    obtain ⟨count, same⟩ := ih
    refine ⟨count + 1, ?_⟩
    rw [same, List.replicate_succ, run]
    simp only [happens, stepped, Option.getD_some]

theorem settle_rests (queue : Queue α) : queue.settle.step = none := by
  fun_induction settle queue with
  | case1 queue rests => exact rests
  | case2 queue next occurred stepped ih => exact ih

theorem settle_unheld {queue : Queue α} (sound : queue.Sound) (unheld : queue.Unheld) : queue.settle.Unheld := by
  fun_induction settle queue with
  | case1 queue rests => exact unheld
  | case2 queue next occurred stepped ih =>
    have turn := turn_of_step sound stepped
    exact ih (sound_turn sound turn) (unheld.turn turn)

def draining (count : Nat) : List (Event α) := [.enter .drain, .go, .go] ++ List.replicate count .turn

/-- A call that closes the queue and shuts the executor down, and then some turns of the worker. -/
def stopping (count : Nat) : List (Event α) := [.enter .shutdown, .go, .go, .halt] ++ List.replicate count .turn

private theorem run_draining {queue : Queue α} (sound : queue.Sound) (lock : queue.lock = .free)
    (live : queue.closed = false)
    (count : Nat) : queue.run (draining count) =
      (((queue.acted .drain).run (List.replicate count .turn)).1,
        .answered .drain .done :: ((queue.acted .drain).run (List.replicate count .turn)).2) := by
  rw [draining, run_append, run_call_open sound lock live]
  rfl

theorem run_stopping {queue : Queue α} (sound : queue.Sound) (lock : queue.lock = .free) (live : queue.closed = false)
    (count : Nat) : queue.run (stopping count) =
      (((queue.acted .shutdown).halt.run (List.replicate count .turn)).1,
        .answered .shutdown .done :: ((queue.acted .shutdown).halt.run (List.replicate count .turn)).2) := by
  have called : queue.run [.enter .shutdown, .go, .go, .halt] =
      ((queue.acted .shutdown).halt, [.answered .shutdown .done]) := by
    rw [show ([.enter .shutdown, .go, .go, .halt] : List (Event α)) = [.enter .shutdown, .go, .go] ++ [.halt] from rfl,
      run_append, run_call_open sound lock live]
    rfl
  rw [stopping, run_append, called]
  rfl

theorem settle_draining {queue : Queue α} (sound : queue.Sound) (lock : queue.lock = .free)
    (live : queue.closed = false) : ∃ count, (queue.run (draining count)).1 = (queue.acted .drain).settle := by
  obtain ⟨count, same⟩ := settle_turns (queue.acted .drain)
  exact ⟨count, by rw [run_draining sound lock live, same]⟩

theorem settle_stopping {queue : Queue α} (sound : queue.Sound) (lock : queue.lock = .free)
    (live : queue.closed = false) : ∃ count, (queue.run (stopping count)).1 = (queue.acted .shutdown).halt.settle := by
  obtain ⟨count, same⟩ := settle_turns (queue.acted .shutdown).halt
  exact ⟨count, by rw [run_stopping sound lock live, same]⟩

/-- What a shutdown leaves for the rest of a queue's life. -/
structure Closed (events later : List (Event α)) : Prop where
  closed : (after events).closed = true
  taken : taken (history (events ++ later)) = taken (history events)
  /-- Whoever finds the lock free gets its answer, and nothing changes. -/
  called (lock : (after events).lock = .free) (operation : Operation α) :
    (after events).run [.enter operation, .go, .go] = (after events, [.answered operation (decline operation)])
  /-- So does whoever has the lock. -/
  caller {operation : Operation α} {passed : Bool} (lock : (after events).lock = .caller operation passed) :
    (after events).happens .go = ({ after events with lock := .free }, [.answered operation (decline operation)])
  /-- A task that submits another is refused, and does about it what it is made to do. -/
  task {work child : Work α} {remedy : Remedy} {left : List (Deed α)} {passed : Bool}
    (worker : (after events).worker = .submitting work child remedy left passed) :
    (after events).happens .turn =
      (({ after events with lock := .free }.refuse work child remedy left .queueClosed).1,
        .answered (.submit child) (.refused .queueClosed) ::
          ({ after events with lock := .free }.refuse work child remedy left .queueClosed).2)
  shutdown (lock : (after events).lock = .free) (wait : Bool) : (after events).shutdown wait = (after events, .now ())

/-- What holds of a queue after any events, and whatever happens later. -/
structure Serving (events later : List (Event α)) : Prop where
  /-- All that is accepted begins once, in the order of acceptance, or still waits in that order. -/
  order : taken (history events) = begun (history events) ++ Item.works (after events).waiting
  /-- All that has begun has ended, but for the task at work. -/
  begun : begun (history events) = finished (history events) ++ (after events).worker.task.toList
  /-- No two tasks overlap. -/
  apart : Alternates none (history events) (after events).worker.task
  labels : (Occurrence.begun (history events)).map Work.label =
    Work.Mark.labels (after events).marks ++ (after events).worker.unmarked
  /-- The errors of tasks are logged, other failures are kept, and neither keeps the rest from all this. -/
  failed : (after events).logged = (failures (history events)).filterMap Failure.logged ∧
    (after events).kept = (failures (history events)).filterMap Failure.passed
  /-- With open gates, all that has been accepted ends, whatever else happens meanwhile. -/
  ends (admitted : (after events).Admitted) (enough : (after events).effort ≤ (after events).turns later) :
    taken (history events) <+: finished (history (events ++ later))
  /-- The worker gets all the turns that it needs when nobody takes the lock any more. -/
  alone (admitted : (after events).Admitted) {count : Nat} (enough : (after events).effort ≤ count) :
    taken (history events) <+: finished (history (events ++ .go :: .go :: List.replicate count .turn))
  /-- Nobody keeps the lock. -/
  free : ∃ steps, steps.length ≤ 2 ∧ (∀ step ∈ steps, step = .go ∨ step = .turn) ∧ (after (events ++ steps)).lock = .free
  /-- The executor is shut down only behind a closed queue. -/
  down : (after events).down = true → (after events).closed = true
  /-- An open queue accepts. -/
  accepts (lock : (after events).lock = .free) (live : (after events).closed = false) (operation : Operation α) :
    (after events).run [.enter operation, .go, .go] = ((after events).acted operation, [.answered operation .done])
  /-- Who has found the queue open is accepted, for nobody can close it or shut the executor down meanwhile. -/
  passed {operation : Operation α} (lock : (after events).lock = .caller operation true) :
    ((after events).happens .go).2 = [.answered operation .done]
  handed {work child : Work α} {remedy : Remedy} {left : List (Deed α)}
    (worker : (after events).worker = .submitting work child remedy left true) :
    ((after events).happens .turn).2 = [.answered (.submit child) .done]
  /-- Only a submission is ever refused, with one error, and only by a closed queue. -/
  refused {operation : Operation α} {error : Error}
    (listed : .answered operation (.refused error) ∈ history events) :
    error = .queueClosed ∧ error.kind = .illegalState ∧ (after events).closed = true ∧ ∃ work, operation = .submit work
  stopped {answer : Verdict} (listed : .answered .shutdown answer ∈ history events) : Closed events later
  /-- Calls are runs. -/
  submits (lock : (after events).lock = .free) (work : Work α) :
    ((after events).submit work).1 = after (events ++ [.enter (.submit work), .go, .go])
  drains (lock : (after events).lock = .free) (live : (after events).closed = false) (limited : Bool) : ∃ count,
    ((after events).drain limited).1 = after (events ++ draining count)
  shuts (lock : (after events).lock = .free) (live : (after events).closed = false) (wait : Bool) : ∃ count,
    ((after events).shutdown wait).1 = after (events ++ stopping count)

private theorem closed_of_shut {events : List (Event α)} (shut : (after events).closed = true)
    (later : List (Event α)) :
    Closed events later where
  closed := shut
  taken := by
    rw [history_append, taken_append, ((serves_later events later).closed shut).2, List.append_nil]
  called lock operation := run_call_closed lock shut operation
  caller {operation passed} lock := by
    cases passed with
    | true => exact absurd shut (by simp [(sound_after events).caller _ lock])
    | false => exact go_closed shut lock
  task {work child remedy left passed} worker := by
    cases passed with
    | true => exact absurd shut (by simp [(sound_after events).submitting _ _ _ _ worker])
    | false => simp only [happens, step_closed shut worker, Option.getD_some]
  shutdown lock wait := shutdown_closed lock shut wait

/-- A queue runs what it accepts, whatever happens to it: once, in the order of acceptance, one task at a time,
and all of it once the gates are open. It accepts all until it is shut down, and nothing afterwards. -/
theorem run_serves (events later : List (Event α)) : Serving events later := by
  have sound := sound_after events
  have served := serves_history events
  exact {
    order := order_history events
    begun := begun_history events
    apart := served.apart
    labels := by
      obtain ⟨marks, grown, same⟩ := served.marked
      rw [grown]
      exact same
    failed := served.failed
    ends := finished_of_turns
    alone := fun admitted _ enough => finished_of_replicate admitted enough
    free := by
      obtain ⟨steps, short, kinds, freed⟩ := lock_let_go sound
      exact ⟨steps, short, kinds, by rwa [after_append]⟩
    down := fun down => by rw [sound.closed, down, Bool.true_or]
    accepts := fun lock live operation => run_call_open sound lock live operation
    passed := fun lock => by simp only [happens, go_passed sound lock]
    handed := fun worker => by simp only [happens, step_passed sound worker, Option.getD_some]
    refused := fun listed => by
      obtain ⟨rfl, shut, work⟩ := served.refused _ _ listed
      exact ⟨rfl, rfl, shut, work⟩
    stopped := fun listed => closed_of_shut (served.stopped _ listed) later
    submits := fun lock work => by
      rw [after_append]
      cases closed : (after events).closed with
      | true => rw [submit_closed lock closed, run_call_closed lock closed]
      | false =>
        rw [submit_open sound lock closed, run_call_open sound lock closed]
        rfl
    drains := fun lock live limited => by
      obtain ⟨count, same⟩ := settle_draining sound lock live
      exact ⟨count, by rw [after_append, same, drain_open sound lock live]; rfl⟩
    shuts := fun lock live wait => by
      rw [shutdown_open sound lock live]
      cases wait with
      | false => exact ⟨0, by rw [after_append, run_stopping sound lock live]; rfl⟩
      | true =>
        obtain ⟨count, same⟩ := settle_stopping sound lock live
        exact ⟨count, by rw [after_append, same]; rfl⟩ }

end Pubsub.Queue
