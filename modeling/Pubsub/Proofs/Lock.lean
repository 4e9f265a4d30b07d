import Pubsub.Work.Queue

/-! The lock of a queue. Who has it looks at the flag before it acts, so that nobody closes a queue which another has
found open; and the executor is shut down by the call that closed the queue. Hence all that can become of a queue in
one step is known, and an operation that found the queue open is never refused by the executor. -/

namespace Pubsub

variable {α : Type}

def Operation.items : Operation α → List (Item α)
  | .submit work => [.work work]
  | .drain => [.marker]
  | .shutdown => []

def Worker.locks : Worker α → Bool
  | .submitting _ _ _ _ _ => true
  | _ => false

namespace Queue

/-- What is always so between the flag, the executor and the lock. -/
structure Sound (queue : Queue α) : Prop where
  /-- The queue is closed before its executor is shut down, by the same call. -/
  closed : queue.closed = (queue.down || queue.halting)
  worker : queue.lock = .worker ↔ queue.worker.locks = true
  /-- Nobody closes a queue while another that found it open has the lock. -/
  caller : ∀ operation, queue.lock = .caller operation true → queue.closed = false
  submitting : ∀ work child remedy left, queue.worker = .submitting work child remedy left true → queue.closed = false

theorem sound_of_free {queue : Queue α} (closed : queue.closed = (queue.down || queue.halting)) (lock : queue.lock = .free)
    (worker : queue.worker.locks = false) : queue.Sound where
  closed := closed
  worker := by simp [lock, worker]
  caller := by simp [lock]
  submitting := by
    intro work child remedy left held
    rw [held] at worker
    contradiction

theorem sound_new (waiting : List (Item α)) : Sound ({ waiting } : Queue α) := sound_of_free rfl rfl rfl

theorem Sound.down {queue : Queue α} (sound : queue.Sound) (live : queue.closed = false) : queue.down = false := by
  have closed := sound.closed
  rw [live] at closed
  exact (Bool.or_eq_false_iff.mp closed.symm).1

def acted (queue : Queue α) : Operation α → Queue α
  | .submit work => { queue with waiting := queue.waiting ++ [.work work] }
  | .drain => { queue with waiting := queue.waiting ++ [.marker] }
  | .shutdown => { queue with closed := true, halting := true }

theorem acted_waiting (queue : Queue α) (operation : Operation α) :
    (queue.acted operation).waiting = queue.waiting ++ operation.items := by
  cases operation with
  | submit | drain => rfl
  | shutdown => exact (List.append_nil _).symm

theorem acted_worker (queue : Queue α) (operation : Operation α) : (queue.acted operation).worker = queue.worker := by
  cases operation <;> rfl

theorem acted_gates (queue : Queue α) (operation : Operation α) : (queue.acted operation).gates = queue.gates := by
  cases operation <;> rfl

private theorem act_eq {queue : Queue α} (sound : queue.Sound) (live : queue.closed = false) (operation : Operation α) :
    queue.act operation = .ok (queue.acted operation) := by
  cases operation <;> simp [act, execute, acted, sound.down live]

private theorem proceed_passed {queue : Queue α} (sound : queue.Sound) (live : queue.closed = false)
    (operation : Operation α) :
    queue.proceed operation true = (queue.acted operation, some .done) := by
  simp only [proceed, act_eq sound live, if_true]

private theorem proceed_open {queue : Queue α} (live : queue.closed = false) (operation : Operation α) :
    queue.proceed operation false = (queue, none) := by
  simp [proceed, live]

private theorem proceed_closed {queue : Queue α} (shut : queue.closed = true) (operation : Operation α) :
    queue.proceed operation false = (queue, some (decline operation)) := by
  simp [proceed, shut]

inductive Turn (queue : Queue α) : List (Occurrence α) → Queue α → Prop
  | skip {rest : List (Item α)} (worker : queue.worker = .idle) (waiting : queue.waiting = .marker :: rest) :
    Turn queue [] { queue with waiting := rest }
  | begin {work : Work α} {rest : List (Item α)} (worker : queue.worker = .idle) (waiting : queue.waiting = .work work :: rest) :
    Turn queue [.began work] { queue with waiting := rest, worker := .starting work }
  | leave {work : Work α} (worker : queue.worker = .starting work) (admits : work.gate.all queue.gates.contains = true) :
    Turn queue [] { queue with marks := queue.marks ++ [.ran work.label], worker := .running work work.deeds }
  | pass {work : Work α} {gate : Text} {left : List (Deed α)} (worker : queue.worker = .running work (.wait gate :: left))
    (admits : queue.gates.contains gate = true) : Turn queue [] { queue with worker := .running work left }
  | finish {work : Work α} {left : List (Deed α)} {failure : Option Failure} (worker : queue.worker = .running work left)
    (stops : left = [] ∧ failure = none ∨ ∃ rest reason, left = .fail reason :: rest ∧ failure = some reason) :
    Turn queue (queue.finish work failure).2 (queue.finish work failure).1
  | acquire {work child : Work α} {remedy : Remedy} {left : List (Deed α)}
    (worker : queue.worker = .running work (.submit child remedy :: left)) (lock : queue.lock = .free) :
    Turn queue [] { queue with lock := .worker, worker := .submitting work child remedy left false }
  | look {work child : Work α} {remedy : Remedy} {left : List (Deed α)}
    (worker : queue.worker = .submitting work child remedy left false) (live : queue.closed = false) :
    Turn queue [] { queue with worker := .submitting work child remedy left true }
  | refuse {work child : Work α} {remedy : Remedy} {left : List (Deed α)}
    (worker : queue.worker = .submitting work child remedy left false) (shut : queue.closed = true) :
    Turn queue
      (.answered (.submit child) (.refused .queueClosed) ::
        ({ queue with lock := .free }.refuse work child remedy left .queueClosed).2)
      ({ queue with lock := .free }.refuse work child remedy left .queueClosed).1
  | hand {work child : Work α} {remedy : Remedy} {left : List (Deed α)}
    (worker : queue.worker = .submitting work child remedy left true) (live : queue.closed = false) :
    Turn queue [.answered (.submit child) .done]
      { queue with waiting := queue.waiting ++ [.work child], lock := .free, worker := .running work left }

theorem step_passed {queue : Queue α} (sound : queue.Sound) {work child : Work α} {remedy : Remedy} {left : List (Deed α)}
    (worker : queue.worker = .submitting work child remedy left true) :
    queue.step = some
      ({ queue with waiting := queue.waiting ++ [.work child], lock := .free, worker := .running work left },
        [.answered (.submit child) .done]) := by
  simp only [step, worker, proceed_passed sound (sound.submitting _ _ _ _ worker), acted]

theorem step_closed {queue : Queue α} (shut : queue.closed = true) {work child : Work α} {remedy : Remedy}
    {left : List (Deed α)} (worker : queue.worker = .submitting work child remedy left false) :
    queue.step = some
      (({ queue with lock := .free }.refuse work child remedy left .queueClosed).1,
        .answered (.submit child) (.refused .queueClosed) ::
          ({ queue with lock := .free }.refuse work child remedy left .queueClosed).2) := by
  simp only [step, worker, proceed_closed shut, decline]

private theorem step_open {queue : Queue α} (live : queue.closed = false) {work child : Work α} {remedy : Remedy}
    {left : List (Deed α)} (worker : queue.worker = .submitting work child remedy left false) :
    queue.step = some ({ queue with worker := .submitting work child remedy left true }, []) := by
  simp only [step, worker, proceed_open live]

theorem turn_of_step {queue next : Queue α} {occurred : List (Occurrence α)} (sound : queue.Sound)
    (stepped : queue.step = some (next, occurred)) : Turn queue occurred next := by
  cases worker : queue.worker with
  | idle =>
    cases waiting : queue.waiting with
    | nil => simp [step, worker, waiting] at stepped
    | cons item rest =>
      cases item <;> simp only [step, worker, waiting] at stepped <;> cases stepped
      · exact .begin worker waiting
      · simpa only [worker] using Turn.skip worker waiting
  | starting work =>
    simp only [step, worker] at stepped
    split at stepped <;> cases stepped
    next admits => exact .leave worker admits
  | running work left =>
    simp only [step, worker] at stepped
    split at stepped
    · contradiction
    · contradiction
    next same =>
      cases same
      cases stepped
      exact .finish worker (.inl ⟨rfl, rfl⟩)
    next same =>
      cases same
      cases stepped
      exact .finish worker (.inr ⟨_, _, rfl, rfl⟩)
    next same =>
      cases same
      split at stepped <;> cases stepped
      next admits => exact .pass worker admits
    next same =>
      cases same
      split at stepped <;> cases stepped
      next lock => exact .acquire worker lock
    · contradiction
  | submitting work child remedy left passed =>
    cases passed with
    | true =>
      rw [step_passed sound worker] at stepped
      cases stepped
      exact .hand worker (sound.submitting _ _ _ _ worker)
    | false =>
      cases closed : queue.closed with
      | true =>
        rw [step_closed closed worker] at stepped
        cases stepped
        exact .refuse worker closed
      | false =>
        rw [step_open closed worker] at stepped
        cases stepped
        exact .look worker closed

def Unheld (queue : Queue α) : Prop :=
  ∀ operation passed, queue.lock ≠ .caller operation passed

inductive Change (queue : Queue α) : Event α → List (Occurrence α) → Queue α → Prop
  | enter {operation : Operation α} (lock : queue.lock = .free) :
    Change queue (.enter operation) [] { queue with lock := .caller operation false }
  | look {operation : Operation α} (lock : queue.lock = .caller operation false) (live : queue.closed = false) :
    Change queue .go [] { queue with lock := .caller operation true }
  | decline {operation : Operation α} (lock : queue.lock = .caller operation false) (shut : queue.closed = true) :
    Change queue .go [.answered operation (decline operation)] { queue with lock := .free }
  | act {operation : Operation α} (lock : queue.lock = .caller operation true) (live : queue.closed = false) :
    Change queue .go [.answered operation .done] { queue.acted operation with lock := .free }
  | halt (halting : queue.halting = true) : Change queue .halt [] { queue with down := true, halting := false }
  | release {gate : Text} : Change queue (.release gate) [] { queue with gates := gate :: queue.gates }
  | turn {occurred : List (Occurrence α)} {next : Queue α} (turn : Turn queue occurred next) : Change queue .turn occurred next
  /-- Without the lock, or with nothing to do, nothing happens. -/
  | idle {event : Event α} (unheld : event = .go → queue.Unheld) (rests : event = .turn → queue.step = none) :
    Change queue event [] queue

theorem go_passed {queue : Queue α} (sound : queue.Sound) {operation : Operation α}
    (lock : queue.lock = .caller operation true) :
    queue.go = ({ queue.acted operation with lock := .free }, [.answered operation .done]) := by
  simp only [go, lock, proceed_passed sound (sound.caller _ lock)]

theorem go_closed {queue : Queue α} (shut : queue.closed = true) {operation : Operation α}
    (lock : queue.lock = .caller operation false) :
    queue.go = ({ queue with lock := .free }, [.answered operation (decline operation)]) := by
  simp only [go, lock, proceed_closed shut]

private theorem go_open {queue : Queue α} (live : queue.closed = false) {operation : Operation α}
    (lock : queue.lock = .caller operation false) :
    queue.go = ({ queue with lock := .caller operation true }, []) := by
  simp only [go, lock, proceed_open live]

theorem change_happens {queue : Queue α} (sound : queue.Sound) (event : Event α) :
    Change queue event (queue.happens event).2 (queue.happens event).1 := by
  cases event with
  | enter operation =>
    have idle : Change queue (.enter operation) [] queue := .idle nofun nofun
    cases lock : queue.lock with
    | free => simpa only [happens, lock] using Change.enter lock
    | worker | caller => simpa only [happens, lock] using idle
  | go =>
    cases lock : queue.lock with
    | caller operation passed =>
      cases passed with
      | true => simpa only [happens, go_passed sound lock] using Change.act lock (sound.caller _ lock)
      | false =>
        cases closed : queue.closed with
        | true => simpa only [happens, go_closed closed lock] using Change.decline lock closed
        | false => simpa only [happens, go_open closed lock] using Change.look lock closed
    | free | worker =>
      have idle : Change queue .go [] queue := .idle (fun _ => by simp [Unheld, lock]) nofun
      simpa only [happens, go, lock] using idle
  | halt =>
    have idle : Change queue .halt [] queue := .idle nofun nofun
    cases halting : queue.halting with
    | true => simpa only [happens, Queue.halt, halting, if_true] using Change.halt halting
    | false => simpa only [happens, Queue.halt, halting, Bool.false_eq_true, if_false] using idle
  | release gate => exact .release
  | turn =>
    cases stepped : queue.step with
    | none =>
      have idle : Change queue .turn [] queue := .idle nofun fun _ => stepped
      simpa only [happens, stepped, Option.getD_none] using idle
    | some next => simpa only [happens, stepped, Option.getD_some] using Change.turn (turn_of_step sound stepped)

theorem sound_turn {queue next : Queue α} {occurred : List (Occurrence α)} (sound : queue.Sound)
    (turn : Turn queue occurred next) : next.Sound := by
  obtain ⟨closed, locked, caller, submitting⟩ := sound
  cases turn with
  | skip worker waiting => exact ⟨closed, locked, caller, submitting⟩
  | begin worker waiting => exact ⟨closed, by simpa [worker, Worker.locks] using locked, caller, by simp⟩
  | leave worker => exact ⟨closed, by simpa [worker, Worker.locks] using locked, caller, by simp⟩
  | pass worker => exact ⟨closed, by simpa [worker, Worker.locks] using locked, caller, by simp⟩
  | finish worker => exact ⟨closed, by simpa [worker, finish, Worker.locks] using locked, caller, by simp [finish]⟩
  | acquire worker lock => exact ⟨closed, ⟨fun _ => rfl, fun _ => rfl⟩, by simp, by simp⟩
  | look worker live => exact ⟨closed, by simpa [worker, Worker.locks] using locked, caller, fun _ _ _ _ _ => live⟩
  | @refuse work child remedy left worker shut => cases remedy <;> exact sound_of_free closed rfl rfl
  | hand worker live => exact sound_of_free closed rfl rfl

theorem sound_change {queue next : Queue α} {event : Event α} {occurred : List (Occurrence α)} (sound : queue.Sound)
    (change : Change queue event occurred next) : next.Sound := by
  obtain ⟨closed, locked, caller, submitting⟩ := id sound
  cases change with
  | enter lock => exact ⟨closed, by simpa [lock] using locked, by simp, submitting⟩
  | look lock live => exact ⟨closed, by simpa [lock] using locked, fun _ _ => live, submitting⟩
  | decline lock shut => exact ⟨closed, by simpa [lock] using locked, by simp, submitting⟩
  | @act operation lock live =>
    have away : queue.worker.locks = false := by simpa [lock] using locked
    rw [← acted_worker queue operation] at away
    refine ⟨?_, by simp [away], by simp, fun _ _ _ _ worker => ?_⟩
    · cases operation <;> simp [acted, closed]
    · rw [show (queue.acted operation).worker = _ from worker] at away
      contradiction
  | halt halting => exact ⟨by simp [closed, halting], locked, caller, submitting⟩
  | release => exact ⟨closed, locked, caller, submitting⟩
  | turn turn => exact sound_turn sound turn
  | idle => exact sound

theorem sound_run {queue : Queue α} (sound : queue.Sound) (events : List (Event α)) : (queue.run events).1.Sound := by
  induction events generalizing queue with
  | nil => exact sound
  | cons event rest ih => exact ih (sound_change sound (change_happens sound event))

private theorem go_unheld {queue : Queue α} (unheld : queue.Unheld) : queue.go = (queue, []) := by
  cases lock : queue.lock with
  | free | worker => simp only [go, lock]
  | caller operation passed => exact absurd lock (unheld operation passed)

/-- A caller that has the lock is through with it when it has gone on twice. -/
theorem unheld_run {queue : Queue α} (sound : queue.Sound) : (queue.run [.go, .go]).1.Unheld := by
  show queue.go.1.go.1.Unheld
  have let_go {queue : Queue α} (freed : queue.lock = .free) : queue.go.1.Unheld := by
    have unheld : queue.Unheld := by simp [Unheld, freed]
    rwa [go_unheld unheld]
  cases lock : queue.lock with
  | free | worker =>
    have unheld : queue.Unheld := by simp [Unheld, lock]
    rwa [go_unheld unheld, go_unheld unheld]
  | caller operation passed =>
    cases passed with
    | true =>
      rw [go_passed sound lock]
      exact let_go rfl
    | false =>
      cases closed : queue.closed with
      | true =>
        rw [go_closed closed lock]
        exact let_go rfl
      | false =>
        have looked := sound_change sound (.look lock closed)
        rw [go_open closed lock, go_passed looked rfl]
        simp [Unheld]

theorem Unheld.turn {queue next : Queue α} {occurred : List (Occurrence α)} (unheld : queue.Unheld)
    (turn : Turn queue occurred next) : next.Unheld := by
  cases turn with
  | skip | begin | leave | pass | finish | look => exact unheld
  | acquire | hand => simp [Unheld]
  | @refuse _ _ remedy => cases remedy <;> simp [Unheld, refuse, finish]

/-- The worker waits until a caller lets go of the lock. -/
def barred (queue : Queue α) : Bool :=
  match queue.worker, queue.lock with
  | .running _ (.submit _ _ :: _), .caller _ _ => true
  | _, _ => false

theorem Unheld.barred {queue : Queue α} (unheld : queue.Unheld) : queue.barred = false := by
  unfold Queue.barred
  split
  next lock => exact absurd lock (unheld _ _)
  · rfl

/-- Whoever has the lock lets go of it after two steps at most. -/
theorem lock_let_go {queue : Queue α} (sound : queue.Sound) :
    ∃ steps, steps.length ≤ 2 ∧ (∀ step ∈ steps, step = .go ∨ step = .turn) ∧ (queue.run steps).1.lock = .free := by
  cases lock : queue.lock with
  | free => exact ⟨[], by simp, by simp, lock⟩
  | caller operation passed =>
    have once (freed : queue.go.1.lock = .free) : (queue.run [.go]).1.lock = .free := freed
    cases passed with
    | true => exact ⟨[.go], by simp, by simp, once (by rw [go_passed sound lock])⟩
    | false =>
      cases closed : queue.closed with
      | true => exact ⟨[.go], by simp, by simp, once (by rw [go_closed closed lock])⟩
      | false =>
        refine ⟨[.go, .go], by simp, by simp, ?_⟩
        have looked := sound_change sound (.look lock closed)
        show queue.go.1.go.1.lock = .free
        rw [go_open closed lock, go_passed looked rfl]
  | worker =>
    have locks := sound.worker.mp lock
    cases worker : queue.worker with
    | idle | starting | running =>
      rw [worker] at locks
      contradiction
    | submitting work child remedy left passed =>
      cases passed with
      | true => exact ⟨[.turn], by simp, by simp, by simp [run, happens, step_passed sound worker]⟩
      | false =>
        cases closed : queue.closed with
        | true =>
          refine ⟨[.turn], by simp, by simp, ?_⟩
          cases remedy <;> simp [run, happens, step_closed closed worker, refuse, finish]
        | false =>
          have looked := sound_turn sound (.look worker closed)
          refine ⟨[.turn, .turn], by simp, by simp, ?_⟩
          simp [run, happens, step_open closed worker, step_passed looked rfl]

/-- A caller that finds the lock free and the queue open goes through with its operation. -/
theorem run_call_open {queue : Queue α} (sound : queue.Sound) (lock : queue.lock = .free) (live : queue.closed = false)
    (operation : Operation α) :
    queue.run [.enter operation, .go, .go] = (queue.acted operation, [.answered operation .done]) := by
  obtain ⟨waiting, down, worker, _, closed, halting, gates, marks, logged, kept⟩ := queue
  cases lock
  cases live
  cases sound.down rfl
  cases operation <;> rfl

theorem run_call_closed {queue : Queue α} (lock : queue.lock = .free) (shut : queue.closed = true)
    (operation : Operation α) :
    queue.run [.enter operation, .go, .go] = (queue, [.answered operation (decline operation)]) := by
  obtain ⟨waiting, down, worker, _, closed, halting, gates, marks, logged, kept⟩ := queue
  cases lock
  cases shut
  rfl

private theorem call_open {queue : Queue α} (sound : queue.Sound) (lock : queue.lock = .free)
    (live : queue.closed = false)
    (operation : Operation α) : queue.call operation = (queue.acted operation, .now .done) := by
  simp only [call, lock, run_call_open sound lock live]

theorem submit_open {queue : Queue α} (sound : queue.Sound) (lock : queue.lock = .free) (live : queue.closed = false)
    (work : Work α) : queue.submit work = ({ queue with waiting := queue.waiting ++ [.work work] }, .now ()) := by
  simp only [submit, call_open sound lock live, acted]

theorem submit_closed {queue : Queue α} (lock : queue.lock = .free) (shut : queue.closed = true) (work : Work α) :
    queue.submit work = (queue, .failed .queueClosed) := by
  simp only [submit, call, lock, run_call_closed lock shut, decline]

theorem drain_open {queue : Queue α} (sound : queue.Sound) (lock : queue.lock = .free) (live : queue.closed = false)
    (limited : Bool) :
    queue.drain limited =
      let settled := Queue.settle { queue with waiting := queue.waiting ++ [.marker] }
      (settled, if !settled.marked then .now true else if limited then .now false else .stuck) := by
  simp only [drain, call_open sound lock live, acted]

theorem drain_closed {queue : Queue α} (lock : queue.lock = .free) (shut : queue.closed = true) (limited : Bool) :
    queue.drain limited = (queue, .now true) := by
  simp only [drain, call, lock, run_call_closed lock shut, decline]

theorem shutdown_open {queue : Queue α} (sound : queue.Sound) (lock : queue.lock = .free) (live : queue.closed = false)
    (wait : Bool) :
    queue.shutdown wait =
      let down : Queue α := { queue with closed := true, down := true, halting := false }
      if wait then (down.settle, if down.settle.done then .now () else .stuck) else (down, .now ()) := by
  simp only [shutdown, call_open sound lock live, acted, halt, if_true]

theorem shutdown_closed {queue : Queue α} (lock : queue.lock = .free) (shut : queue.closed = true) (wait : Bool) :
    queue.shutdown wait = (queue, .now ()) := by
  simp only [shutdown, call, lock, run_call_closed lock shut, decline]

end Queue
end Pubsub
