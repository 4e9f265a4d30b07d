import Pubsub.Error
import Pubsub.Work.Basic

/-! A queue of work: a lock and a flag around an executor, which has one worker and takes its items in the order
of their submission. Callers and the worker take small steps, in any order; an operation looks at the flag and
acts on the executor while it has the lock. A closed queue accepts nothing, but finishes what it has. -/

namespace Pubsub

variable {α : Type}

/-- A marker is work of no effect: whoever waits for it waits for all that was submitted before. -/
inductive Item (α : Type) where
  | work (work : Work α)
  | marker

/-- What a queue can be asked for. A drain puts its marker and a shutdown closes the queue; both may wait then, but
without the lock. -/
inductive Operation (α : Type) where
  | submit (work : Work α)
  | drain
  | shutdown

/-- What an operation came to when it leaves the lock. A drain or a shutdown of a closed queue has nothing to do. -/
inductive Verdict where
  | done
  | needless
  | refused (error : Error)

inductive Lock (α : Type) where
  | free
  /-- The worker has it, for the task that it runs. -/
  | worker
  /-- A caller has it, and may have found the queue open already. -/
  | caller (operation : Operation α) (passed : Bool)

inductive Worker (α : Type) where
  | idle
  /-- A task is at its gate and has done nothing. -/
  | starting (work : Work α)
  /-- A task has left its label and still has to do these. -/
  | running (work : Work α) (left : List (Deed α))
  /-- A task submits another, and may have found the queue open already. -/
  | submitting (work child : Work α) (remedy : Remedy) (left : List (Deed α)) (passed : Bool)

structure Queue (α : Type) where
  /-- What the executor has accepted and the worker has not come to. -/
  waiting : List (Item α) := []
  /-- Whether the executor is shut down. -/
  down : Bool := false
  worker : Worker α := .idle
  lock : Lock α := .free
  closed : Bool := false
  /-- Whether the call that closed the queue has still to shut the executor down. -/
  halting : Bool := false
  /-- Gates never close again. -/
  gates : List Text := []
  marks : List (Work.Mark α) := []
  /-- The errors of tasks that were logged. -/
  logged : List Text := []
  /-- The failures that went past the log and that the executor keeps. -/
  kept : List Failure := []

/-- What can be told of a step from outside. -/
inductive Occurrence (α : Type) where
  | answered (operation : Operation α) (answer : Verdict)
  | began (work : Work α)
  | ended (work : Work α) (failure : Option Failure)

def Item.effort : Item α → Nat
  | .work task => task.effort + 1
  | .marker => 1

def Item.efforts : List (Item α) → Nat
  | [] => 0
  | item :: rest => item.effort + efforts rest

theorem Item.efforts_append (first second : List (Item α)) :
    efforts (first ++ second) = efforts first + efforts second := by
  induction first with
  | nil => simp only [List.nil_append, efforts, Nat.zero_add]
  | cons item rest ih => simp only [List.cons_append, efforts, ih, Nat.add_assoc]

def Worker.effort : Worker α → Nat
  | .idle => 0
  | .starting work => work.effort
  | .running _ left => 1 + Deed.efforts left
  | .submitting _ child _ left passed => (if passed then 3 else 4) + child.effort + Deed.efforts left

namespace Queue

/-- Hands an item to the executor. -/
def execute (queue : Queue α) (item : Item α) : Except Error (Queue α) :=
  if queue.down then .error .executorDown else .ok { queue with waiting := queue.waiting ++ [item] }

/-- What an operation does to an open queue. -/
def act (queue : Queue α) : Operation α → Except Error (Queue α)
  | .submit work => queue.execute (.work work)
  | .drain => queue.execute .marker
  | .shutdown => .ok { queue with closed := true, halting := true }

/-- What becomes of an operation on a closed queue. -/
def decline : Operation α → Verdict
  | .submit _ => .refused .queueClosed
  | .drain | .shutdown => .needless

/-- One step of an operation that has the lock: it looks at the flag first, and acts then. Without an answer it goes on. -/
def proceed (queue : Queue α) (operation : Operation α) (passed : Bool) : Queue α × Option Verdict :=
  if passed then
    match queue.act operation with
    | .ok next => (next, some .done)
    | .error error => (queue, some (.refused error))
  else if queue.closed then (queue, some (decline operation))
  else (queue, none)

/-- One step of the caller that has the lock. -/
def go (queue : Queue α) : Queue α × List (Occurrence α) :=
  match queue.lock with
  | .caller operation passed =>
    match queue.proceed operation passed with
    | (next, some answer) => ({ next with lock := .free }, [.answered operation answer])
    | (next, none) => ({ next with lock := .caller operation true }, [])
  | _ => (queue, [])

/-- Ends a task. An error is logged, and no failure keeps the worker from the next task. -/
def finish (queue : Queue α) (work : Work α) (failure : Option Failure) : Queue α × List (Occurrence α) :=
  ({ queue with
      worker := .idle
      logged := queue.logged ++ (failure.bind Failure.logged).toList
      kept := queue.kept ++ (failure.bind Failure.passed).toList },
    [.ended work failure])

/-- A task takes the refusal of another. -/
def refuse (queue : Queue α) (work child : Work α) (remedy : Remedy) (left : List (Deed α)) (error : Error) :
    Queue α × List (Occurrence α) :=
  let marked : Queue α := { queue with marks := queue.marks ++ [.refused child.label error] }
  match remedy with
  | .none => queue.finish work (some (.error error.message))
  | .stop => marked.finish work none
  | .goOn => ({ marked with worker := .running work left }, [])

/-- One step of the worker; none when it has nothing to do, stands at a closed gate or has to wait for the lock. -/
def step (queue : Queue α) : Option (Queue α × List (Occurrence α)) :=
  match queue.worker with
  | .idle =>
    match queue.waiting with
    | [] => none
    | .marker :: rest => some ({ queue with waiting := rest }, [])
    | .work work :: rest => some ({ queue with waiting := rest, worker := .starting work }, [.began work])
  | .starting work =>
    if work.gate.all queue.gates.contains then
      some ({ queue with marks := queue.marks ++ [.ran work.label], worker := .running work work.deeds }, [])
    else none
  | .running work [] => some (queue.finish work none)
  | .running work (.fail failure :: _) => some (queue.finish work (some failure))
  | .running work (.wait gate :: left) =>
    if queue.gates.contains gate then some ({ queue with worker := .running work left }, []) else none
  | .running work (.submit child remedy :: left) =>
    match queue.lock with
    | .free => some ({ queue with lock := .worker, worker := .submitting work child remedy left false }, [])
    | _ => none
  | .submitting work child remedy left passed =>
    match queue.proceed (.submit child) passed with
    | (next, none) => some ({ next with worker := .submitting work child remedy left true }, [])
    | (next, some (.refused error)) =>
      let (last, occurred) := { next with lock := .free }.refuse work child remedy left error
      some (last, .answered (.submit child) (.refused error) :: occurred)
    | (next, some answer) =>
      some ({ next with lock := .free, worker := .running work left }, [.answered (.submit child) answer])

def effort (queue : Queue α) : Nat :=
  Item.efforts queue.waiting + queue.worker.effort

/-- A submission goes on, is refused, or puts its task in the line. -/
theorem proceed_submit (queue : Queue α) (work : Work α) (passed : Bool) :
    (passed = false ∧ queue.closed = false ∧ queue.proceed (.submit work) passed = (queue, none)) ∨
      (∃ error, queue.proceed (.submit work) passed = (queue, some (.refused error))) ∨
      (passed = true ∧
        queue.proceed (.submit work) passed = ({ queue with waiting := queue.waiting ++ [.work work] }, some .done)) := by
  cases passed with
  | false =>
    cases closed : queue.closed with
    | true => exact .inr (.inl ⟨.queueClosed, by simp [proceed, closed, decline]⟩)
    | false => exact .inl ⟨rfl, rfl, by simp [proceed, closed]⟩
  | true =>
    cases down : queue.down with
    | true => exact .inr (.inl ⟨.executorDown, by simp [proceed, act, execute, down]⟩)
    | false => exact .inr (.inr ⟨rfl, by simp [proceed, act, execute, down]⟩)

theorem step_effort {queue next : Queue α} {occurred : List (Occurrence α)} (stepped : queue.step = some (next, occurred)) :
    next.effort < queue.effort := by
  unfold step at stepped
  split at stepped
  next worker =>
    split at stepped
    · contradiction
    all_goals
      next waiting =>
      cases stepped
      simp only [effort, worker, waiting, Item.effort, Item.efforts, Worker.effort]
      omega
  next worker =>
    split at stepped <;> cases stepped
    simp only [effort, worker, Worker.effort, Work.effort_eq]
    omega
  next worker =>
    cases stepped
    simp only [effort, worker, Worker.effort, Deed.efforts]
    omega
  next worker =>
    cases stepped
    simp only [effort, worker, Worker.effort, Deed.efforts]
    omega
  next worker =>
    split at stepped <;> cases stepped
    simp only [effort, worker, Worker.effort, Deed.efforts, Deed.effort]
    omega
  next worker =>
    split at stepped <;> cases stepped
    simp only [effort, worker, Worker.effort, Deed.efforts, Deed.effort, Bool.false_eq_true, if_false]
    omega
  next work child remedy left passed worker =>
    rcases queue.proceed_submit child passed with ⟨rfl, -, went⟩ | ⟨error, went⟩ | ⟨rfl, went⟩ <;>
      simp only [went] at stepped <;> cases stepped
    · simp only [effort, worker, Worker.effort, if_true, Bool.false_eq_true, if_false]
      omega
    · cases remedy <;> cases passed <;>
        simp only [effort, refuse, finish, worker, Worker.effort, if_true, Bool.false_eq_true, if_false] <;> omega
    · simp only [effort, worker, Worker.effort, Item.efforts_append, Item.efforts, Item.effort, if_true]
      omega

/-- Lets the worker go on until it can do nothing more. -/
def settle (queue : Queue α) : Queue α :=
  match _stepped : queue.step with
  | none => queue
  | some (next, _) => next.settle
termination_by queue.effort
decreasing_by exact step_effort _stepped

/-- What may happen to a queue. -/
inductive Event (α : Type) where
  /-- A caller gets the lock, if nobody has it. -/
  | enter (operation : Operation α)
  /-- The caller that has the lock goes on. -/
  | go
  /-- The caller that closed the queue shuts the executor down. -/
  | halt
  | release (gate : Text)
  | turn

def release (queue : Queue α) (gate : Text) : Queue α :=
  { queue with gates := gate :: queue.gates }

def halt (queue : Queue α) : Queue α :=
  if queue.halting then { queue with down := true, halting := false } else queue

def happens (queue : Queue α) : Event α → Queue α × List (Occurrence α)
  | .enter operation =>
    match queue.lock with
    | .free => ({ queue with lock := .caller operation false }, [])
    | _ => (queue, [])
  | .go => queue.go
  | .halt => (queue.halt, [])
  | .release gate => (queue.release gate, [])
  | .turn => queue.step.getD (queue, [])

/-- The queue after some events, and what could be told of them. -/
def run (queue : Queue α) : List (Event α) → Queue α × List (Occurrence α)
  | [] => (queue, [])
  | event :: rest =>
    let (next, occurred) := queue.happens event
    let (last, later) := next.run rest
    (last, occurred ++ later)

/-- What a caller gets from a call. -/
inductive Awaited (β : Type) where
  | now (value : β)
  | failed (error : Error)
  /-- The caller waits for the lock, or until a gate is opened. -/
  | stuck

/-- A caller goes through with an operation, if it finds the lock free. -/
def call (queue : Queue α) (operation : Operation α) : Queue α × Awaited Verdict :=
  match queue.lock with
  | .free =>
    match queue.run [.enter operation, .go, .go] with
    | (next, .answered _ (.refused error) :: _) => (next, .failed error)
    | (next, .answered _ answer :: _) => (next, .now answer)
    | (next, _) => (next, .stuck)
  | _ => (queue, .stuck)

def submit (queue : Queue α) (work : Work α) : Queue α × Awaited Unit :=
  match queue.call (.submit work) with
  | (next, .now _) => (next, .now ())
  | (next, .failed error) => (next, .failed error)
  | (next, .stuck) => (next, .stuck)

def done (queue : Queue α) : Bool :=
  queue.waiting.isEmpty && queue.worker matches .idle

def marked (queue : Queue α) : Bool :=
  queue.waiting.any fun item => item matches .marker

/-- Waits for a marker, behind all that was submitted. With a limit, the wait is given up at a closed gate. -/
def drain (queue : Queue α) (limited : Bool) : Queue α × Awaited Bool :=
  match queue.call .drain with
  | (next, .now .done) =>
    let settled := next.settle
    (settled, if !settled.marked then .now true else if limited then .now false else .stuck)
  | (next, .now _) => (next, .now true)
  | (next, .failed error) => (next, .failed error)
  | (next, .stuck) => (next, .stuck)

/-- Closes the queue, and may wait until all it has accepted is done. -/
def shutdown (queue : Queue α) (wait : Bool) : Queue α × Awaited Unit :=
  match queue.call .shutdown with
  | (next, .now .done) =>
    let down := next.halt
    if wait then
      let settled := down.settle
      (settled, if settled.done then .now () else .stuck)
    else (down, .now ())
  | (next, .now _) => (next, .now ())
  | (next, .failed error) => (next, .failed error)
  | (next, .stuck) => (next, .stuck)

end Queue
end Pubsub
