import Pubsub.Proofs.Lock

/-! What becomes of the work of a queue, whatever is done to the queue and in whatever order callers and worker
take their steps: what is accepted begins in the order of acceptance, one task at a time, and each task ends before
the next begins. -/

namespace Pubsub

variable {α : Type}

namespace Occurrence

/-- The tasks whose submission returned, in this order. -/
def taken (history : List (Occurrence α)) : List (Work α) :=
  history.filterMap fun
    | answered (.submit work) .done => some work
    | _ => none

def begun (history : List (Occurrence α)) : List (Work α) :=
  history.filterMap fun
    | began work => some work
    | _ => none

def finished (history : List (Occurrence α)) : List (Work α) :=
  history.filterMap fun
    | ended work _ => some work
    | _ => none

def failures (history : List (Occurrence α)) : List Failure :=
  history.filterMap fun
    | ended _ failure => failure
    | _ => none

@[simp] theorem taken_append (first second : List (Occurrence α)) : taken (first ++ second) = taken first ++ taken second :=
  List.filterMap_append

@[simp] theorem begun_append (first second : List (Occurrence α)) : begun (first ++ second) = begun first ++ begun second :=
  List.filterMap_append

@[simp] theorem finished_append (first second : List (Occurrence α)) :
    finished (first ++ second) = finished first ++ finished second :=
  List.filterMap_append

@[simp] theorem failures_append (first second : List (Occurrence α)) :
    failures (first ++ second) = failures first ++ failures second :=
  List.filterMap_append

/-- No task begins before the end of the one that began before it. There may be a task at work before what
occurs, and one after it. -/
inductive Alternates : Option (Work α) → List (Occurrence α) → Option (Work α) → Prop
  | nil (task : Option (Work α)) : Alternates task [] task
  | answered {operation : Operation α} {answer : Verdict} {rest : List (Occurrence α)} {before after : Option (Work α)}
    (later : Alternates before rest after) : Alternates before (answered operation answer :: rest) after
  | began {work : Work α} {rest : List (Occurrence α)} {after : Option (Work α)} (later : Alternates (some work) rest after) :
    Alternates none (began work :: rest) after
  | ended {work : Work α} {failure : Option Failure} {rest : List (Occurrence α)} {after : Option (Work α)}
    (later : Alternates none rest after) : Alternates (some work) (ended work failure :: rest) after

theorem Alternates.append {before middle after : Option (Work α)} {first second : List (Occurrence α)}
    (head : Alternates before first middle) (tail : Alternates middle second after) :
    Alternates before (first ++ second) after := by
  induction head with
  | nil => exact tail
  | answered _ ih => exact .answered (ih tail)
  | began _ ih => exact .began (ih tail)
  | ended _ ih => exact .ended (ih tail)

/-- All that has begun has ended, in the same order, but for the task at work. -/
theorem Alternates.finished {before after : Option (Work α)} {history : List (Occurrence α)}
    (alternates : Alternates before history after) :
    before.toList ++ begun history = finished history ++ after.toList := by
  induction alternates with
  | nil => simp [begun, Occurrence.finished]
  | answered _ ih => exact ih
  | began _ ih => exact ih
  | @ended work _ _ _ _ ih => exact congrArg (work :: ·) ih

end Occurrence

open Occurrence

def Item.works (items : List (Item α)) : List (Work α) :=
  items.filterMap fun
    | .work task => some task
    | .marker => none

@[simp] theorem Item.works_append (first second : List (Item α)) : works (first ++ second) = works first ++ works second :=
  List.filterMap_append

namespace Worker

def task : Worker α → Option (Work α)
  | .idle => none
  | .starting work | .running work _ | .submitting work _ _ _ _ => some work

def unmarked : Worker α → List α
  | .starting work => [work.label]
  | _ => []

def gate? : Worker α → Option Text
  | .starting work => work.gate
  | .running _ (.wait gate :: _) => some gate
  | _ => none

def gates : Worker α → List Text
  | .idle => []
  | .starting work => work.gates
  | .running _ left | .submitting _ _ _ left _ => Deed.gates left

end Worker

@[simp] theorem Work.Mark.labels_append (first second : List (Work.Mark α)) :
    labels (first ++ second) = labels first ++ labels second :=
  List.filterMap_append

namespace Queue

/-- What holds of anything that happens to a queue. -/
structure Serves (queue : Queue α) (occurred : List (Occurrence α)) (next : Queue α) : Prop where
  /-- What is taken waits behind the rest, and what begins is the first that waited. -/
  order : Item.works queue.waiting ++ taken occurred = begun occurred ++ Item.works next.waiting
  apart : Alternates queue.worker.task occurred next.worker.task
  marked : ∃ marks, next.marks = queue.marks ++ marks ∧
    queue.worker.unmarked ++ (begun occurred).map Work.label = Work.Mark.labels marks ++ next.worker.unmarked
  failed : next.logged = queue.logged ++ (failures occurred).filterMap Failure.logged ∧
    next.kept = queue.kept ++ (failures occurred).filterMap Failure.passed
  closed : queue.closed = true → next.closed = true ∧ taken occurred = []
  refused : ∀ operation error, .answered operation (.refused error) ∈ occurred →
    error = .queueClosed ∧ next.closed = true ∧ ∃ work, operation = .submit work
  stopped : ∀ answer, .answered .shutdown answer ∈ occurred → next.closed = true

/-- Nothing comes of what leaves the tasks alone and the worker at the same task. -/
private theorem Serves.quiet {queue next : Queue α} (same : Item.works next.waiting = Item.works queue.waiting)
    (task : next.worker.task = queue.worker.task)
    (marked : ∃ marks, next.marks = queue.marks ++ marks ∧
      queue.worker.unmarked = Work.Mark.labels marks ++ next.worker.unmarked)
    (logged : next.logged = queue.logged) (kept : next.kept = queue.kept)
    (closed : queue.closed = true → next.closed = true) : Serves queue [] next where
  order := by simp [taken, begun, same]
  apart := task ▸ .nil _
  marked := by simpa [begun] using marked
  failed := by simp [failures, logged, kept]
  closed shut := ⟨closed shut, rfl⟩
  refused := nofun
  stopped := nofun

theorem Serves.refl (queue : Queue α) : Serves queue [] queue :=
  .quiet rfl rfl ⟨[], (List.append_nil _).symm, rfl⟩ rfl rfl id

theorem Serves.trans {queue middle next : Queue α} {first second : List (Occurrence α)} (head : Serves queue first middle)
    (tail : Serves middle second next) : Serves queue (first ++ second) next where
  order := by
    rw [taken_append, begun_append, ← List.append_assoc, head.order, List.append_assoc, tail.order, List.append_assoc]
  apart := head.apart.append tail.apart
  marked := by
    obtain ⟨marks, added, same⟩ := head.marked
    obtain ⟨more, grown, equal⟩ := tail.marked
    refine ⟨marks ++ more, by rw [grown, added, List.append_assoc], ?_⟩
    rw [begun_append, List.map_append, ← List.append_assoc, same, List.append_assoc, equal, Work.Mark.labels_append,
      List.append_assoc]
  failed := by
    constructor
    · rw [tail.failed.1, head.failed.1, failures_append, List.filterMap_append, List.append_assoc]
    · rw [tail.failed.2, head.failed.2, failures_append, List.filterMap_append, List.append_assoc]
  closed shut := by
    obtain ⟨still, none⟩ := head.closed shut
    obtain ⟨last, nothing⟩ := tail.closed still
    exact ⟨last, by rw [taken_append, none, nothing, List.append_nil]⟩
  refused operation error listed := by
    rcases List.mem_append.mp listed with early | late
    · obtain ⟨same, shut, work⟩ := head.refused operation error early
      exact ⟨same, (tail.closed shut).1, work⟩
    · exact tail.refused operation error late
  stopped answer listed := by
    rcases List.mem_append.mp listed with early | late
    · exact (tail.closed (head.stopped answer early)).1
    · exact tail.stopped answer late

/-- The answer to an operation that finds the queue closed leaves all as it is, but for the lock. -/
private theorem serves_declined {queue : Queue α} (shut : queue.closed = true) (operation : Operation α) :
    Serves queue [.answered operation (decline operation)] { queue with lock := .free } where
  order := by cases operation <;> simp [taken, begun, decline]
  apart := .answered (.nil _)
  marked := ⟨[], by simp [begun, Work.Mark.labels]⟩
  failed := by simp [failures]
  closed _ := ⟨shut, by cases operation <;> rfl⟩
  refused asked error listed := by
    obtain ⟨rfl, refused⟩ := Occurrence.answered.inj (List.mem_singleton.mp listed)
    cases asked with
    | submit work => exact ⟨Verdict.refused.inj refused, shut, work, rfl⟩
    | drain | shutdown => exact Verdict.noConfusion refused
  stopped _ _ := shut

private theorem serves_acted {queue : Queue α} (live : queue.closed = false) (operation : Operation α) :
    Serves queue [.answered operation .done] { queue.acted operation with lock := .free } where
  order := by cases operation <;> simp [taken, begun, acted, Item.works]
  apart := acted_worker queue operation ▸ .answered (.nil _)
  marked := ⟨[], by cases operation <;> simp [acted, begun, Work.Mark.labels]⟩
  failed := by cases operation <;> simp [acted, failures]
  closed shut := absurd shut (by simp [live])
  refused _ _ listed := by simp at listed
  stopped answer listed := by
    obtain ⟨rfl, -⟩ := Occurrence.answered.inj (List.mem_singleton.mp listed)
    rfl

/-- A task that ends has left its label long before. -/
private theorem serves_finish {queue : Queue α} {work : Work α} (task : queue.worker.task = some work)
    (unmarked : queue.worker.unmarked = []) (failure : Option Failure) :
    Serves queue (queue.finish work failure).2 (queue.finish work failure).1 where
  order := by simp [finish, taken, begun]
  apart := task ▸ .ended (.nil none)
  marked := ⟨[], (List.append_nil _).symm, by rw [unmarked]; rfl⟩
  failed := by
    cases failure with
    | none => exact ⟨rfl, rfl⟩
    | some failure => cases failure <;> exact ⟨rfl, rfl⟩
  closed shut := ⟨shut, rfl⟩
  refused _ _ listed := by simp [finish] at listed
  stopped _ listed := by simp [finish] at listed

private theorem serves_refuse {queue : Queue α} {work : Work α} (task : queue.worker.task = some work)
    (unmarked : queue.worker.unmarked = []) (child : Work α) (remedy : Remedy) (left : List (Deed α)) (error : Error) :
    Serves queue (queue.refuse work child remedy left error).2 (queue.refuse work child remedy left error).1 := by
  let noted : Queue α := { queue with marks := queue.marks ++ [.refused child.label error] }
  have same : Serves queue [] noted := .quiet rfl rfl ⟨_, rfl, rfl⟩ rfl rfl id
  cases remedy with
  | none => exact serves_finish task unmarked _
  | stop => exact same.trans (@serves_finish α noted work task unmarked none)
  | goOn => exact same.trans (.quiet rfl task.symm ⟨[], (List.append_nil _).symm, unmarked⟩ rfl rfl id)

private theorem serves_turn {queue next : Queue α} {occurred : List (Occurrence α)} (turn : Turn queue occurred next) :
    Serves queue occurred next := by
  cases turn with
  | skip worker waiting =>
    exact .quiet (by simp [waiting, Item.works]) rfl ⟨[], by simp [Work.Mark.labels]⟩ rfl rfl id
  | begin worker waiting =>
    exact {
      order := by simp [waiting, Item.works, taken, begun]
      apart := worker ▸ .began (.nil _)
      marked := ⟨[], by simp [worker, begun, Worker.unmarked, Work.Mark.labels]⟩
      failed := by simp [failures]
      closed := fun shut => ⟨shut, rfl⟩
      refused := by simp
      stopped := by simp }
  | leave worker => exact .quiet rfl (worker ▸ rfl) ⟨_, rfl, worker ▸ rfl⟩ rfl rfl id
  | pass worker | acquire worker | look worker =>
    exact .quiet rfl (worker ▸ rfl) ⟨[], (List.append_nil _).symm, worker ▸ rfl⟩ rfl rfl id
  | finish worker => exact serves_finish (worker ▸ rfl) (worker ▸ rfl) _
  | refuse worker shut =>
    exact (serves_declined shut _).trans (serves_refuse (worker ▸ rfl) (worker ▸ rfl) _ _ _ _)
  | hand worker live =>
    exact (serves_acted live _).trans (.quiet rfl (worker ▸ rfl) ⟨[], (List.append_nil _).symm, worker ▸ rfl⟩ rfl rfl id)

private theorem serves_change {queue next : Queue α} {event : Event α} {occurred : List (Occurrence α)}
    (change : Change queue event occurred next) : Serves queue occurred next := by
  cases change with
  | enter | look | halt | release => exact .quiet rfl rfl ⟨[], (List.append_nil _).symm, rfl⟩ rfl rfl id
  | decline lock shut => exact serves_declined shut _
  | act lock live => exact serves_acted live _
  | turn turn => exact serves_turn turn
  | idle => exact .refl queue

theorem serves_run {queue : Queue α} (sound : queue.Sound) (events : List (Event α)) :
    Serves queue (queue.run events).2 (queue.run events).1 := by
  induction events generalizing queue with
  | nil => exact .refl queue
  | cons event rest ih =>
    have change := change_happens sound event
    exact (serves_change change).trans (ih (sound_change sound change))

theorem run_append (queue : Queue α) (first second : List (Event α)) :
    queue.run (first ++ second) =
      (((queue.run first).1.run second).1, (queue.run first).2 ++ ((queue.run first).1.run second).2) := by
  induction first generalizing queue with
  | nil => rfl
  | cons event rest ih => simp [run, ih]

def after (events : List (Event α)) : Queue α := (run {} events).1

/-- What has occurred from the beginning of a queue. -/
def history (events : List (Event α)) : List (Occurrence α) := (run {} events).2

theorem after_append (events later : List (Event α)) : after (events ++ later) = ((after events).run later).1 := by
  simp only [after, run_append]

theorem history_append (events later : List (Event α)) :
    history (events ++ later) = history events ++ ((after events).run later).2 := by
  simp only [after, history, run_append]

theorem sound_after (events : List (Event α)) : (after events).Sound := sound_run (sound_new []) events

theorem serves_history (events : List (Event α)) : Serves {} (history events) (after events) := serves_run (sound_new []) events

theorem serves_later (events later : List (Event α)) :
    Serves (after events) ((after events).run later).2 (after (events ++ later)) := by
  rw [after_append]
  exact serves_run (sound_after events) later

/-- What was accepted has begun in the same order, or still waits in it. -/
theorem order_history (events : List (Event α)) :
    taken (history events) = begun (history events) ++ Item.works (after events).waiting :=
  (serves_history events).order

/-- What has begun has ended in the same order, but for the task at work. -/
theorem begun_history (events : List (Event α)) :
    begun (history events) = finished (history events) ++ (after events).worker.task.toList :=
  (serves_history events).apart.finished

/-- When as many tasks have ended as were accepted at some time, they are these. -/
theorem finished_of_length {events later : List (Event α)}
    (enough : (taken (history events)).length ≤ (finished (history (events ++ later))).length) :
    taken (history events) <+: finished (history (events ++ later)) := by
  have taken_later : taken (history events) <+: taken (history (events ++ later)) := by
    rw [history_append, taken_append]
    exact List.prefix_append _ _
  have finished_taken : finished (history (events ++ later)) <+: taken (history (events ++ later)) := by
    rw [order_history, begun_history, List.append_assoc]
    exact List.prefix_append _ _
  exact List.prefix_of_prefix_length_le taken_later finished_taken enough

end Queue
end Pubsub
