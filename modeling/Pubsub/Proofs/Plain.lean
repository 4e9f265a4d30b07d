import Mathlib.Data.List.TakeWhile
import Pubsub.Proofs.Queueing

/-! Tasks that neither submit nor wait, once their gate has let them pass. The worker does them one after another, up to the
first whose gate is closed. -/

namespace Pubsub

variable {α : Type}

/-- A task that leaves its label and then at most fails. -/
def Work.Plain (work : Work α) : Prop := ∃ failure : Option Failure, work.deeds = failure.toList.map .fail

def Work.passes (gates : List Text) (work : Work α) : Bool := work.gate.all gates.contains

namespace Queue

private theorem settle_of_step {queue next : Queue α} {occurred : List (Occurrence α)}
    (stepped : queue.step = some (next, occurred)) :
    queue.settle = next.settle := by
  rw [settle, stepped]

theorem settle_of_rests {queue : Queue α} (rests : queue.step = none) : queue.settle = queue := by
  rw [settle, rests]

/-- An open queue takes one task after another, whatever they are. -/
theorem submits_open {queue : Queue α} (sound : queue.Sound) (lock : queue.lock = .free) (live : queue.closed = false)
    (works : List (Work α)) :
    works.foldl (fun queue work => (queue.submit work).1) queue =
      { queue with waiting := queue.waiting ++ works.map .work } := by
  induction works generalizing queue with
  | nil => simp only [List.foldl_nil, List.map_nil, List.append_nil]
  | cons work works ih =>
    have next : Sound { queue with waiting := queue.waiting ++ [.work work] } :=
      ⟨sound.closed, sound.worker, sound.caller, sound.submitting⟩
    rw [List.foldl_cons, submit_open sound lock live, ih next lock live]
    simp only [List.append_assoc, List.singleton_append, List.map_cons]

/-- A plain task that may pass its gate is done. -/
theorem settle_starting (queue : Queue α) {work : Work α} (plain : work.Plain) (worker : queue.worker = .starting work)
    (passes : work.passes queue.gates = true) : ∃ logged kept, queue.settle =
      Queue.settle { queue with marks := queue.marks ++ [.ran work.label], worker := .idle, logged, kept } := by
  obtain ⟨failure, deeds⟩ := plain
  have left : queue.step = some
      ({ queue with marks := queue.marks ++ [.ran work.label], worker := .running work work.deeds }, []) := by
    simp only [step, worker]
    exact if_pos passes
  rw [settle_of_step left, deeds]
  cases failure with
  | none => exact ⟨_, _, settle_of_step rfl⟩
  | some failure => exact ⟨_, _, settle_of_step rfl⟩

/-- The first plain tasks in the line are done, up to one whose gate is closed. -/
theorem settle_line (queue : Queue α) (works : List (Work α)) (plain : ∀ work ∈ works, work.Plain) (rest : List (Item α))
    (idle : queue.worker = .idle) (waiting : queue.waiting = works.map .work ++ rest) : ∃ logged kept,
      queue.settle =
        match works.dropWhile (Work.passes queue.gates) with
        | [] => Queue.settle { queue with
            waiting := rest, worker := .idle, marks := queue.marks ++ works.map (.ran ·.label), logged, kept }
        | work :: left => { queue with
            waiting := left.map .work ++ rest, worker := .starting work
            marks := queue.marks ++ (works.takeWhile (Work.passes queue.gates)).map (.ran ·.label), logged, kept } := by
  induction works generalizing queue with
  | nil =>
    refine ⟨queue.logged, queue.kept, ?_⟩
    obtain ⟨_, down, worker, lock, closed, halting, gates, marks, logged, kept⟩ := queue
    cases waiting
    cases idle
    simp
  | cons work works ih =>
    obtain ⟨own, others⟩ := List.forall_mem_cons.mp plain
    have begun : queue.step = some
        ({ queue with waiting := works.map .work ++ rest, worker := .starting work }, [.began work]) := by
      simp only [step, idle, waiting, List.map_cons, List.cons_append]
    rw [settle_of_step begun]
    cases passes : work.passes queue.gates with
    | false =>
      refine ⟨queue.logged, queue.kept, ?_⟩
      rw [List.dropWhile_cons_of_neg (by simp [passes]), List.takeWhile_cons_of_neg (by simp [passes])]
      have stands : Queue.step { queue with waiting := works.map .work ++ rest, worker := .starting work } = none :=
        if_neg (Bool.eq_false_iff.mp passes)
      rw [settle_of_rests stands]
      simp
    | true =>
      obtain ⟨logged, kept, same⟩ := settle_starting
        { queue with waiting := works.map .work ++ rest, worker := .starting work } own rfl passes
      rw [same, List.dropWhile_cons_of_pos passes, List.takeWhile_cons_of_pos passes]
      obtain ⟨logged, kept, settled⟩ := ih
        { queue with
          waiting := works.map .work ++ rest, worker := .idle, marks := queue.marks ++ [.ran work.label], logged, kept }
        others rfl rfl
      refine ⟨logged, kept, settled.trans ?_⟩
      cases works.dropWhile (Work.passes queue.gates) <;> simp

/-- An idle queue is drained until the marker is reached or a gate is closed. -/
theorem drain_line (queue : Queue α) (sound : queue.Sound) (lock : queue.lock = .free) (live : queue.closed = false)
    (idle : queue.worker = .idle) (works : List (Work α)) (plain : ∀ work ∈ works, work.Plain)
    (waiting : queue.waiting = works.map .work) : ∃ logged kept,
      queue.drain true =
        match works.dropWhile (Work.passes queue.gates) with
        | [] => ({ queue with
            waiting := [], worker := .idle, marks := queue.marks ++ works.map (.ran ·.label), logged, kept }, .now true)
        | work :: left => ({ queue with
            waiting := left.map .work ++ [.marker], worker := .starting work
            marks := queue.marks ++ (works.takeWhile (Work.passes queue.gates)).map (.ran ·.label), logged, kept },
            .now false) := by
  obtain ⟨logged, kept, settled⟩ := settle_line { queue with waiting := queue.waiting ++ [.marker] } works plain
    [.marker] idle (congrArg (· ++ [Item.marker]) waiting)
  refine ⟨logged, kept, ?_⟩
  rw [drain_open sound lock live, settled]
  cases works.dropWhile (Work.passes queue.gates) with
  | nil =>
    have skipped : Queue.settle { queue with
        waiting := [.marker], worker := .idle, marks := queue.marks ++ works.map (.ran ·.label), logged, kept } =
        { queue with waiting := [], worker := .idle, marks := queue.marks ++ works.map (.ran ·.label), logged, kept } := by
      rw [settle_of_step rfl, settle_of_rests rfl]
    simp [skipped, marked]
  | cons work left => simp [marked]

/-- The task at the gate and all that wait behind it are done, once they may pass. -/
theorem settle_rest {queue : Queue α} {work : Work α} {works : List (Work α)} (plain : ∀ other ∈ work :: works, other.Plain)
    (passes : ∀ other ∈ work :: works, other.passes queue.gates = true) (worker : queue.worker = .starting work)
    (waiting : queue.waiting = works.map .work ++ [.marker]) :
    queue.settle.marks = queue.marks ++ (work :: works).map (.ran ·.label) := by
  obtain ⟨own, others⟩ := List.forall_mem_cons.mp plain
  obtain ⟨first, later⟩ := List.forall_mem_cons.mp passes
  obtain ⟨logged, kept, begun⟩ := settle_starting queue own worker first
  obtain ⟨logged, kept, ended⟩ := settle_line { queue with
    marks := queue.marks ++ [.ran work.label], worker := .idle, logged, kept } works others [.marker] rfl waiting
  rw [begun, ended, List.dropWhile_eq_nil_iff.mpr later]
  have skipped {queue : Queue α} (idle : queue.worker = .idle) (marker : queue.waiting = [.marker]) :
      queue.settle.marks = queue.marks := by
    have passed : queue.step = some ({ queue with waiting := [] }, []) := by simp only [step, idle, marker]
    have rests : Queue.step { queue with waiting := [] } = none := by simp only [step, idle]
    rw [settle_of_step passed, settle_of_rests rests]
  exact (skipped rfl rfl).trans (List.append_assoc ..)

end Queue
end Pubsub
