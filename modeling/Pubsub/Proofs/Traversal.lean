import Pubsub.Proofs.Queueing

/-! The order in which the tasks of a tree run. A queue comes to them level by level, while a task that
is submitted on the spot runs before the rest of its parent. Both come to every task once, whatever
fails on the way. -/

namespace Pubsub

variable {α : Type}

/-- The place of a tree among others, then of a child among its siblings, and so on down. -/
abbrev Address := List Nat

namespace Work

/-- The task at an address below another, which is itself at the empty one. -/
def at? : Work α → Address → Option (Work α)
  | work, [] => some work
  | work, place :: rest => work.children[place]?.bind fun child => child.at? rest

/-- The task at an address in some trees. -/
def among? (works : List (Work α)) : Address → Option (Work α)
  | [] => none
  | place :: rest => works[place]?.bind fun work => work.at? rest

private theorem exists_of_among {works : List (Work α)} {address : Address} {task : Work α}
    (found : among? works address = some task) :
    ∃ work ∈ works, ∃ path, work.at? path = some task := by
  cases address with
  | nil => contradiction
  | cons place rest =>
    obtain ⟨work, listed, below⟩ := Option.bind_eq_some_iff.mp found
    exact ⟨work, List.mem_of_getElem? listed, rest, below⟩

inductive Order where
  | breadth
  | depth

/-- In breadth-first order the levels come one after another, in depth-first order every task comes right
before its children. -/
def Order.Before : Order → Address → Address → Prop
  | .breadth, first, second => first.length < second.length ∨ (first.length = second.length ∧ first < second)
  | .depth, first, second => first < second

/-- All the tasks of some trees, each with its address, in one of the orders. -/
structure Traversal (order : Order) (works : List (Work α)) (tasks : List (Address × Work α)) : Prop where
  all : ∀ address task, (address, task) ∈ tasks ↔ among? works address = some task
  ordered : tasks.Pairwise fun first second => order.Before first.1 second.1

private theorem Order.Before.asymm {order : Order} {first second : Address} (before : order.Before first second) :
    ¬ order.Before second first := by
  cases order with
  | breadth =>
    rintro (shorter | ⟨same, back⟩)
    · rcases before with short | ⟨same, _⟩ <;> omega
    · rcases before with short | ⟨_, ahead⟩
      · omega
      · exact List.lt_asymm ahead back
  | depth => exact List.lt_asymm before

/-- No task is listed twice. -/
theorem Traversal.nodup {order : Order} {works : List (Work α)} {tasks : List (Address × Work α)}
    (traversal : Traversal order works tasks) : tasks.Nodup :=
  traversal.ordered.imp fun before same => by
    subst same
    exact before.asymm before

/-- An order leaves no choice. -/
theorem Traversal.unique {order : Order} {works : List (Work α)} {tasks others : List (Address × Work α)}
    (one : Traversal order works tasks) (other : Traversal order works others) : tasks = others := by
  have same : tasks.Perm others := (List.perm_ext_iff_of_nodup one.nodup other.nodup).mpr fun _ =>
    (one.all _ _).trans (other.all _ _).symm
  exact same.eq_of_pairwise (fun _ _ _ _ ahead back => (ahead.asymm back).elim) one.ordered other.ordered

def sited (address : Address) (works : List (Work α)) : List (Address × Work α) :=
  works.mapIdx fun place work => (address ++ [place], work)

@[simp] theorem sited_works (address : Address) (works : List (Work α)) : (sited address works).map Prod.snd = works := by
  simp [sited, List.mapIdx_eq_zipIdx_map, Function.comp_def]

private theorem mem_sited {address : Address} {works : List (Work α)} {task : Address × Work α} :
    task ∈ sited address works ↔ ∃ place, task.1 = address ++ [place] ∧ works[place]? = some task.2 := by
  obtain ⟨site, work⟩ := task
  simp only [sited, List.mem_mapIdx, Prod.mk.injEq, List.getElem?_eq_some_iff]
  constructor
  · rintro ⟨place, inside, rfl, rfl⟩
    exact ⟨place, rfl, inside, rfl⟩
  · rintro ⟨place, rfl, inside, rfl⟩
    exact ⟨place, inside, rfl, rfl⟩

private theorem sited_ordered (address : Address) (works : List (Work α)) :
    (sited address works).Pairwise fun first second => ∃ place later, place < later ∧
      first.1 = address ++ [place] ∧ second.1 = address ++ [later] := by
  rw [List.pairwise_iff_getElem]
  intro place later _ _ ahead
  exact ⟨place, later, ahead, by simp [sited], by simp [sited]⟩

/-- The work that is left in some trees. -/
def size : List (Address × Work α) → Nat
  | [] => 0
  | first :: rest => first.2.effort + 4 + size rest

private theorem size_append (first second : List (Address × Work α)) :
    size (first ++ second) = size first + size second := by
  induction first with
  | nil => exact (Nat.zero_add _).symm
  | cons task rest ih => rw [List.cons_append, size, size, ih, ← Nat.add_assoc]

private theorem size_le_efforts {deeds : List (Deed α)} {tasks : List (Address × Work α)}
    (submitted : tasks.map Prod.snd = Deed.submitted deeds) : size tasks ≤ Deed.efforts deeds := by
  induction deeds generalizing tasks with
  | nil =>
    rw [List.map_eq_nil_iff.mp submitted]
    exact Nat.zero_le _
  | cons deed rest ih =>
    cases deed with
    | wait gate => exact Nat.le_trans (ih submitted) (Nat.le_add_left _ _)
    | submit work remedy =>
      obtain ⟨task, others, rfl, rfl, same⟩ := List.map_eq_cons_iff.mp submitted
      have left := ih same
      simp only [size, Deed.efforts, Deed.effort]
      omega
    | fail failure =>
      rw [List.map_eq_nil_iff.mp submitted]
      exact Nat.zero_le _

/-- The children of a task are less work than the task. -/
theorem size_sited (address : Address) (work : Work α) : size (sited address work.children) < work.effort := by
  have bounded := size_le_efforts (sited_works address work.children)
  rw [effort_eq]
  omega

namespace Order

/-- What is left when a task has been visited: its children come last, or at once. -/
def next (order : Order) (task : Address × Work α) (rest : List (Address × Work α)) : List (Address × Work α) :=
  match order with
  | .breadth => rest ++ sited task.1 task.2.children
  | .depth => sited task.1 task.2.children ++ rest

private theorem mem_next {order : Order} {task other : Address × Work α} {rest : List (Address × Work α)} :
    other ∈ order.next task rest ↔ other ∈ rest ∨ other ∈ sited task.1 task.2.children := by
  cases order with
  | breadth => exact List.mem_append
  | depth => exact List.mem_append.trans Or.comm

private theorem size_next (order : Order) (task : Address × Work α) (rest : List (Address × Work α)) :
    size (order.next task rest) < size (task :: rest) := by
  have smaller := size_sited task.1 task.2
  cases order <;> simp only [next, size_append, size] <;> omega

def visit (order : Order) : List (Address × Work α) → List (Address × Work α)
  | [] => []
  | first :: rest => first :: order.visit (order.next first rest)
termination_by tasks => size tasks
decreasing_by exact order.size_next first rest

end Order

/-- The one task is the other, or is submitted by it, by one of its children, and so on. -/
def Below (root task : Address × Work α) : Prop :=
  ∃ path, task.1 = root.1 ++ path ∧ root.2.at? path = some task.2

private theorem below_iff {root task : Address × Work α} :
    Below root task ↔ task = root ∨ ∃ child ∈ sited root.1 root.2.children, Below child task := by
  constructor
  · rintro ⟨path, site, found⟩
    cases path with
    | nil => exact .inl (Prod.ext (by simpa using site) (by simpa [at?] using found.symm))
    | cons place rest =>
      obtain ⟨child, listed, below⟩ := Option.bind_eq_some_iff.mp found
      exact .inr ⟨(root.1 ++ [place], child), mem_sited.mpr ⟨place, rfl, listed⟩, rest, by simp [site], below⟩
  · rintro (rfl | ⟨⟨_, child⟩, member, rest, site, found⟩)
    · exact ⟨[], (List.append_nil _).symm, rfl⟩
    · obtain ⟨place, rfl, listed⟩ := mem_sited.mp member
      exact ⟨place :: rest, by simp [site], Option.bind_eq_some_iff.mpr ⟨child, listed, found⟩⟩

/-- A visit comes to the trees that it is given, from top to bottom, and to nothing else. -/
theorem Order.mem_visit {order : Order} {tasks : List (Address × Work α)} {task : Address × Work α} :
    task ∈ order.visit tasks ↔ ∃ root ∈ tasks, Below root task := by
  induction tasks using Order.visit.induct order with
  | case1 => simp [visit]
  | case2 root rest ih =>
    rw [visit, List.mem_cons, ih]
    constructor
    · rintro (rfl | ⟨other, member, below⟩)
      · exact ⟨task, List.mem_cons_self, below_iff.mpr (.inl rfl)⟩
      · rcases mem_next.mp member with later | child
        · exact ⟨other, List.mem_cons_of_mem _ later, below⟩
        · exact ⟨root, List.mem_cons_self, below_iff.mpr (.inr ⟨other, child, below⟩)⟩
    · rintro ⟨other, member, below⟩
      rcases List.mem_cons.mp member with rfl | later
      · rcases below_iff.mp below with same | ⟨child, member, under⟩
        · exact .inl same
        · exact .inr ⟨child, mem_next.mpr (.inr member), under⟩
      · exact .inr ⟨other, mem_next.mpr (.inl later), below⟩

private theorem Order.mem_visit_sited {order : Order} {works : List (Work α)} {address : Address} {task : Work α} :
    (address, task) ∈ order.visit (sited [] works) ↔ among? works address = some task := by
  rw [mem_visit]
  constructor
  · rintro ⟨⟨_, root⟩, member, path, rfl, found⟩
    obtain ⟨place, rfl, listed⟩ := mem_sited.mp member
    exact Option.bind_eq_some_iff.mpr ⟨root, listed, found⟩
  · intro found
    cases address with
    | nil => contradiction
    | cons place rest =>
      obtain ⟨root, listed, below⟩ := Option.bind_eq_some_iff.mp found
      exact ⟨([place], root), mem_sited.mpr ⟨place, rfl, listed⟩, rest, rfl, below⟩

def Apart (first second : Address) : Prop :=
  ∀ below beneath, first ++ below < second ++ beneath

/-- On one level, addresses that differ are apart. -/
theorem apart_of_lt {first second : Address} (same : first.length = second.length) (ahead : first < second) :
    Apart first second := fun below beneath => by
  induction first generalizing second with
  | nil =>
    rw [List.eq_nil_of_length_eq_zero same.symm] at ahead
    exact absurd ahead (List.lt_irrefl _)
  | cons place rest ih =>
    cases second with
    | nil => contradiction
    | cons later others =>
      simp only [List.cons_append, List.cons_lt_cons_iff] at ahead ⊢
      exact ahead.imp_right fun ⟨equal, less⟩ => ⟨equal, ih (Nat.succ.inj same) less⟩

private theorem apart_siblings (address : Address) {place later : Nat} (ahead : place < later) :
    Apart (address ++ [place]) (address ++ [later]) := by
  exact apart_of_lt (by simp) (List.append_left_lt (List.cons_lt_cons_iff.mpr (.inl ahead)))

theorem Apart.child {first second : Address} (apart : Apart first second) (place : Nat) :
    Apart (first ++ [place]) second := fun below beneath => by
  simpa using apart (place :: below) beneath

private theorem sited_apart (address : Address) (works : List (Work α)) :
    (sited address works).Pairwise fun first second => Apart first.1 second.1 :=
  (sited_ordered address works).imp fun ⟨_, _, ahead, first, second⟩ => first ▸ second ▸ apart_siblings address ahead

private theorem visit_depth_ordered {tasks : List (Address × Work α)}
    (apart : tasks.Pairwise fun first second => Apart first.1 second.1) :
    (Order.depth.visit tasks).Pairwise fun first second => first.1 < second.1 := by
  induction tasks using Order.visit.induct .depth with
  | case1 => simp [Order.visit]
  | case2 root rest ih =>
    obtain ⟨ahead, others⟩ := List.pairwise_cons.mp apart
    rw [Order.visit, List.pairwise_cons]
    refine ⟨fun task member => ?_, ih (List.pairwise_append.mpr ⟨sited_apart _ _, others, ?_⟩)⟩
    · obtain ⟨other, left, path, site, _⟩ := Order.mem_visit.mp member
      rcases Order.mem_next.mp left with later | child
      · simpa [site] using ahead other later [] path
      · obtain ⟨place, placed, _⟩ := mem_sited.mp child
        rw [site, placed, List.append_assoc]
        simpa using List.append_left_lt (List.nil_lt_cons place path)
    · intro child member other later
      obtain ⟨place, placed, _⟩ := mem_sited.mp member
      exact placed ▸ (ahead other later).child place

/-- A level goes before what is left, and its children go behind that. -/
theorem visit_breadth_append (level rest : List (Address × Work α)) :
    Order.breadth.visit (level ++ rest) =
      level ++ Order.breadth.visit (rest ++ level.flatMap fun task => sited task.1 task.2.children) := by
  induction level generalizing rest with
  | nil => simp
  | cons task others ih =>
    simp only [List.cons_append, Order.visit, Order.next, List.append_assoc, ih, List.flatMap_cons]

private theorem size_level (level : List (Address × Work α)) :
    size (level.flatMap fun task => sited task.1 task.2.children) + level.length ≤ size level := by
  induction level with
  | nil => exact Nat.le_refl 0
  | cons task rest ih =>
    have smaller := size_sited task.1 task.2
    simp only [List.flatMap_cons, size_append, size, List.length_cons]
    omega

private theorem level_ordered {level : List (Address × Work α)} {depth : Nat}
    (flat : ∀ task ∈ level, task.1.length = depth)
    (ordered : level.Pairwise fun first second => first.1 < second.1) :
    (∀ task ∈ level.flatMap fun task => sited task.1 task.2.children, task.1.length = depth + 1) ∧
      (level.flatMap fun task => sited task.1 task.2.children).Pairwise fun first second => first.1 < second.1 := by
  constructor
  · intro child member
    obtain ⟨task, listed, child⟩ := List.mem_flatMap.mp member
    obtain ⟨place, placed, _⟩ := mem_sited.mp child
    simp [placed, flat task listed]
  · refine List.pairwise_flatMap.mpr ⟨fun task _ => ?_, ?_⟩
    · exact (sited_apart task.1 task.2.children).imp fun apart => by simpa using apart [] []
    · refine ordered.imp_of_mem fun {first second} one other ahead child member sibling listed => ?_
      obtain ⟨place, placed, _⟩ := mem_sited.mp member
      obtain ⟨later, sited, _⟩ := mem_sited.mp listed
      exact placed ▸ sited ▸ apart_of_lt ((flat first one).trans (flat second other).symm) ahead [place] [later]

/-- A level is visited before all that lies deeper. -/
theorem visit_breadth_ordered {level : List (Address × Work α)} {depth : Nat}
    (flat : ∀ task ∈ level, task.1.length = depth)
    (ordered : level.Pairwise fun first second => first.1 < second.1) :
    (Order.breadth.visit level).Pairwise fun first second => Order.breadth.Before first.1 second.1 := by
  induction amount : size level using Nat.strongRecOn generalizing level depth with
  | ind amount ih =>
    cases level with
    | nil => simp [Order.visit]
    | cons root rest =>
      have smaller := size_level (root :: rest)
      obtain ⟨deeper, sorted⟩ := level_ordered flat ordered
      rw [← List.append_nil (root :: rest), visit_breadth_append, List.nil_append]
      refine List.pairwise_append.mpr ⟨?_, ih _ ?_ deeper sorted rfl, fun task member other later => ?_⟩
      · exact ordered.imp_of_mem fun one other ahead => .inr ⟨(flat _ one).trans (flat _ other).symm, ahead⟩
      · simp only [List.length_cons] at smaller
        omega
      · obtain ⟨child, listed, path, site, _⟩ := Order.mem_visit.mp later
        have depths := deeper child listed
        refine .inl ?_
        rw [flat task member, site, List.length_append]
        omega

private theorem traversal_visit (order : Order) (works : List (Work α)) :
    Traversal order works (order.visit (sited [] works)) where
  all _ _ := Order.mem_visit_sited
  ordered := by
    cases order with
    | breadth =>
      have flat : ∀ task ∈ sited [] works, task.1.length = 1 := fun task member => by
        obtain ⟨_, placed, _⟩ := mem_sited.mp member
        simp [placed]
      exact visit_breadth_ordered flat ((sited_apart [] works).imp fun apart => by simpa using apart [] [])
    | depth => exact visit_depth_ordered (sited_apart [] works)

def due (work : Work α) : List Text := (work.failure.bind Failure.logged).toList

/-- Whether the failure of a task, if any, is kept from whoever had it run. -/
def Stays (work : Work α) : Prop := work.failure.bind Failure.passed = none

def performed (works : List (Work α)) : List (Mark α) := works.flatMap fun work => work.run.marks

private def errors (works : List (Work α)) : List Text := works.flatMap fun work => work.submit.logged

/-- When no failure comes out of the submissions of a task, none stops those that follow. -/
private theorem run_deeds {deeds : List (Deed α)} (stays : ∀ work ∈ Deed.submitted deeds, work.submit.failure = none) :
    Deed.run deeds =
      { marks := performed (Deed.submitted deeds)
        logged := errors (Deed.submitted deeds)
        failure := Deed.failure deeds } := by
  induction deeds with
  | nil => rfl
  | cons deed rest ih =>
    cases deed with
    | wait gate => exact ih stays
    | submit work remedy =>
      obtain ⟨own, others⟩ := List.forall_mem_cons.mp stays
      have same : work.run.isolated.failure = none := own
      simp only [Deed.run, ih others, Outcome.andThen, same]
      rfl
    | fail failure => rfl

private theorem run_eq {work : Work α} (stays : ∀ child ∈ work.children, child.submit.failure = none) :
    work.run =
      { marks := .ran work.label :: performed work.children
        logged := errors work.children
        failure := work.failure } := by
  cases work with
  | task label gate deeds =>
    have ran : Deed.run deeds = _ := run_deeds stays
    rw [Work.run, ran]
    rfl

private theorem submit_eq {work : Work α} (stays : ∀ child ∈ work.children, child.submit.failure = none) :
    work.submit =
      { marks := .ran work.label :: performed work.children
        logged := errors work.children ++ work.due
        failure := work.failure.bind Failure.passed } := by
  rw [submit, run_eq stays]
  rfl

/-- What trees leave that are run on the spot: the label of every task, in the order of a visit, and every error. -/
private theorem visit_on_spot {tasks : List (Address × Work α)}
    (stays : ∀ task ∈ Order.depth.visit tasks, task.2.Stays) :
    performed (tasks.map Prod.snd) = (Order.depth.visit tasks).map (fun task => .ran task.2.label) ∧
      (errors (tasks.map Prod.snd)).Perm ((Order.depth.visit tasks).flatMap fun task => task.2.due) ∧
      ∀ task ∈ Order.depth.visit tasks, task.2.submit.failure = none ∧ task.2.run.failure = task.2.failure := by
  induction tasks using Order.visit.induct .depth with
  | case1 => simp [Order.visit, performed, errors]
  | case2 root rest ih =>
    rw [Order.visit] at stays ⊢
    obtain ⟨own, others⟩ := List.forall_mem_cons.mp stays
    obtain ⟨marks, logs, failures⟩ := ih others
    have quiet : ∀ child ∈ root.2.children, child.submit.failure = none := by
      intro child member
      rw [← sited_works root.1 root.2.children] at member
      obtain ⟨task, listed, rfl⟩ := List.mem_map.mp member
      have visited : task ∈ Order.depth.visit (Order.depth.next root rest) :=
        Order.mem_visit.mpr ⟨task, Order.mem_next.mpr (.inr listed), below_iff.mpr (.inl rfl)⟩
      exact (failures task visited).1
    have ran := run_eq quiet
    have submitted := submit_eq quiet
    have split : (Order.depth.next root rest).map Prod.snd = root.2.children ++ rest.map Prod.snd := by simp [Order.next]
    rw [split] at marks logs
    refine ⟨?_, ?_, List.forall_mem_cons.mpr ⟨⟨by rw [submitted]; exact own, by rw [ran]⟩, failures⟩⟩
    · rw [List.map_cons, List.map_cons, ← marks]
      simp [performed, ran]
    · rw [List.map_cons, List.flatMap_cons]
      have swapped : errors (root.2 :: rest.map Prod.snd) =
          (errors root.2.children ++ root.2.due) ++ errors (rest.map Prod.snd) := by
        simp only [errors, List.flatMap_cons, submitted]
      have joined : errors (root.2.children ++ rest.map Prod.snd) =
          errors root.2.children ++ errors (rest.map Prod.snd) := List.flatMap_append
      rw [swapped]
      refine (List.perm_append_comm.append_right _).trans ?_
      rw [List.append_assoc, ← joined]
      exact logs.append_left root.2.due

end Work

def Worker.due : Worker α → List Text
  | .running _ left | .submitting _ _ _ left _ => ((Deed.failure left).bind Failure.logged).toList
  | _ => []

namespace Queue
open Work

def pending (queue : Queue α) : List (Work α) :=
  match queue.worker with
  | .idle => Item.works queue.waiting
  | .starting work => work :: Item.works queue.waiting
  | .running _ left => Item.works queue.waiting ++ Deed.submitted left
  | .submitting _ child _ left _ => Item.works queue.waiting ++ child :: Deed.submitted left

/-- The task waits already, while what the task at work has yet to submit will come behind it. -/
theorem pending_submit (queue : Queue α) (work : Work α) :
    ∃ earlier later, queue.pending = earlier ++ later ∧
      (queue.acted (.submit work)).pending = earlier ++ work :: later := by
  cases worker : queue.worker with
  | idle | starting => exact ⟨queue.pending, [], by simp, by simp [pending, acted, worker, Item.works]⟩
  | running _ left =>
    exact ⟨Item.works queue.waiting, Deed.submitted left, by simp [pending, worker],
      by simp [pending, acted, worker, Item.works]⟩
  | submitting _ child _ left =>
    exact ⟨Item.works queue.waiting, child :: Deed.submitted left, by simp [pending, worker],
      by simp [pending, acted, worker, Item.works]⟩

/-- A turn of an open queue leaves it as it is to come to its tasks, or it comes to the first and puts its
children behind the rest. -/
theorem pending_turn {queue next : Queue α} {occurred : List (Occurrence α)} (turn : Turn queue occurred next)
    (live : queue.closed = false) :
    next.closed = false ∧ next.gates = queue.gates ∧
      ((next.marks = queue.marks ∧ next.pending = queue.pending ∧
          next.logged ++ next.worker.due = queue.logged ++ queue.worker.due) ∨
        ∃ work rest, queue.pending = work :: rest ∧ next.marks = queue.marks ++ [.ran work.label] ∧
          next.pending = rest ++ work.children ∧
          next.logged ++ next.worker.due = queue.logged ++ queue.worker.due ++ work.due) := by
  cases turn with
  | skip worker waiting => exact ⟨live, rfl, .inl ⟨rfl, by simp [pending, worker, waiting, Item.works], rfl⟩⟩
  | begin worker waiting =>
    exact ⟨live, rfl, .inl ⟨rfl, by simp [pending, worker, waiting, Item.works], by rw [worker]; rfl⟩⟩
  | leave worker =>
    refine ⟨live, rfl, .inr ⟨_, _, by rw [pending, worker], rfl, rfl, ?_⟩⟩
    simp [worker, Worker.due, due, Work.failure]
  | pass worker =>
    exact ⟨live, rfl, .inl ⟨rfl, by simp [pending, worker, Deed.submitted], by simp [worker, Worker.due, Deed.failure]⟩⟩
  | finish worker stops =>
    rcases stops with ⟨rfl, rfl⟩ | ⟨rest, reason, rfl, rfl⟩
    · exact ⟨live, rfl, .inl ⟨rfl, by simp [finish, pending, worker, Deed.submitted], by
        simp [finish, worker, Worker.due, Deed.failure]⟩⟩
    · exact ⟨live, rfl, .inl ⟨rfl, by simp [finish, pending, worker, Deed.submitted], by
        simp [finish, worker, Worker.due, Deed.failure]⟩⟩
  | acquire worker =>
    exact ⟨live, rfl, .inl ⟨rfl, by simp [pending, worker, Deed.submitted], by simp [worker, Worker.due, Deed.failure]⟩⟩
  | look worker =>
    exact ⟨live, rfl, .inl ⟨rfl, by simp [pending, worker], by simp [worker, Worker.due]⟩⟩
  | refuse worker shut => exact absurd shut (by simp [live])
  | hand worker =>
    exact ⟨live, rfl, .inl ⟨rfl, by simp [pending, worker, Item.works], by simp [worker, Worker.due]⟩⟩

/-- A task that begins brings its gates, and the task at work has ever fewer before it. -/
theorem gates_turn {queue next : Queue α} {occurred : List (Occurrence α)} (turn : Turn queue occurred next)
    (own : queue.admits queue.worker.gates = true)
    (first : ∀ work rest, queue.pending = work :: rest → queue.admits work.gates = true) :
    next.admits next.worker.gates = true := by
  cases turn with
  | skip => exact own
  | @begin work rest worker waiting =>
    exact first work (Item.works rest) (by simp [pending, worker, waiting, Item.works])
  | leave worker =>
    rw [worker] at own
    exact (admits_append.mp own).2
  | pass worker =>
    rw [worker] at own
    exact (admits_cons.mp own).2
  | finish => rfl
  | acquire worker | look worker | hand worker =>
    rw [worker] at own
    exact own
  | @refuse _ _ remedy _ worker =>
    rw [worker] at own
    cases remedy with
    | none | stop => rfl
    | goOn => exact own

/-- No turn of an open queue refuses a task. -/
theorem turns_accept {queue : Queue α} (sound : queue.Sound) (live : queue.closed = false) (turns : Nat)
    (operation : Operation α) (error : Error) :
    .answered operation (.refused error) ∉ (queue.run (List.replicate turns .turn)).2 := by
  have open_after : (queue.run (List.replicate turns .turn)).1.closed = false := by
    induction turns generalizing queue with
    | zero => exact live
    | succ turns ih =>
      have change := change_happens sound .turn
      refine ih (sound_change sound change) ?_
      cases stepped : queue.step with
      | none => simpa only [happens, stepped, Option.getD_none] using live
      | some next =>
        simpa only [happens, stepped, Option.getD_some] using (pending_turn (turn_of_step sound stepped) live).1
  intro listed
  have shut := ((serves_run sound (List.replicate turns .turn)).refused operation error listed).2.1
  rw [open_after] at shut
  contradiction

/-- An open queue comes to an end of what is pending, and has visited it breadth-first. -/
theorem settle_pending {queue : Queue α} (sound : queue.Sound) (live : queue.closed = false) (unheld : queue.Unheld)
    (own : queue.admits queue.worker.gates = true) {tasks : List (Address × Work α)}
    (sited : tasks.map Prod.snd = queue.pending)
    (free : ∀ task ∈ Order.breadth.visit tasks, queue.admits task.2.gates = true) :
    queue.settle.done = true ∧
      queue.settle.marks = queue.marks ++ (Order.breadth.visit tasks).map (fun task => .ran task.2.label) ∧
      queue.settle.logged =
        queue.logged ++ queue.worker.due ++ (Order.breadth.visit tasks).flatMap fun task => task.2.due := by
  induction queue using settle.induct generalizing tasks with
  | case1 queue rests =>
    rw [settle, rests]
    rcases rests_of_step sound rests with ⟨worker, waiting⟩ | stands | kept
    · have none : tasks = [] := by simpa [pending, worker, waiting, Item.works] using sited
      simp [done, worker, waiting, none, Order.visit, Worker.due]
    · exact absurd stands (not_stands own)
    · rw [unheld.barred] at kept
      contradiction
  | case2 queue next occurred stepped ih =>
    have turn := turn_of_step sound stepped
    obtain ⟨still, gates, comes⟩ := pending_turn turn live
    have admits : next.admits = queue.admits := by
      funext ahead
      simp only [Queue.admits, gates]
    have own := gates_turn turn own fun work rest some => by
      obtain ⟨first, others, rfl, rfl, -⟩ := List.map_eq_cons_iff.mp (sited.trans some)
      exact free first (by simp [Order.visit])
    rw [settle, stepped]
    rcases comes with ⟨marked, same, logged⟩ | ⟨_, _, some, marked, left, logged⟩
    · rw [← marked, ← logged]
      exact ih (sound_turn sound turn) still (unheld.turn turn) own (sited.trans same.symm) (admits ▸ free)
    · obtain ⟨first, rest, rfl, rfl, rfl⟩ := List.map_eq_cons_iff.mp (sited.trans some)
      rw [Order.visit] at free ⊢
      have worked : (Order.breadth.next first rest).map Prod.snd = next.pending := by simp [Order.next, left]
      obtain ⟨finished, marks, logs⟩ := ih (sound_turn sound turn) still (unheld.turn turn) own worked
        fun task member => admits ▸ free task (List.mem_cons_of_mem _ member)
      exact ⟨finished, by simp [marks, marked], by simp [logs, logged]⟩

end Queue

/-- An open queue comes to the tasks of a tree level by level, together with what was pending already, and a
submission on the spot comes to them in preorder. Each way every task leaves its label once, whichever
tasks fail, their errors are logged, and no submission fails. -/
theorem Work.each_once_in_either_order (root : Work α) (events : List (Queue.Event α))
    (lock : (Queue.after events).lock = .free) (live : (Queue.after events).closed = false)
    (own : (Queue.after events).admits (Queue.after events).worker.gates = true)
    (free : ∀ work ∈ root :: (Queue.after events).pending, ∀ address task, work.at? address = some task →
      (Queue.after events).admits task.gates = true) :
    (∃ accepted earlier later tasks, (Queue.after events).submit root = (accepted, .now ()) ∧
      accepted.settle.done = true ∧ (Queue.after events).pending = earlier ++ later ∧
      Traversal .breadth (earlier ++ root :: later) tasks ∧
      accepted.settle.marks = (Queue.after events).marks ++ tasks.map (fun task => .ran task.2.label) ∧
      accepted.settle.logged = (Queue.after events).logged ++ (Queue.after events).worker.due ++
        tasks.flatMap (fun task => task.2.due) ∧
      ∀ turns operation error,
        .answered operation (.refused error) ∉ (accepted.run (List.replicate turns .turn)).2) ∧
    ∃ tasks, Traversal .depth [root] tasks ∧ ((∀ task ∈ tasks, task.2.Stays) →
      root.submit.marks = tasks.map (fun task => .ran task.2.label) ∧ root.submit.failure = none ∧
        root.submit.logged.Perm (tasks.flatMap fun task => task.2.due) ∧
        ∀ task ∈ tasks, task.2.submit.failure = none ∧ task.2.run.failure = task.2.failure) := by
  constructor
  · have sound := Queue.sound_after events
    generalize Queue.after events = queue at lock live own free sound ⊢
    have called : (queue.acted (.submit root)).Sound := by
      have later := Queue.sound_run sound [.enter (.submit root), .go, .go]
      rwa [Queue.run_call_open sound lock live] at later
    obtain ⟨earlier, later, before, after⟩ := queue.pending_submit root
    have traversal := traversal_visit .breadth (earlier ++ root :: later)
    have passes : ∀ task ∈ Order.breadth.visit (sited [] (earlier ++ root :: later)),
        (queue.acted (.submit root)).admits task.2.gates = true := fun _ member => by
      obtain ⟨work, listed, path, found⟩ := exists_of_among ((traversal.all _ _).mp member)
      refine free work ?_ path _ found
      rw [before]
      simpa [or_left_comm] using listed
    have unheld : (queue.acted (.submit root)).Unheld := by simp [Queue.Unheld, Queue.acted, lock]
    obtain ⟨finished, marks, logged⟩ :=
      Queue.settle_pending called live unheld own ((sited_works [] _).trans after.symm) passes
    exact ⟨_, earlier, later, _, Queue.submit_open sound lock live root, finished, before, traversal, marks, logged,
      Queue.turns_accept called live⟩
  · refine ⟨_, traversal_visit .depth [root], fun stays => ?_⟩
    obtain ⟨marks, logged, failures⟩ := visit_on_spot stays
    rw [sited_works] at marks logged
    have visited : ([0], root) ∈ Order.depth.visit (sited [] [root]) := by simp [sited, Order.visit]
    refine ⟨marks ▸ ?_, (failures _ visited).1, ?_, failures⟩
    · simp [performed, submit, Outcome.isolated]
    · simpa [errors] using logged

def Work.faulty : Work Text :=
  .task "top" none
    [.submit (.task "left" none
        [.submit (.task "below" none [.fail (.error "third")]) .none, .fail (.error "second")]) .none,
      .submit (.task "right" none []) .none,
      .fail (.error "first")]

theorem Work.each_once_in_either_order_faulty :
    let queue : Queue Text := .after []
    queue.lock = .free ∧ queue.closed = false ∧ queue.admits queue.worker.gates = true ∧
      (∀ work ∈ [faulty], ∀ address task, work.at? address = some task → queue.admits task.gates = true) ∧
      (∃ accepted, queue.submit faulty = (accepted, .now ()) ∧ accepted.settle.done = true ∧
        accepted.settle.marks = [.ran "top", .ran "left", .ran "right", .ran "below"] ∧
        accepted.settle.logged = [Text.ofString "first", "second", "third"]) ∧
      faulty.submit.marks = [.ran "top", .ran "left", .ran "below", .ran "right"] ∧ faulty.submit.failure = none := by
  intro queue
  have visited (order : Order) : ∀ task ∈ order.visit (sited [] [faulty]), task.2.gates = [] ∧ task.2.Stays := by
    cases order <;>
      simp [faulty, Order.visit, Order.next, sited, children, Deed.submitted, deeds, gates, gate, Deed.gates, Stays,
        failure, Deed.failure, Failure.passed]
  have free : ∀ work ∈ [faulty], ∀ address task, work.at? address = some task → queue.admits task.gates = true := by
    intro work member address task found
    obtain rfl := List.mem_singleton.mp member
    have listed : ((0 :: address), task) ∈ Order.breadth.visit (sited [] [faulty]) :=
      Order.mem_visit_sited.mpr (Option.bind_eq_some_iff.mpr ⟨_, rfl, found⟩)
    rw [(visited .breadth _ listed).1]
    rfl
  refine ⟨rfl, rfl, rfl, free, ?_⟩
  obtain ⟨⟨accepted, earlier, later, tasks, submitted, finished, empty, traversal, marks, logged, -⟩, others, preorder,
    onSpot⟩ := each_once_in_either_order faulty [] rfl rfl rfl free
  obtain ⟨rfl, rfl⟩ := List.append_eq_nil_iff.mp empty.symm
  obtain rfl := traversal.unique (traversal_visit .breadth _)
  obtain rfl := preorder.unique (traversal_visit .depth _)
  obtain ⟨spotMarks, failure, -, -⟩ := onSpot fun task member => (visited .depth task member).2
  refine ⟨⟨accepted, submitted, finished, ?_, ?_⟩, ?_, failure⟩
  · rw [marks]
    simp [faulty, Order.visit, Order.next, sited, children, Deed.submitted, deeds, label, Queue.after, Queue.run]
  · rw [logged]
    simp [faulty, Order.visit, Order.next, sited, children, Deed.submitted, deeds, Queue.after, Queue.run, Worker.due,
      due, Work.failure, Deed.failure, Failure.logged]
  · rw [spotMarks]
    simp [faulty, Order.visit, Order.next, sited, children, Deed.submitted, deeds, label]

end Pubsub
