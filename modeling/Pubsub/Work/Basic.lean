import Pubsub.Error
import Pubsub.Work.Failure

/-! Work that makes more work. A task leaves its label when it runs, and then does one thing after another:
it waits, submits further tasks, and may fail. -/

namespace Pubsub

variable {α : Type}

/-- What a task does about a submission that is refused. -/
inductive Remedy where
  /-- The task fails with the error. -/
  | none
  | stop
  | goOn
deriving DecidableEq

mutual

/-- A task with a gate waits until that gate is open before it does anything. -/
inductive Work (α : Type) where
  | task (label : α) (gate : Option Text) (deeds : List (Deed α))

inductive Deed (α : Type) where
  | wait (gate : Text)
  | submit (work : Work α) (remedy : Remedy)
  | fail (failure : Failure)

end

namespace Deed

/-- What is submitted before a failure. -/
def submitted : List (Deed α) → List (Work α)
  | [] | .fail _ :: _ => []
  | .wait _ :: rest => submitted rest
  | .submit work _ :: rest => work :: submitted rest

/-- The gates that are waited for before a failure. -/
def gates : List (Deed α) → List Text
  | [] | .fail _ :: _ => []
  | .wait gate :: rest => gate :: gates rest
  | .submit _ _ :: rest => gates rest

def failure : List (Deed α) → Option Failure
  | [] => none
  | .fail failure :: _ => some failure
  | .wait _ :: rest | .submit _ _ :: rest => failure rest

end Deed

namespace Work

def label : Work α → α
  | .task label _ _ => label

def gate : Work α → Option Text
  | .task _ gate _ => gate

def deeds : Work α → List (Deed α)
  | .task _ _ deeds => deeds

def children (work : Work α) : List (Work α) := Deed.submitted work.deeds

def failure (work : Work α) : Option Failure := Deed.failure work.deeds

/-- All the gates that stand in the way of a task. -/
def gates (work : Work α) : List Text := work.gate.toList ++ Deed.gates work.deeds

/-- What a run leaves: the labels of the tasks, and of those whose refusal a task took. -/
inductive Mark (α : Type) where
  | ran (label : α)
  | refused (label : α) (error : Error)

/-- The labels of the tasks that ran. -/
def Mark.labels (marks : List (Mark α)) : List α :=
  marks.filterMap fun
    | .ran label => some label
    | .refused _ _ => none

/-- What a call leaves: its marks, the errors that were logged, and the failure that it passes on to its caller. -/
structure Outcome (α : Type) where
  marks : List (Mark α) := []
  logged : List Text := []
  failure : Option Failure := none

/-- One call after another, unless the first fails. -/
def Outcome.andThen (first second : Outcome α) : Outcome α :=
  match first.failure with
  | none => { second with marks := first.marks ++ second.marks, logged := first.logged ++ second.logged }
  | some _ => first

/-- A call whose errors are kept from the caller. -/
def Outcome.isolated (outcome : Outcome α) : Outcome α :=
  { outcome with
    logged := outcome.logged ++ (outcome.failure.bind Failure.logged).toList
    failure := outcome.failure.bind Failure.passed }

end Work

/-! A task that is run on the spot runs inside its parent's submission, and a submission that failed
would end the parent. Gates are taken to be open, since whoever could open one is waiting as well. -/

mutual

def Work.run : Work α → Work.Outcome α
  | .task label _ deeds => Work.Outcome.andThen { marks := [.ran label] } (Deed.run deeds)

def Deed.run : List (Deed α) → Work.Outcome α
  | [] => {}
  | .wait _ :: rest => Deed.run rest
  | .submit work _ :: rest => work.run.isolated.andThen (Deed.run rest)
  | .fail failure :: _ => { failure }

end

/-- Runs a task on the spot. -/
def Work.submit (work : Work α) : Work.Outcome α :=
  work.run.isolated

def Work.perform (work : Work α) : List (Work.Mark α) :=
  work.submit.marks

/-! The turns of a worker that a task needs, with everything it will submit. -/

mutual

def Work.effort : Work α → Nat
  | .task _ _ deeds => 2 + Deed.efforts deeds

def Deed.effort : Deed α → Nat
  | .wait _ | .fail _ => 1
  | .submit work _ => work.effort + 4

def Deed.efforts : List (Deed α) → Nat
  | [] => 0
  | deed :: rest => deed.effort + Deed.efforts rest

end

theorem Work.effort_eq (work : Work α) : work.effort = 2 + Deed.efforts work.deeds := by
  cases work
  rfl

end Pubsub
