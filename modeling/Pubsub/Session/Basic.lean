import Pubsub.Session.Callbacks

/-! A session: an application that drives a client, and the readers beside it. They are tasks that take
turns; a task keeps its turn until it waits. A task that sends a frame first lives through what
is planned for the time of the send. -/

namespace Pubsub

inductive Wait where
  /-- Steps that happen meanwhile, then turns of the other tasks, then the end of the send. -/
  | sending (during : List Step) (turns : Nat) (failure : Option Error)
  | reader (id : ReaderId)

structure Suspension where
  call : CallId
  wait : Wait

structure Session where
  play : Play
  dispatch : Dispatch := .direct
  plans : List Plan := []
  /-- The suspended calls of each task, the innermost first. -/
  suspended : List (Task × List Suspension) := []
  running : Option Task := none
  /-- The tasks whose turn comes next, in this order. -/
  ready : List Task := []
  /-- What the application's step gave, once it is over. -/
  result : Option StepResult := none
  /-- What the steps inside sends gave, as they were over. -/
  nested : List StepResult := []

namespace Session

def client (session : Session) : Client := session.play.scene.client

def stack (session : Session) (task : Task) : List Suspension :=
  ((session.suspended.find? (·.1 == task)).map (·.2)).getD []

def setStack (session : Session) (task : Task) (stack : List Suspension) : Session :=
  { session with suspended := (task, stack) :: session.suspended.filter (·.1 != task) }

def push (session : Session) (task : Task) (suspension : Suspension) : Session :=
  session.setStack task (suspension :: session.stack task)

/-- Takes what an operation made of the scene; callbacks are made at once if they are to be. -/
def setScene (session : Session) (scene : Scene) : Session :=
  let play := { session.play with scene }
  { session with play := if session.dispatch = .direct then play.makeAll .direct else play }

def setClient (session : Session) (client : Client) : Session :=
  session.setScene { session.play.scene with client }

def adopt (session : Session) : Session :=
  { session with play := { session.play with scene := session.play.scene.adopt } }

end Session
end Pubsub
