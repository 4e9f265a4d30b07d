import Pubsub.Session.Weight

/-! One step of a session, and what can be seen of it. After a step the readers go on until nothing is
left to read, and callbacks that only had to wait for their turn are made. -/

namespace Pubsub

structure Answer where
  result : StepResult
  nested : List StepResult
  calls : List Callback
  sent : List Sent
  records : List Record

namespace Session

/-- Moves until no task can go on. -/
def settle (session : Session) : Session := run session.weight session

def ofClient (client : Client) (dispatch : Dispatch) (cast : Cast) : Session where
  play := { scene := { client }, cast }
  dispatch

def step (session : Session) (step : Step) : Session × Answer :=
  let before := session.client
  let session := { session with
    play := { session.play with calls := [] }, result := none, nested := [], running := some .application }
  let session := (session.start .application step).wake.settle
  let session :=
    if session.dispatch = .queued then { session with play := session.play.makeAll .queued } else session
  (session, {
    result := session.result.getD (.ok .nothing)
    nested := session.nested
    calls := session.play.calls
    sent := session.client.sent.drop before.sent.length
    records := session.client.records.drop before.records.length })

def steps (session : Session) : List Step → Session × List Answer
  | [] => (session, [])
  | step :: rest =>
    let (session, answer) := session.step step
    let (session, answers) := session.steps rest
    (session, answer :: answers)

end Session
end Pubsub
