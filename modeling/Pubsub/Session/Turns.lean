import Pubsub.Session.Basic

/-! How the tasks of a session take turns. A task that becomes able to go on is placed behind those that
already were, so the order of turns is settled by what happens. -/

namespace Pubsub.Session

/-- What a suspended call waits for; a send takes the next plan. -/
def suspend (session : Session) (task : Task) (call : CallId) : Session :=
  match session.client.call? call with
  | some ⟨_, .disconnecting (some reader)⟩ => session.push task ⟨call, .reader reader⟩
  | some ⟨_, .disconnecting none⟩ => session.push task ⟨call, .sending [] 1 none⟩
  | some ⟨_, .closing _⟩ => session.push task ⟨call, .sending [] 0 none⟩
  | _ =>
    match session.plans with
    | [] => session.push task ⟨call, .sending [] 0 none⟩
    | .while during turns failure :: plans =>
      { session with plans }.push task ⟨call, .sending during turns failure⟩

/-- Notes what a step gave: one inside a send, or the application's own. What a reader does by itself is
nobody's step. -/
def finish (session : Session) (task : Task) (result : Scene → StepResult) : Session :=
  let adopted := session.adopt
  let value := result adopted.play.scene
  if !(session.stack task).isEmpty then { adopted with nested := session.nested ++ [value] }
  else if task = .application then { adopted with result := some value }
  else session

/-- Goes on from an operation of the client. -/
def follow (session : Session) (task : Task) (outcome : Client × Progress) : Session :=
  let session := session.setClient outcome.1
  match outcome.2 with
  | .suspended call => session.suspend task call
  | .done (.error error) => session.finish task fun _ => .error (.refused error)
  | .done (.ok none) => session.finish task fun _ => .ok .nothing
  | .done (.ok (some id)) => session.finish task fun scene => .ok (.handle (scene.handleOf id))

def breakClosing (client : Client) (failure : Option Text) : Client :=
  match failure with
  | none => client
  | some _ =>
    let sockets := client.sockets.modify (client.sockets.length - 1) fun socket =>
      { socket with closeError := failure }
    { client with sockets }

def start (session : Session) (task : Task) : Step → Session
  | .act act =>
    let (scene, result) := session.play.scene.perform act
    (session.setScene scene).finish task fun _ => result
  | .subscribe name listener events => session.follow task (session.client.subscribe task name listener events)
  | .unsubscribe name => session.follow task (session.client.unsubscribe task name)
  | .resubscribe => session.follow task (session.client.resubscribeAll task none)
  | .connect failure =>
    let (client, call) := session.client.connect task
    (session.setClient client).push task ⟨call, .sending [] 0 (failure.map .system)⟩
  | .send message => session.follow task (session.client.message task message)
  | .disconnect failure => session.follow task ((breakClosing session.client failure).disconnect task)
  | .plan plans => { session with plans }.finish task fun _ => .ok .nothing
  | .makeCallbacks none =>
    { session with play := session.play.makeAll .queued }.finish task fun _ => .ok .nothing
  | .makeCallbacks (some count) =>
    { session with play := session.play.makeSome count }.finish task fun _ => .ok .nothing

/-- Whether a reader has something to do when no call of its is suspended. -/
def hasInput (client : Client) (reader : ReaderId) : Bool :=
  match client.reading? reader with
  | some .starting => true
  | some (.idle socket) => (client.sockets[socket]?.map (·.incoming)).any fun incoming => !incoming.isEmpty
  | _ => false

/-- Whether a task that waits could go on. One that lets others take turns is placed again when it does. -/
def canGoOn (session : Session) (task : Task) : Bool :=
  session.client.isCancelling task ||
  match session.stack task, task with
  | [], .application => false
  | [], .reader id => hasInput session.client id
  | ⟨_, .reader id⟩ :: _, _ => session.client.isDone id
  | ⟨_, .sending _ _ _⟩ :: _, _ => false

/-- The tasks that have become able to go on. -/
def woken (session : Session) : List Task :=
  let readers := (List.range session.client.readers.length).map Task.reader
  (readers ++ [Task.application]).filter fun task =>
    session.canGoOn task && !session.ready.contains task && session.running != some task

def wake (session : Session) : Session := { session with ready := session.ready ++ session.woken }

def stop (session : Session) : Session := { session with running := none }

/-- What a task does next in its turn. -/
def proceed (session : Session) (task : Task) : Session :=
  if session.client.isCancelling task then
    match task with
    | .application => session.stop
    | .reader id => ((session.setStack task []).setClient (session.client.unwind id)).stop
  else
    match session.stack task with
    | [] =>
      match task with
      | .application => session.stop
      | .reader id => if hasInput session.client id then session.follow task (session.client.turn id) else session.stop
    | ⟨call, .sending (step :: during) turns failure⟩ :: rest =>
      (session.setStack task (⟨call, .sending during turns failure⟩ :: rest)).start task step
    | ⟨call, .sending [] (turns + 1) failure⟩ :: rest =>
      { session.setStack task (⟨call, .sending [] turns failure⟩ :: rest) with
        ready := session.ready ++ [task], running := none }
    | ⟨call, .sending [] 0 failure⟩ :: rest =>
      let outcome := match failure with
        | none => .ok ()
        | some error => .error error
      (session.setStack task rest).follow task (session.client.resume call outcome)
    | ⟨call, .reader id⟩ :: rest =>
      if session.client.isDone id then (session.setStack task rest).follow task (session.client.resume call (.ok ()))
      else session.stop

/-- One move of the session; none when no task can go on. -/
def move (session : Session) : Option Session :=
  match session.running, session.ready with
  | some task, _ => some (session.proceed task).wake
  | none, task :: ready => some { session with running := some task, ready }
  | none, [] => none

def run : Nat → Session → Session
  | 0, session => session
  | fuel + 1, session =>
    match session.move with
    | none => session
    | some session => run fuel session

end Pubsub.Session
