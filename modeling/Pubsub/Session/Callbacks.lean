import Pubsub.Session.Scene
import Pubsub.Work.Failure

/-! Making callbacks. An error of a listener is logged and is nobody else's concern. Callbacks that
follow from what a listener does are made inside its own, after all others, or not yet. -/

namespace Pubsub

/-- When callbacks are made: as soon as they are submitted, one after another, or on demand. -/
inductive Dispatch where
  | direct
  | queued
  | deferred
deriving DecidableEq

inductive Job where
  | callback (callback : Callback)
  /-- The rest of what a listener does in its callback, and the error that it raises then. -/
  | script (acts : List Act) (error : Option Text)

namespace Job

/-- The acts that are left of a callback under way. -/
def acts : Job → Nat
  | .callback _ => 0
  | .script acts _ => acts.length

def rank : Job → Nat
  | .callback _ => 2
  | .script _ _ => 1

def totalActs : List Job → Nat
  | [] => 0
  | job :: rest => job.acts + totalActs rest

def totalRank : List Job → Nat
  | [] => 0
  | job :: rest => job.rank + totalRank rest

theorem totalActs_callbacks (callbacks : List Callback) : totalActs (callbacks.map .callback) = 0 := by
  induction callbacks with
  | nil => rfl
  | cons _ _ ih => simpa [totalActs, acts] using ih

theorem totalActs_append (first second : List Job) :
    totalActs (first ++ second) = totalActs first + totalActs second := by
  induction first with
  | nil => simp only [List.nil_append, totalActs, Nat.zero_add]
  | cons job rest ih => simp only [List.cons_append, totalActs, ih, Nat.add_assoc]

/-- Where callbacks are put that follow from the job under way. -/
def followedBy (dispatch : Dispatch) (jobs : List Job) (callbacks : List Callback) : List Job :=
  match dispatch with
  | .direct => callbacks.map .callback ++ jobs
  | .queued => jobs ++ callbacks.map .callback
  | .deferred => jobs

theorem totalActs_followedBy (dispatch : Dispatch) (jobs : List Job) (callbacks : List Callback) :
    totalActs (followedBy dispatch jobs callbacks) = totalActs jobs := by
  cases dispatch <;> simp [followedBy, totalActs_append, totalActs_callbacks]

end Job

structure Play where
  scene : Scene
  cast : Cast
  /-- The callbacks that were made, oldest first. -/
  calls : List Callback := []

namespace Play

/-- What a listener that cannot be told of subscriptions fails with. -/
def unheard : Text := "no attribute 'on_subscription_succeeded'"

/-- Ends a callback, apart from whoever submitted it. -/
def isolate (play : Play) (failure : Option Failure) : Play :=
  let client :=
    match failure.bind Failure.logged with
    | some _ => play.scene.client.log .dispatcher .error "Listener task failed"
    | none => play.scene.client
  { play with scene := { play.scene with client } }

/-- Takes the callbacks that were submitted, unless they are to wait. -/
def takeWaiting (dispatch : Dispatch) (scene : Scene) : Scene × List Callback :=
  if dispatch = .deferred then (scene, [])
  else ({ scene with client := { scene.client with waiting := [] } }, scene.client.waiting)

/-- Does jobs in turn, with all that follows. -/
def make (dispatch : Dispatch) (play : Play) : List Job → Play
  | [] => play
  | .callback callback :: rest =>
    match _found : Cast.next callback.notice callback.listener play.cast with
    | (manner, script, cast) =>
      if manner = .eventsOnly ∧ callback.notice matches .subscribed _ then
        make dispatch (play.isolate (some (.error unheard))) rest
      else
        make dispatch { play with cast, calls := play.calls ++ [callback] }
          (.script script manner.error :: rest)
  | .script [] error :: rest => make dispatch (play.isolate (error.map .error)) rest
  | .script (act :: acts) error :: rest =>
    let (scene, result) := play.scene.perform act
    let (scene, callbacks) := takeWaiting dispatch scene
    let left := match result with
      | .ok _ => .script acts error
      | .error fault => .script [] (some fault.reason)
    make dispatch { play with scene } (Job.followedBy dispatch (left :: rest) callbacks)
termination_by jobs => (play.cast.size + Job.totalActs jobs, Job.totalRank jobs)
decreasing_by
  · apply Prod.Lex.right'
    · simp [isolate, Job.totalActs, Job.acts]
    · simp [Job.totalRank, Job.rank]
  · have kept := Cast.next_size callback.notice callback.listener play.cast
    rw [_found] at kept
    apply Prod.Lex.right'
    · simp [Job.totalActs, Job.acts] at kept ⊢
      omega
    · simp [Job.totalRank, Job.rank]
  · apply Prod.Lex.right'
    · simp [isolate, Job.totalActs, Job.acts]
    · simp [Job.totalRank, Job.rank]
  · apply Prod.Lex.left
    rw [Job.totalActs_followedBy]
    cases result <;> simp [Job.totalActs, Job.acts]

/-- Makes the callbacks that wait, and those that follow. -/
def makeAll (dispatch : Dispatch) (play : Play) : Play :=
  let (scene, callbacks) := takeWaiting .queued play.scene
  make dispatch { play with scene } (callbacks.map .callback)

/-- Makes so many of the callbacks that wait; those that follow wait too. -/
def makeSome (play : Play) : Nat → Play
  | 0 => play
  | count + 1 =>
    match play.scene.client.waiting with
    | [] => play
    | callback :: waiting =>
      let scene := { play.scene with client := { play.scene.client with waiting } }
      (make .deferred { play with scene } [.callback callback]).makeSome count

end Play
end Pubsub
