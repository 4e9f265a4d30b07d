import Pubsub.Proofs.Beside

/-! When callbacks are made is of no account to a session whose listeners only take note of them: at once, after
each step or at the very end, everything else happens as it does, and every listener gets the same calls in
the same order. -/

namespace Pubsub
open Client (Apart)

mutual

/-- A step that neither shuts the queue for callbacks down nor makes callbacks out of turn, now or later. -/
def Step.ordinary : Step → Bool
  | .act .shutDown | .makeCallbacks _ => false
  | .plan plans => Plan.ordinaries plans
  | _ => true

def Plan.ordinary : Plan → Bool
  | .while during _ _ => Step.ordinaries during

def Step.ordinaries : List Step → Bool
  | [] => true
  | step :: rest => step.ordinary && Step.ordinaries rest

def Plan.ordinaries : List Plan → Bool
  | [] => true
  | plan :: rest => plan.ordinary && Plan.ordinaries rest

end

def Suspension.ordinary (suspension : Suspension) : Bool :=
  match suspension.wait with
  | .sending during _ _ => Step.ordinaries during
  | .reader _ => true

namespace Session

/-- A session and one that puts all of its callbacks off. In the past the first one has made these callbacks and the
second one has not; so much of them was heard before the present step. -/
structure Tracks (dispatch : Dispatch) (heard past : List Callback) (a f : Session) : Prop where
  dispatched : a.dispatch = dispatch
  prompt : dispatch = .direct → a.client.waiting = []
  beside : ∃ scene, Scene.Beside past a.play.scene scene ∧
    f = { a with dispatch := .deferred, play := { a.play with scene, calls := [] } }
  heard : heard ++ a.play.calls = past.filter a.play.cast.hears
  silent : a.play.cast.Silent
  plans : Plan.ordinaries a.plans = true
  waits : ∀ entry ∈ a.suspended, ∀ suspension ∈ entry.2, suspension.ordinary = true

/-- The same, whatever callbacks have been made. -/
def Mirrors (dispatch : Dispatch) (heard : List Callback) (a f : Session) : Prop := ∃ past, Tracks dispatch heard past a f

variable {dispatch : Dispatch} {heard past : List Callback} {a f : Session}

namespace Tracks

variable (tracks : Tracks dispatch heard past a f)
include tracks

theorem stack (task : Task) : f.stack task = a.stack task := by
  obtain ⟨scene, beside, rfl⟩ := tracks.beside
  rfl

theorem scene : Scene.Beside past a.play.scene f.play.scene := by
  obtain ⟨scene, beside, rfl⟩ := tracks.beside
  exact beside

theorem apart : Apart past true a.client f.client := by
  obtain ⟨_, ⟨client, apart, rfl⟩, rfl⟩ := tracks.beside
  exact apart

theorem ready : f.ready = a.ready := by
  obtain ⟨scene, beside, rfl⟩ := tracks.beside
  rfl

theorem readers : f.client.readers = a.client.readers := by
  obtain ⟨_, _, _, equal⟩ := tracks.apart
  rw [equal]

theorem isCancelling (task : Task) : f.client.isCancelling task = a.client.isCancelling task := by
  cases task with
  | application => rfl
  | reader id => simp only [Client.isCancelling, tracks.readers]

theorem isDone (reader : ReaderId) : f.client.isDone reader = a.client.isDone reader := by
  unfold Client.isDone
  rw [tracks.readers]

private theorem stack_ordinary (task : Task) : ∀ suspension ∈ a.stack task, suspension.ordinary = true := by
  unfold Session.stack
  cases found : a.suspended.find? (·.1 == task) with
  | none => exact nofun
  | some entry => exact tracks.waits entry (List.mem_of_find?_eq_some found)

theorem setStack (task : Task) {stack : List Suspension} (ordinary : ∀ suspension ∈ stack, suspension.ordinary = true) :
    Tracks dispatch heard past (a.setStack task stack) (f.setStack task stack) := by
  obtain ⟨scene, beside, rfl⟩ := tracks.beside
  refine { tracks with beside := ⟨scene, beside, rfl⟩, waits := ?_ }
  intro entry listed
  rcases List.mem_cons.mp listed with rfl | kept
  · exact ordinary
  · exact tracks.waits entry (List.mem_filter.mp kept).1

theorem push (task : Task) {suspension : Suspension} (ordinary : suspension.ordinary = true) :
    Tracks dispatch heard past (a.push task suspension) (f.push task suspension) := by
  unfold Session.push
  rw [tracks.stack]
  exact tracks.setStack task (List.forall_mem_cons.mpr ⟨ordinary, tracks.stack_ordinary task⟩)

private theorem setPlans {plans : List Plan} (ordinary : Plan.ordinaries plans = true) :
    Tracks dispatch heard past { a with plans } { f with plans } := by
  obtain ⟨scene, beside, rfl⟩ := tracks.beside
  exact { tracks with beside := ⟨scene, beside, rfl⟩, plans := ordinary }

/-- Making the callbacks that wait is of no account to the other session. -/
theorem makeAll (manner : Dispatch) {s t : Scene} (beside : Scene.Beside past s t) :
    Mirrors dispatch heard { a with play := Play.makeAll manner { a.play with scene := s } } (f.setScene t) := by
  obtain ⟨scene, _, rfl⟩ := tracks.beside
  obtain ⟨records, made⟩ := @Play.makeAll_silent { a.play with scene := s } tracks.silent manner
  -- what is made here still waits there, behind all that was put off before
  have told : heard ++ (a.play.calls ++ s.client.waiting.filter a.play.cast.hears) =
      (past ++ s.client.waiting).filter a.play.cast.hears := by
    rw [List.filter_append, ← tracks.heard, List.append_assoc]
  rw [made]
  exact ⟨_, { tracks with prompt := fun _ => rfl, beside := ⟨t, beside.made records, rfl⟩, heard := told }⟩

theorem setScene {s t : Scene} (beside : Scene.Beside past s t) :
    Mirrors dispatch heard (a.setScene s) (f.setScene t) := by
  by_cases direct : dispatch = .direct
  · have set : a.setScene s = { a with play := Play.makeAll .direct { a.play with scene := s } } := by
      rw [Session.setScene, if_pos (tracks.dispatched.trans direct)]
    rw [set]
    exact tracks.makeAll .direct beside
  · have set : a.setScene s = { a with play := { a.play with scene := s } } := by
      rw [Session.setScene, if_neg fun same => direct (tracks.dispatched.symm.trans same)]
    obtain ⟨scene, _, rfl⟩ := tracks.beside
    rw [set]
    exact ⟨past, { tracks with prompt := fun same => absurd same direct, beside := ⟨t, beside, rfl⟩ }⟩

theorem setClient {x y : Client} (apart : Apart past true x y) :
    Mirrors dispatch heard (a.setClient x) (f.setClient y) := by
  refine tracks.setScene ?_
  obtain ⟨_, ⟨client, _, rfl⟩, rfl⟩ := tracks.beside
  exact ⟨y, apart, rfl⟩

theorem suspend (task : Task) (call : CallId) :
    Tracks dispatch heard past (a.suspend task call) (f.suspend task call) := by
  have plans : f.plans = a.plans := by
    obtain ⟨scene, beside, rfl⟩ := tracks.beside
    rfl
  have ordinary := tracks.plans
  unfold Session.suspend
  rw [tracks.apart.call?, plans]
  split
  · exact tracks.push task rfl
  · exact tracks.push task rfl
  · exact tracks.push task rfl
  · split
    · exact tracks.push task rfl
    next during turns failure rest found =>
      rw [found, Plan.ordinaries, Bool.and_eq_true, Plan.ordinary] at ordinary
      exact (tracks.setPlans ordinary.2).push task ordinary.1

/-- What a step gave, and the steps inside it. -/
theorem note (result : Option StepResult) (nested : List StepResult) :
    Tracks dispatch heard past { a with result, nested } { f with result, nested } := by
  obtain ⟨scene, beside, rfl⟩ := tracks.beside
  exact { tracks with beside := ⟨scene, beside, rfl⟩ }

/-- What a step gave depends on the names at most. -/
theorem finish (task : Task) {result : Scene → StepResult}
    (named : ∀ (scene : Scene) (client : Client), result { scene with client } = result scene) :
    Tracks dispatch heard past (a.finish task result) (f.finish task result) := by
  obtain ⟨scene, beside, rfl⟩ := tracks.beside
  have same : result scene.adopt = result a.play.scene.adopt := by
    obtain ⟨client, _, equal⟩ := beside.adopt
    rw [equal]
    exact named _ _
  -- naming channels submits nothing, so what is prompt stays so
  have adopted : Tracks dispatch heard past a.adopt (Session.adopt
      { a with dispatch := .deferred, play := { a.play with scene, calls := [] } }) :=
    { tracks with
      prompt := fun direct => (congrArg Client.waiting a.play.scene.adopt_client).trans (tracks.prompt direct)
      beside := ⟨_, beside.adopt, rfl⟩ }
  unfold Session.finish
  rw [tracks.stack]
  dsimp only [Session.adopt] at adopted ⊢
  rw [same]
  split
  · exact adopted.note a.result _
  · split
    · exact adopted.note _ a.nested
    · exact tracks

theorem follow (task : Task) {x y : Client × Progress} (agree : Client.Agree past true x y) :
    Mirrors dispatch heard (a.follow task x) (f.follow task y) := by
  obtain ⟨client, progress⟩ := x
  obtain ⟨other, outcome⟩ := y
  obtain ⟨apart, equal⟩ := agree
  dsimp only at equal
  subst equal
  obtain ⟨later, set⟩ := tracks.setClient apart
  refine ⟨later, ?_⟩
  unfold Session.follow
  dsimp only
  split
  · exact set.suspend task _
  · exact set.finish task fun _ _ => rfl
  · exact set.finish task fun _ _ => rfl
  · exact set.finish task fun _ _ => rfl

theorem start (task : Task) {step : Step} (ordinary : step.ordinary = true) :
    Mirrors dispatch heard (a.start task step) (f.start task step) := by
  have apart := tracks.apart
  cases step with
  | act act =>
    have running : act ≠ .shutDown := by
      rintro rfl
      contradiction
    obtain ⟨after, same⟩ := tracks.scene.perform running
    obtain ⟨later, set⟩ := tracks.setScene after
    refine ⟨later, ?_⟩
    simp only [Session.start, ← same]
    exact set.finish task fun _ _ => rfl
  | subscribe name listener events => exact tracks.follow task (apart.subscribe task name listener events)
  | unsubscribe name => exact tracks.follow task (apart.unsubscribe task name)
  | resubscribe => exact tracks.follow task (apart.resubscribeAll task none)
  | connect failure =>
    have agree := apart.connect task
    obtain ⟨later, set⟩ := tracks.setClient agree.1
    refine ⟨later, ?_⟩
    simp only [Session.start, ← agree.2]
    exact set.push task rfl
  | send message => exact tracks.follow task (apart.message task message)
  | disconnect failure =>
    have jammed : Apart past true (breakClosing a.client failure) (breakClosing f.client failure) := by
      obtain ⟨_, _, same, equal⟩ := apart
      rw [equal]
      cases failure <;> exact ⟨_, _, same, rfl⟩
    exact tracks.follow task (jammed.disconnect task)
  | plan plans =>
    refine ⟨past, ?_⟩
    simp only [Session.start]
    exact (tracks.setPlans ordinary).finish task fun _ _ => rfl
  | makeCallbacks => contradiction  -- these are not ordinary

theorem canGoOn (task : Task) : f.canGoOn task = a.canGoOn task := by
  obtain ⟨_, ⟨_, ⟨_, _, _, rfl⟩, rfl⟩, rfl⟩ := tracks.beside
  rfl

/-- Whose turn it is and whose comes next. -/
theorem setTurns (running : Option Task) (ready : List Task) :
    Tracks dispatch heard past { a with running, ready } { f with running, ready } := by
  obtain ⟨scene, beside, rfl⟩ := tracks.beside
  exact { tracks with beside := ⟨scene, beside, rfl⟩ }

theorem woken : f.woken = a.woken := by
  have canGoOn : f.canGoOn = a.canGoOn := funext tracks.canGoOn
  unfold Session.woken
  rw [canGoOn, tracks.readers]
  obtain ⟨scene, beside, rfl⟩ := tracks.beside
  rfl

theorem wake : Tracks dispatch heard past a.wake f.wake := by
  unfold Session.wake
  rw [tracks.woken]
  obtain ⟨scene, beside, rfl⟩ := tracks.beside
  exact tracks.setTurns a.running _

theorem stop : Tracks dispatch heard past a.stop f.stop := by
  obtain ⟨scene, beside, rfl⟩ := tracks.beside
  exact tracks.setTurns none a.ready

theorem hasInput (reader : ReaderId) : Session.hasInput f.client reader = Session.hasInput a.client reader := by
  obtain ⟨_, _, _, equal⟩ := tracks.apart
  rw [equal]
  rfl

theorem proceed (task : Task) : Mirrors dispatch heard (a.proceed task) (f.proceed task) := by
  have apart := tracks.apart
  have stopped : Mirrors dispatch heard a.stop f.stop := ⟨past, tracks.stop⟩
  have ordinary := tracks.stack_ordinary task
  unfold Session.proceed
  rw [tracks.isCancelling, tracks.stack]
  split
  · cases task with
    | application => exact stopped
    | reader id =>
      obtain ⟨later, unwound⟩ := (tracks.setStack (.reader id) (List.forall_mem_nil _)).setClient (apart.unwind id)
      exact ⟨later, unwound.stop⟩
  · split
    next empty =>
      cases task with
      | application => exact stopped
      | reader id =>
        dsimp only
        rw [tracks.hasInput]
        split
        · exact tracks.follow _ (apart.turn id)
        · exact stopped
    next call step during turns failure rest found =>
      rw [found] at ordinary
      obtain ⟨waiting, others⟩ := List.forall_mem_cons.mp ordinary
      have both : step.ordinary = true ∧ Step.ordinaries during = true := by
        rwa [← Bool.and_eq_true, ← Step.ordinaries]
      have left : ∀ suspension ∈ ⟨call, .sending during turns failure⟩ :: rest, suspension.ordinary = true :=
        List.forall_mem_cons.mpr ⟨both.2, others⟩
      exact (tracks.setStack task left).start task both.1
    next call turns failure rest found =>
      rw [found] at ordinary
      have left : ∀ suspension ∈ ⟨call, .sending [] turns failure⟩ :: rest, suspension.ordinary = true :=
        List.forall_mem_cons.mpr ⟨rfl, (List.forall_mem_cons.mp ordinary).2⟩
      rw [tracks.ready]
      exact ⟨past, (tracks.setStack task left).setTurns none (a.ready ++ [task])⟩
    next call failure rest found =>
      rw [found] at ordinary
      exact (tracks.setStack task (List.forall_mem_cons.mp ordinary).2).follow task (apart.resume call _)
    next call id rest found =>
      rw [found] at ordinary
      rw [tracks.isDone]
      split
      · exact (tracks.setStack task (List.forall_mem_cons.mp ordinary).2).follow task (apart.resume call _)
      · exact stopped

theorem weight : f.weight = a.weight := by
  have woken := tracks.woken
  obtain ⟨_, ⟨_, ⟨_, _, _, rfl⟩, rfl⟩, rfl⟩ := tracks.beside
  unfold Session.weight round
  rw [woken]
  rfl

/-- Either both sessions can go on, or neither. -/
theorem move : Option.Rel (Mirrors dispatch heard) a.move f.move := by
  have running : f.running = a.running := by
    obtain ⟨scene, beside, rfl⟩ := tracks.beside
    rfl
  unfold Session.move
  rw [running, tracks.ready]
  split
  next task _ =>
    obtain ⟨later, after⟩ := tracks.proceed task
    exact .some ⟨later, after.wake⟩
  next task rest _ _ => exact .some ⟨past, tracks.setTurns (some task) rest⟩
  · exact .none

end Tracks

theorem Mirrors.run (mirrors : Mirrors dispatch heard a f) (fuel : Nat) :
    Mirrors dispatch heard (a.run fuel) (f.run fuel) := by
  induction fuel generalizing a f with
  | zero => exact mirrors
  | succ fuel ih =>
    obtain ⟨past, tracks⟩ := mirrors
    have moved := tracks.move
    unfold Session.run
    generalize a.move = x, f.move = y at moved
    cases moved with
    | some both => exact ih both
    | none => exact ⟨past, tracks⟩

theorem Mirrors.settle (mirrors : Mirrors dispatch heard a f) : Mirrors dispatch heard a.settle f.settle := by
  obtain ⟨_, tracks⟩ := mirrors
  unfold Session.settle
  rw [tracks.weight]
  exact Mirrors.run ⟨_, tracks⟩ a.weight

def called (session : Session) : Session :=
  { session with
    play := { session.play with calls := [] }, result := none, nested := [], running := some .application }

def settled (session : Session) : Session :=
  if session.dispatch = .queued then { session with play := session.play.makeAll .queued } else session

private theorem step_run (session : Session) (step : Step) :
    (session.step step).1 = (session.called.start .application step).wake.settle.settled :=
  rfl

private theorem step_answer (session : Session) (step : Step) :
    (session.step step).2 =
      { result := (session.step step).1.result.getD (.ok .nothing)
        nested := (session.step step).1.nested
        calls := (session.step step).1.play.calls
        sent := (session.step step).1.client.sent.drop session.client.sent.length
        records := (session.step step).1.client.records.drop session.client.records.length } :=
  rfl

namespace Tracks

variable (tracks : Tracks dispatch heard past a f)
include tracks

theorem sent : f.client.sent = a.client.sent := by
  obtain ⟨_, _, _, equal⟩ := tracks.apart
  rw [equal]

theorem called : Tracks dispatch (heard ++ a.play.calls) past a.called f.called := by
  obtain ⟨scene, beside, rfl⟩ := tracks.beside
  have told : heard ++ a.play.calls ++ [] = past.filter a.play.cast.hears := by
    rw [List.append_nil, tracks.heard]
  exact { tracks with beside := ⟨scene, beside, rfl⟩, heard := told }

theorem settled : Mirrors dispatch heard a.settled f.settled ∧ (dispatch ≠ .deferred → a.settled.client.waiting = []) := by
  have late : f.settled = f.setScene f.play.scene := by
    obtain ⟨scene, beside, rfl⟩ := tracks.beside
    rfl
  by_cases queued : a.dispatch = .queued
  · obtain ⟨_, made⟩ := Play.makeAll_silent tracks.silent .queued
    rw [late, Session.settled, if_pos queued]
    exact ⟨tracks.makeAll .queued tracks.scene, fun _ => by rw [Session.client, made]⟩
  · have same : f.settled = f := by
      obtain ⟨scene, beside, rfl⟩ := tracks.beside
      rfl
    rw [same, Session.settled, if_neg queued]
    refine ⟨⟨past, tracks⟩, fun making => tracks.prompt ?_⟩
    cases dispatch with
    | direct => rfl
    | queued => exact absurd tracks.dispatched queued
    | deferred => exact absurd rfl making

end Tracks

end Session

/-- What a step gave, what those inside it gave, and the frames that were sent. -/
def Answer.observed (answer : Answer) : StepResult × List StepResult × List Sent :=
  (answer.result, answer.nested, answer.sent)

namespace Session

/-- Two sessions between steps, where the first one has made these callbacks in all. It has put none off if it makes
callbacks at all. -/
def Abreast (dispatch : Dispatch) (told : List Callback) (a f : Session) : Prop :=
  ∃ heard, Mirrors dispatch heard a f ∧ heard ++ a.play.calls = told ∧ (dispatch ≠ .deferred → a.client.waiting = [])

variable {dispatch : Dispatch} {told : List Callback} {a f : Session}

theorem Abreast.step (abreast : Abreast dispatch told a f) {step : Step} (ordinary : step.ordinary = true) :
    Abreast dispatch (told ++ (a.step step).2.calls) (a.step step).1 (f.step step).1 ∧
      (a.step step).2.observed = (f.step step).2.observed ∧ (f.step step).2.calls = [] := by
  obtain ⟨heard, ⟨past, tracks⟩, rfl, _⟩ := abreast
  obtain ⟨_, started⟩ := tracks.called.start .application ordinary
  obtain ⟨_, ran⟩ := Mirrors.settle ⟨_, started.wake⟩
  obtain ⟨⟨last, ended⟩, settled⟩ := ran.settled
  rw [← step_run] at ended settled
  rw [← step_run] at ended
  refine ⟨⟨_, ⟨last, ended⟩, by rw [step_answer], settled⟩, ?_, ?_⟩
  · simp only [Answer.observed, step_answer]
    rw [ended.sent, tracks.sent]
    obtain ⟨_, _, equal⟩ := ended.beside
    rw [equal]
  · obtain ⟨_, _, equal⟩ := ended.beside
    rw [step_answer, equal]

/-- Over many steps, each gives the same, and the second session makes no callbacks. -/
theorem Abreast.steps (abreast : Abreast dispatch told a f) {steps : List Step}
    (ordinary : Step.ordinaries steps = true) :
    Abreast dispatch (told ++ (a.steps steps).2.flatMap (·.calls)) (a.steps steps).1 (f.steps steps).1 ∧
      (a.steps steps).2.map Answer.observed = (f.steps steps).2.map Answer.observed ∧
      ∀ answer ∈ (f.steps steps).2, answer.calls = [] := by
  induction steps generalizing told a f with
  | nil => exact ⟨by rwa [Session.steps, List.flatMap_nil, List.append_nil], rfl, nofun⟩
  | cons step rest ih =>
    rw [Step.ordinaries, Bool.and_eq_true] at ordinary
    obtain ⟨first, observed, silent⟩ := abreast.step ordinary.1
    obtain ⟨others, alike, later⟩ := ih first ordinary.2
    refine ⟨?_, ?_, ?_⟩
    · rwa [List.append_assoc] at others
    · simp only [Session.steps, List.map_cons, observed, alike]
    · exact List.forall_mem_cons.mpr ⟨silent, later⟩

/-- What a session comes to once the callbacks that were put off have been made: what each step gave and sent, the client
but for its log, the names of its channels, and all callbacks in their order. -/
structure Report where
  answers : List (StepResult × List StepResult × List Sent)
  scene : Scene
  calls : List Callback

def report (client : Client) (cast : Cast) (steps : List Step) (dispatch : Dispatch) : Report :=
  let (session, answers) := (ofClient client dispatch cast).steps steps
  let last := Play.makeAll .queued { session.play with calls := [] }
  { answers := answers.map (·.observed)
    scene := { last.scene with client := { last.scene.client with records := [] } }
    calls := answers.flatMap (·.calls) ++ last.calls }

/-- The second session makes in the end what the first one has made. -/
theorem Abreast.report (abreast : Abreast dispatch told a f) :
    let made := Play.makeAll .queued { a.play with calls := [] }
    let late := Play.makeAll .queued { f.play with calls := [] }
    { made.scene with client := { made.scene.client with records := [] } } =
      { late.scene with client := { late.scene.client with records := [] } } ∧
      told ++ made.calls = late.calls := by
  obtain ⟨heard, ⟨past, tracks⟩, rfl, _⟩ := abreast
  have silent : f.play.cast.Silent := by
    obtain ⟨scene, beside, rfl⟩ := tracks.beside
    exact tracks.silent
  obtain ⟨_, made⟩ := @Play.makeAll_silent { a.play with calls := [] } tracks.silent .queued
  obtain ⟨_, late⟩ := @Play.makeAll_silent { f.play with calls := [] } silent .queued
  dsimp only
  rw [made, late]
  have told := tracks.heard
  obtain ⟨scene, ⟨client, ⟨_, _, counted, rfl⟩, rfl⟩, rfl⟩ := tracks.beside
  obtain rfl := counted rfl
  refine ⟨rfl, ?_⟩
  dsimp only
  rw [List.nil_append, List.nil_append, List.filter_append, told]

/-- If the listeners only take note of their callbacks, all comes to the same whether these are made at once, after each
step or at the very end. -/
theorem dispatch_interchangeable (client : Client) (idle : client.waiting = []) {cast : Cast} (silent : cast.Silent)
    {steps : List Step} (ordinary : Step.ordinaries steps = true) :
    (∀ first second, report client cast steps first = report client cast steps second) ∧
      (∀ dispatch ≠ .deferred, ((ofClient client dispatch cast).steps steps).1.client.waiting = []) ∧
      ∀ answer ∈ ((ofClient client .deferred cast).steps steps).2, answer.calls = [] := by
  have start (dispatch : Dispatch) :
      Abreast dispatch [] (ofClient client dispatch cast) (ofClient client .deferred cast) := by
    have tracks : Tracks dispatch [] [] (ofClient client dispatch cast) (ofClient client .deferred cast) :=
      { dispatched := rfl
        prompt := fun _ => idle
        beside := ⟨{ client }, ⟨client, ⟨_, _, fun _ => rfl, rfl⟩, rfl⟩, rfl⟩
        heard := rfl
        silent
        plans := rfl
        waits := nofun }
    exact ⟨[], ⟨[], tracks⟩, rfl, fun _ => idle⟩
  have deferred (dispatch : Dispatch) : report client cast steps dispatch = report client cast steps .deferred := by
    obtain ⟨abreast, observed, later⟩ := (start dispatch).steps ordinary
    obtain ⟨scene, calls⟩ := abreast.report
    have none : ((ofClient client .deferred cast).steps steps).2.flatMap (·.calls) = [] :=
      List.flatMap_eq_nil_iff.mpr later
    simp only [report, Report.mk.injEq]
    refine ⟨observed, scene, ?_⟩
    rw [none]
    exact calls
  refine ⟨fun first second => (deferred first).trans (deferred second).symm, ?_, ?_⟩
  · intro dispatch making
    obtain ⟨⟨_, _, _, settled⟩, _⟩ := (start dispatch).steps ordinary
    exact settled making
  · exact ((start .deferred).steps ordinary).2.2

def reads (members : Members) : Step := .act (.arrive none (.frame (.text (Json.object members).compact)))

def price : Step := reads [("event", .text "price"), ("channel", .text "feed"), ("data", .text "41")]

def busy : List Step :=
  [.subscribe (some "feed") (some "first") [some "price"], .act (.bind "feed" (some "price") (some "second")),
    .act (.setLifecycle "feed" (some "second")), .connect none,
    reads [("event", .text "pusher:connection_established")],
    reads [("event", .text "pusher_internal:subscription_succeeded"), ("channel", .text "feed")], price,
    .plan [.while [price, .act (.unbind "feed" (some "price") (some "first"))] 1 none], .send "{}", price,
    .unsubscribe (some "feed")]

/-- One listener fails in each call, the other cannot be told of subscriptions. -/
def awkward : Cast := [("first", { manner := .failing "first" }), ("second", { manner := .eventsOnly })]

/-- Five callbacks are put off to the very end here, or none. -/
theorem dispatch_interchangeable_busy :
    awkward.Silent ∧ Step.ordinaries busy = true ∧
      ((ofClient (.fresh "url") .deferred awkward).steps busy).1.client.waiting.length = 5 ∧
      ((ofClient (.fresh "url") .queued awkward).steps busy).1.client.waiting = [] ∧
      report (.fresh "url") awkward busy .direct = report (.fresh "url") awkward busy .deferred ∧
      report (.fresh "url") awkward busy .queued = report (.fresh "url") awkward busy .deferred := by
  have silent : awkward.Silent := by simp [Cast.Silent, awkward]
  have ordinary : Step.ordinaries busy = true := by decide
  obtain ⟨same, prompt, _⟩ := dispatch_interchangeable (.fresh "url") rfl silent ordinary
  exact ⟨silent, ordinary, by decide +kernel, prompt .queued nofun, same _ _, same _ _⟩

end Session
end Pubsub
