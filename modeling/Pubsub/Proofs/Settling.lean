import Pubsub.Proofs.Beside
import Pubsub.Proofs.Weights

/-! A session comes to rest. Every move takes something of what is left to do, so there are always moves enough, and what a
session settles to does not depend on how many it may take. -/

namespace Pubsub

open Client (Gains)
variable {channels : Nat}

/-- An act brings one arrival at most. -/
theorem Scene.perform_gains (scene : Scene) (act : Act) :
    Gains channels 0 (2 * channels + 3) scene.client (scene.perform act).1.client := by
  have lightly {after : Client} (gains : Gains channels 0 0 scene.client after) :
      Gains channels 0 (2 * channels + 3) scene.client after := gains.free _ _
  have change (handle : Handle) (update : Channel → Except Error Channel) :
      Gains channels 0 (2 * channels + 3) scene.client (scene.change handle update).1.client := by
    unfold Scene.change
    split
    · exact lightly (.refl _)
    · split
      · exact lightly (.refl _)
      · exact lightly (.of_same (Nat.le_refl _) rfl rfl rfl)
  have apply (handle : Handle) {operation : ChannelId → Client × Except Error Unit}
      (quiet : ∀ id, Client.Quiet scene.client (operation id).1) :
      Gains channels 0 (2 * channels + 3) scene.client (scene.apply handle operation).1.client := by
    unfold Scene.apply
    split
    · exact lightly (.refl _)
    · exact lightly (.quiet (quiet _))
  cases act with
  | make handle name family =>
    simp only [Scene.perform]
    split
    · exact lightly (.refl _)
    · exact lightly (.of_same (Nat.le_refl _) rfl rfl rfl)
  | bind handle | unbind handle | setToken handle | setLifecycle handle => exact change handle _
  | farewell handle =>
    simp only [Scene.perform]
    split
    · exact lightly (.refl _)
    next id _ _ => exact lightly (.quiet (.moveTo _ id .ended))
  | move handle phase => exact apply handle fun id => .moveTo _ id phase
  | receive handle event frame => exact apply handle fun id => .receive _ id event frame
  | deliver name event frame => exact lightly (.quiet (.deliver _ name event frame))
  | lose resumable =>
    cases resumable with
    | true => exact lightly (.suspendAll _)
    | false => exact lightly (.endAll _)
  | attach => exact lightly (.of_same (Nat.le_refl _) rfl rfl rfl)
  | setConnected connected =>
    simp only [Scene.perform]
    split
    · exact lightly (.of_same (Nat.le_refl _) rfl rfl rfl)
    · exact lightly (.refl _)
  | arrive socket arrival =>
    simp only [Scene.perform, Scene.arrive]
    split
    next inside =>
      generalize socket.getD (scene.client.sockets.length - 1) = socket at inside
      obtain ⟨state, found⟩ : ∃ state, scene.client.sockets[socket]? = some state :=
        ⟨_, List.getElem?_eq_getElem inside⟩
      have more := total_modify found (fun socket => { socket with incoming := socket.incoming ++ [arrival] })
        (fun socket => socket.incoming.length)
      refine ⟨Nat.le_refl _, Nat.le_refl _, ?_⟩
      have unread : ∀ sockets : List Socket, total (·.incoming.length) sockets = scene.client.unread + 1 →
          Client.weight channels { scene.client with sockets } = scene.client.weight channels + (2 * channels + 3) := by
        intro sockets one
        have same : Client.unread { scene.client with sockets } = scene.client.unread + 1 := one
        simp only [Client.weight, same, Nat.add_mul]
        omega
      refine Nat.le_of_eq (unread _ ?_)
      simp only [List.length_append, List.length_singleton] at more
      rw [Client.unread]
      omega
    · exact lightly (.refl _)
  | shutDown =>
    simp only [Scene.perform, Scene.shutDown]
    split
    · exact lightly (.of_same (Nat.le_refl _) rfl rfl rfl)
    · exact lightly (.refl _)
  | listeners | request | describe | precedes | sort | find | contains | statistics => exact lightly (.refl _)

private theorem Step.size_pos (step : Step) : 0 < step.size := by
  cases step <;> simp only [size] <;> omega

namespace Play

/-- Callbacks perform acts that their listeners have left to do, and so many others; each one brings one arrival at most. -/
def Performs (channels acts : Nat) (before after : Play) : Prop :=
  ∃ performed, after.cast.size + performed ≤ before.cast.size + acts ∧
    Gains channels 0 (performed * (2 * channels + 3)) before.scene.client after.scene.client

namespace Performs

theorem refl (acts : Nat) (play : Play) : Performs channels acts play play :=
  ⟨0, Nat.le_add_right _ _, (Gains.refl _).free _ _⟩

theorem trans {acts : Nat} {first middle last : Play} (a : Performs channels acts first middle)
    (b : Performs channels 0 middle last) : Performs channels acts first last := by
  obtain ⟨one, fewer, gains⟩ := a
  obtain ⟨two, less, more⟩ := b
  exact ⟨one + two, by omega, (gains.trans more).mono (Nat.le_refl _) (Nat.le_of_eq (Nat.add_mul ..).symm)⟩

theorem after {acts more : Nat} {first middle last : Play} (performs : Performs channels acts middle last)
    (gains : Gains channels 0 0 first.scene.client middle.scene.client)
    (cast : middle.cast.size + acts ≤ first.cast.size + more) : Performs channels more first last := by
  obtain ⟨performed, fewer, gained⟩ := performs
  exact ⟨performed, Nat.le_trans fewer cast, (gains.trans gained).mono (Nat.le_refl _) (Nat.le_of_eq (Nat.zero_add _))⟩

end Performs

private theorem isolate_gains (play : Play) (failure : Option Failure) :
    Gains channels 0 0 play.scene.client (play.isolate failure).scene.client := by
  unfold isolate
  dsimp only
  split
  · exact .log _ _ _ _ _
  · exact .refl _

private theorem takeWaiting_gains (dispatch : Dispatch) (scene : Scene) :
    Gains channels 0 0 scene.client (takeWaiting dispatch scene).1.client := by
  unfold takeWaiting
  split
  · exact .refl _
  · exact .of_same (Nat.le_refl _) rfl rfl rfl

private theorem make_performs (dispatch : Dispatch) (play : Play) (jobs : List Job) :
    Performs channels (Job.totalActs jobs) play (play.make dispatch jobs) := by
  fun_induction Play.make dispatch play jobs with
  | case1 play => exact .refl _ play
  | case2 play callback rest manner script cast found deaf ih =>
    exact ih.after (play.isolate_gains _) (by simp [isolate, Job.totalActs, Job.acts])
  | case3 play callback rest manner script cast found able ih =>
    have kept := Cast.next_size callback.notice callback.listener play.cast
    rw [found] at kept
    refine ih.after (.refl _) ?_
    simp only [Job.totalActs, Job.acts] at kept ⊢
    omega
  | case4 play error rest ih => exact ih.after (play.isolate_gains _) (by simp [isolate, Job.totalActs, Job.acts])
  | case5 play act acts error rest scene result done taken callbacks takes left ih =>
    obtain ⟨performed, fewer, gains⟩ := ih
    have brought : Gains channels 0 (2 * channels + 3) play.scene.client (play.scene.perform act).1.client :=
      play.scene.perform_gains act
    have waiting : Gains channels 0 0 scene.client (takeWaiting dispatch scene).1.client := takeWaiting_gains dispatch scene
    rw [done] at brought
    rw [takes] at waiting
    have remaining : left.acts ≤ acts.length := by
      cases result with
      | ok => exact Nat.le_refl _
      | error => exact Nat.zero_le _
    refine ⟨performed + 1, ?_, ?_⟩
    · rw [Job.totalActs_followedBy] at fewer
      simp only [Job.totalActs, Job.acts, List.length_cons] at fewer remaining ⊢
      omega
    · refine ((brought.trans waiting).trans gains).mono (Nat.le_refl _) (Nat.le_of_eq ?_)
      rw [Nat.add_mul, Nat.one_mul, Nat.add_zero, Nat.add_comm]

private theorem makeAll_performs (dispatch : Dispatch) (play : Play) :
    Performs channels 0 play (play.makeAll dispatch) := by
  have made : Performs channels 0 _ (play.makeAll dispatch) :=
    Job.totalActs_callbacks _ ▸ make_performs dispatch { play with scene := (takeWaiting .queued play.scene).1 } _
  exact made.after (takeWaiting_gains .queued play.scene) (Nat.le_refl _)

private theorem makeSome_performs (play : Play) (count : Nat) : Performs channels 0 play (play.makeSome count) := by
  induction count generalizing play with
  | zero => exact .refl _ play
  | succ count ih =>
    unfold makeSome
    split
    · exact .refl _ play
    next callback waiting _ =>
      have taken : Gains channels 0 0 play.scene.client { play.scene.client with waiting } :=
        .of_same (Nat.le_refl _) rfl rfl rfl
      have made : Performs channels 0 play _ := (make_performs .deferred
        { play with scene := { play.scene with client := { play.scene.client with waiting } } }
        [.callback callback]).after taken (Nat.le_refl _)
      exact made.trans (ih _)

end Play

namespace Session

/-- What becomes of a session takes up so many more steps at most, and so much load. -/
structure Gains (channels steps cost : Nat) (before after : Session) : Prop where
  reach : after.reach ≤ before.reach + steps
  crew : after.crew ≤ before.crew + steps
  load : after.load channels ≤ before.load channels + cost
  ready : after.ready = before.ready

namespace Gains

theorem refl (session : Session) : Gains channels 0 0 session session :=
  ⟨Nat.le_refl _, Nat.le_refl _, Nat.le_refl _, rfl⟩

theorem trans {first middle last : Session} {steps cost others more : Nat} (a : Gains channels steps cost first middle)
    (b : Gains channels others more middle last) : Gains channels (steps + others) (cost + more) first last := by
  obtain ⟨reach, crew, load, ready⟩ := a
  obtain ⟨reaches, hired, loads, waits⟩ := b
  exact ⟨by omega, by omega, by omega, waits.trans ready⟩

theorem mono {before after : Session} {steps cost others more : Nat} (gains : Gains channels steps cost before after)
    (fewer : steps ≤ others) (less : cost ≤ more) : Gains channels others more before after := by
  obtain ⟨reach, crew, load, ready⟩ := gains
  exact ⟨by omega, by omega, by omega, ready⟩

/-- The acts of callbacks weigh more than the arrivals that they bring. -/
theorem play {session : Session} {play : Play} (performs : Play.Performs channels 0 session.play play) :
    Gains channels 0 0 session { session with play } := by
  obtain ⟨performed, fewer, registered, crew, weight⟩ := performs
  have script : Session.script { session with play } + performed ≤ session.script := by
    simp only [Session.script, waits]
    omega
  have heavier := Nat.mul_le_mul_right (2 * channels + 8) script
  have lighter : performed * (2 * channels + 3) ≤ performed * (2 * channels + 8) := Nat.mul_le_mul_left _ (by omega)
  rw [Nat.add_mul] at heavier
  refine ⟨?_, ?_, ?_, rfl⟩
  · simp only [Session.reach, client]
    omega
  · simp only [Session.crew, client]
    omega
  · simp only [Session.load, client, waits]
    omega

theorem scene {session : Session} {scene : Scene} {steps cost : Nat}
    (gains : Client.Gains channels steps cost session.client scene.client) :
    Gains channels steps cost session { session with play := { session.play with scene } } := by
  obtain ⟨registered, crew, weight⟩ := gains
  refine ⟨?_, ?_, ?_, rfl⟩ <;> simp only [Session.reach, Session.crew, Session.load, Session.client, Session.script, waits]
      at registered crew weight ⊢ <;>
    omega

variable (session : Session)

theorem setScene (scene : Scene) :
    Gains channels 0 0 { session with play := { session.play with scene } } (session.setScene scene) := by
  unfold Session.setScene
  dsimp only
  split
  · exact play (Play.makeAll_performs _ _)
  · exact refl _

end Gains

/-- The calls of a task take the place of those that it had. -/
theorem total_setStack (session : Session) (task : Task) (stack : List Suspension) (f : Suspension → Nat) :
    total f (session.setStack task stack).waits + total f (session.stack task) ≤
      total f session.waits + total f stack := by
  have each (suspended : List (Task × List Suspension)) :
      total f (suspended.flatMap (·.2)) = total (fun entry => total f entry.2) suspended := by
    induction suspended with
    | nil => rfl
    | cons entry rest ih => simp only [List.flatMap_cons, total_append, total_cons, ih]
  simp only [waits, setStack, Session.stack, List.flatMap_cons, total_append, each]
  cases found : session.suspended.find? (·.1 == task) with
  | none =>
    have less := total_filter_le session.suspended (·.1 != task) (fun entry => total f entry.2)
    simp only [Option.map_none, Option.getD_none, total_nil]
    omega
  | some entry =>
    have mine : (entry.1 != task) = false := by simpa using List.find?_some found
    have less : total (fun entry => total f entry.2) (session.suspended.filter (·.1 != task)) + total f entry.2 ≤
        total (fun entry => total f entry.2) session.suspended := total_filter_add (List.mem_of_find?_eq_some found) mine _
    simp only [Option.map_some, Option.getD_some]
    omega

/-- Where suspended calls have fewer steps and turns left, the load is less. -/
theorem setStack_spends {session : Session} {task : Task} {stack : List Suspension} {steps turns : Nat}
    (fewer : total (·.steps) stack + steps ≤ total (·.steps) (session.stack task))
    (less : total (·.turns) stack + turns ≤ total (·.turns) (session.stack task)) (channels : Nat) :
    (session.setStack task stack).script + steps ≤ session.script ∧
      (session.setStack task stack).load channels + (steps * (2 * channels + 8) + turns) ≤ session.load channels := by
  have written := total_setStack session task stack (·.steps)
  have waited := total_setStack session task stack (·.turns)
  have script : (session.setStack task stack).script + steps ≤ session.script := by
    simp only [Session.script] at written ⊢
    have plans : (session.setStack task stack).plans = session.plans := rfl
    have play : (session.setStack task stack).play = session.play := rfl
    rw [plans, play]
    omega
  have weighs := Nat.mul_le_mul_right (2 * channels + 8) script
  rw [Nat.add_mul] at weighs
  have client : (session.setStack task stack).client = session.client := rfl
  refine ⟨script, ?_⟩
  simp only [Session.load, client] at waited ⊢
  omega

namespace Gains

variable (session : Session)

/-- A call is suspended, with the steps of a plan if one is taken for it. What else that plan weighed is spent. -/
theorem push (task : Task) (suspension : Suspension) {plans : List Plan} {spent : Nat}
    (taken : Plan.sizes plans + suspension.steps + spent ≤ Plan.sizes session.plans)
    (room : suspension.turns ≤ spent * (2 * channels + 8) + 2) :
    Gains channels 0 2 session ({ session with plans }.push task suspension) := by
  have written := total_setStack { session with plans } task (suspension :: session.stack task) (·.steps)
  have waited := total_setStack { session with plans } task (suspension :: session.stack task) (·.turns)
  have stack : Session.stack { session with plans } task = session.stack task := rfl
  have waits : Session.waits { session with plans } = session.waits := rfl
  have pushed : { session with plans }.push task suspension =
    { session with plans }.setStack task (suspension :: session.stack task) := rfl
  simp only [stack, waits, total_cons] at written waited
  rw [pushed]
  generalize made : { session with plans }.setStack task (suspension :: session.stack task) = after at written waited ⊢
  have left : after.plans = plans := by rw [← made]; rfl
  have play : after.play = session.play := by rw [← made]; rfl
  have client : after.client = session.client := congrArg (·.scene.client) play
  have script : after.script + spent ≤ session.script := by
    simp only [Session.script, left, play]
    omega
  have weighs := Nat.mul_le_mul_right (2 * channels + 8) script
  rw [Nat.add_mul] at weighs
  refine ⟨?_, ?_, ?_, by rw [← made]; rfl⟩
  · simp only [Session.reach, client]
    omega
  · simp only [Session.crew, client]
    omega
  · simp only [Session.load, client]
    omega

/-- A call that is suspended without steps of its own takes no plan. -/
private theorem push_plain (task : Task) (suspension : Suspension) (steps : suspension.steps = 0)
    (turns : suspension.turns ≤ 2) : Gains channels 0 2 session (session.push task suspension) := by
  have taken : Plan.sizes session.plans + suspension.steps + 0 ≤ Plan.sizes session.plans := by omega
  exact push session task suspension taken (by omega)

theorem suspend (task : Task) (call : CallId) : Gains channels 0 2 session (session.suspend task call) := by
  unfold Session.suspend
  split
  · exact push_plain session task _ rfl (Nat.le_succ 1)
  · exact push_plain session task _ rfl (Nat.le_refl 2)
  · exact push_plain session task _ rfl (Nat.le_succ 1)
  · split
    · exact push_plain session task _ rfl (Nat.le_succ 1)
    next during turns failure plans found =>
      have room := Nat.le_mul_of_pos_right (turns + 1) (Nat.succ_pos (2 * channels + 7))
      have taken : Plan.sizes plans + Step.sizes during + (turns + 1) ≤ Plan.sizes session.plans := by
        rw [found, Plan.sizes, Plan.size]
        omega
      exact push session task ⟨call, .sending during turns failure⟩ taken (Nat.le_trans room (Nat.le_add_right _ 2))

theorem finish (task : Task) (result : Scene → StepResult) : Gains channels 0 0 session (session.finish task result) := by
  have adopted : Gains channels 0 0 session session.adopt := by
    have kept : Client.Gains channels 0 0 session.client session.play.scene.adopt.client := by
      rw [Scene.adopt_client]
      exact .refl _
    exact play ((Play.Performs.refl 0 _).after kept (Nat.le_refl _))
  unfold Session.finish
  dsimp only
  split
  · exact ⟨adopted.reach, adopted.crew, adopted.load, rfl⟩
  · split
    · exact ⟨adopted.reach, adopted.crew, adopted.load, rfl⟩
    · exact refl session

theorem follow (task : Task) (outcome : Client × Progress) :
    Gains channels 0 outcome.2.weight
      { session with play := { session.play with scene := { session.play.scene with client := outcome.1 } } }
      (session.follow task outcome) := by
  have set : Gains channels 0 0 _ (session.setClient outcome.1) := setScene session { session.play.scene with client := outcome.1 }
  unfold Session.follow
  obtain ⟨client, progress⟩ := outcome
  cases progress with
  | suspended call => exact set.trans (suspend _ task call)
  | done result =>
    cases result with
    | error error => exact set.trans (finish _ task _)
    | ok made => cases made <;> exact set.trans (finish _ task _)

private theorem operate {session : Session} {outcome : Client × Progress} {steps cost : Nat}
    (gains : Client.Gains channels steps cost session.client outcome.1) (task : Task) :
    Gains channels steps (cost + 2) session (session.follow task outcome) := by
  have operated : Gains channels steps cost session
      { session with play := { session.play with scene := { session.play.scene with client := outcome.1 } } } := scene gains
  exact (operated.trans (follow session task outcome)).mono (Nat.le_refl _) (Nat.add_le_add_left outcome.2.weight_le _)

/-- A step that is taken up leaves less than it weighed. -/
theorem start (few : session.client.registered.length ≤ channels) (task : Task) (step : Step) :
    Gains channels step.size (step.size * (2 * channels + 8) - 1) session (session.start task step) := by
  have one {after : Session} {steps cost : Nat} (gains : Gains channels steps cost session after) (fewer : steps ≤ 1)
      (less : cost ≤ 2 * channels + 7) : Gains channels 1 (1 * (2 * channels + 8) - 1) session after :=
    gains.mono fewer (by omega)
  cases step with
  | act act =>
    have performed : Gains channels 0 (2 * channels + 3) session _ := scene (session.play.scene.perform_gains act)
    have set := performed.trans (setScene session _)
    simp only [Session.start]
    exact one (set.trans (finish _ task _)) (Nat.zero_le 1) (by omega)
  | subscribe name listener events => exact one (operate (.subscribe _ task name listener events) task) (Nat.le_refl 1) (by omega)
  | unsubscribe name => exact one (operate (.unsubscribe _ task name) task) (Nat.zero_le 1) (by omega)
  | resubscribe =>
    have listed : session.client.listing.length = session.client.registered.length := List.length_mergeSort _
    exact one (operate (.resubscribe _ task none session.client.listing) task) (Nat.zero_le 1) (by omega)
  | connect failure =>
    have connects : Gains channels 1 4 session { session with
        play := { session.play with scene := { session.play.scene with client := (session.client.connect task).1 } } } :=
      scene (.connect _ task)
    have set : Gains channels 1 4 session (session.setClient (session.client.connect task).1) :=
      connects.trans (setScene session _)
    exact one (set.trans (push_plain _ task _ rfl (Nat.le_succ 1))) (Nat.le_refl 1) (by omega)
  | send message => exact one (operate (.message _ task message) task) (Nat.zero_le 1) (by omega)
  | disconnect failure =>
    have jammed : Client.Gains channels 0 0 session.client (breakClosing session.client failure) := by
      unfold breakClosing
      split
      · exact .refl _
      · exact .changeSocket _ _ fun _ => rfl
    exact one (operate (jammed.trans (.disconnect _ task)) task) (Nat.zero_le 1) (by omega)
  | plan plans =>
    have script : Session.script { session with plans } ≤ session.script + Plan.sizes plans := by
      have waits : Session.waits { session with plans } = session.waits := rfl
      simp only [Session.script, waits]
      omega
    have weighs := Nat.mul_le_mul_right (2 * channels + 8) script
    rw [Nat.add_mul] at weighs
    have replaced : Gains channels (Plan.sizes plans) (Plan.sizes plans * (2 * channels + 8)) session { session with plans } := by
      refine ⟨?_, ?_, ?_, rfl⟩
      · simp only [Session.reach, Session.client]
        omega
      · simp only [Session.crew, Session.client]
        omega
      · simp only [Session.load, Session.client, Session.waits]
        omega
    simp only [Session.start, Step.size, Nat.add_mul]
    exact (replaced.trans (finish _ task _)).mono (by omega) (by omega)
  | makeCallbacks count =>
    cases count with
    | none =>
      have made : Gains channels 0 0 session _ := play (session.play.makeAll_performs .queued)
      simp only [Session.start]
      exact one (made.trans (finish _ task _)) (Nat.zero_le 1) (by omega)
    | some count =>
      have made : Gains channels 0 0 session _ := play (session.play.makeSome_performs count)
      simp only [Session.start]
      exact one (made.trans (finish _ task _)) (Nat.zero_le 1) (by omega)

end Gains

/-- What is left of a session weighs less. -/
structure Spends (channels spent : Nat) (before after : Session) : Prop where
  reach : after.reach ≤ before.reach
  crew : after.crew ≤ before.crew
  load : after.load channels + spent ≤ before.load channels
  ready : after.ready = before.ready

namespace Spends

theorem client {session : Session} {client : Client} {spent : Nat}
    (spends : Client.Spends channels spent session.client client) :
    Spends channels spent session
      { session with play := { session.play with scene := { session.play.scene with client } } } := by
  obtain ⟨registered, crew, weight⟩ := spends
  refine ⟨?_, ?_, ?_, rfl⟩ <;> simp only [Session.reach, Session.crew, Session.load, Session.client, Session.script, waits]
      at registered crew weight ⊢ <;>
    omega

theorem trans {first middle last : Session} {spent more : Nat} (a : Spends channels spent first middle)
    (b : Spends channels more middle last) : Spends channels (spent + more) first last := by
  obtain ⟨reach, crew, load, ready⟩ := a
  obtain ⟨reaches, hired, loads, waits⟩ := b
  exact ⟨by omega, by omega, by omega, waits.trans ready⟩

theorem gains {first middle last : Session} {spent cost : Nat} (spends : Spends channels (spent + cost) first middle)
    (gains : Gains channels 0 cost middle last) : Spends channels spent first last := by
  obtain ⟨reach, crew, load, ready⟩ := spends
  obtain ⟨reaches, hired, loads, waits⟩ := gains
  exact ⟨by omega, by omega, by omega, waits.trans ready⟩

theorem keeps {first middle last : Session} {spent : Nat} (spends : Spends channels spent first middle)
    (gains : Gains channels 0 0 middle last) : Spends channels spent first last := spends.gains gains

theorem setStack {session : Session} {task : Task} {stack : List Suspension} {turns : Nat}
    (fewer : total (·.steps) stack ≤ total (·.steps) (session.stack task))
    (less : total (·.turns) stack + turns ≤ total (·.turns) (session.stack task)) :
    Spends channels turns session (session.setStack task stack) := by
  have fewer : total (·.steps) stack + 0 ≤ total (·.steps) (session.stack task) := fewer
  obtain ⟨script, load⟩ := setStack_spends fewer less channels
  have client : (session.setStack task stack).client = session.client := rfl
  refine ⟨?_, ?_, by omega, rfl⟩
  · simp only [Session.reach, client]
    omega
  · simp only [Session.crew, client]
    omega

end Spends

/-- A task that has its turn takes something of the load, and may come up again. -/
structure Advances (before after : Session) : Prop where
  reach : after.reach ≤ before.reach
  crew : after.crew ≤ before.crew
  load : after.load before.reach < before.load before.reach
  ready : after.ready.length ≤ before.ready.length + 1

private theorem Spends.advances {before after : Session} {spent : Nat}
    (spends : Spends before.reach (spent + 1) before after) :
    Advances before after := by
  obtain ⟨reach, crew, load, ready⟩ := spends
  exact ⟨reach, crew, by omega, by rw [ready]; omega⟩

/-- The innermost call of a task goes on. -/
theorem resume_spends {session : Session} {task : Task} {suspension : Suspension} {rest : List Suspension}
    (found : session.stack task = suspension :: rest) (outcome : Except Error Unit) (channels : Nat) :
    Spends channels 1 session
      ((session.setStack task rest).follow task (session.client.resume suspension.call outcome)) := by
  have popped : Spends channels 1 session (session.setStack task rest) := by
    have turns : 1 ≤ suspension.turns := by
      unfold Suspension.turns
      split
      · exact Nat.le_add_left 1 _
      · exact Nat.le_refl 1
    apply Spends.setStack <;> rw [found, total_cons] <;> omega
  by_cases present : (session.client.call? suspension.call).isSome
  · have resumed : Client.Spends channels 2 (session.setStack task rest).client _ := Client.resume_spends present outcome channels
    have goes : Gains channels 0 _ _ _ := .follow (session.setStack task rest) task (session.client.resume suspension.call outcome)
    exact (popped.trans (.client resumed)).gains (goes.mono (Nat.le_refl _) (Progress.weight_le _))
  · have gone : session.client.resume suspension.call outcome = (session.client, .done (.ok none)) := by
      simp only [Bool.not_eq_true, Option.isSome_eq_false_iff, Option.isNone_iff_eq_none] at present
      simp only [Client.resume, present]
    have ended : Gains channels 0 0 (session.setStack task rest) _ :=
      .follow (session.setStack task rest) task (session.client, .done (.ok none))
    rw [gone]
    exact popped.keeps ended

/-- The next step is taken up that a send lives through. -/
theorem start_advances {session : Session} {task : Task} {call : CallId} {step : Step} {during : List Step} {turns : Nat}
    {failure : Option Error} {rest : List Suspension}
    (found : session.stack task = ⟨call, .sending (step :: during) turns failure⟩ :: rest) :
    Advances session ((session.setStack task (⟨call, .sending during turns failure⟩ :: rest)).start task step) := by
  have fewer : total Suspension.steps (⟨call, .sending during turns failure⟩ :: rest) + step.size ≤
      total Suspension.steps (session.stack task) := by
    rw [found]
    simp only [total_cons, Suspension.steps, Step.sizes]
    omega
  have same : total Suspension.turns (⟨call, .sending during turns failure⟩ :: rest) + 0 ≤
      total Suspension.turns (session.stack task) := by
    rw [found]
    exact Nat.le_refl _
  obtain ⟨script, load⟩ := setStack_spends fewer same session.reach
  have client : (session.setStack task (⟨call, .sending during turns failure⟩ :: rest)).client = session.client := rfl
  have listed : session.ready = (session.setStack task (⟨call, .sending during turns failure⟩ :: rest)).ready := rfl
  generalize session.setStack task (⟨call, .sending during turns failure⟩ :: rest) = taken at script load client listed
  have few : taken.client.registered.length ≤ session.reach := client ▸ Nat.le_add_right _ _
  obtain ⟨reach, crew, loads, ready⟩ := Gains.start taken few task step
  have heavy : 0 < step.size * (2 * session.reach + 8) := Nat.mul_pos step.size_pos (Nat.succ_pos _)
  refine ⟨?_, ?_, by omega, by rw [ready, listed]; exact Nat.le_succ _⟩
  · simp only [Session.reach, client] at reach ⊢
    omega
  · simp only [Session.crew, client] at crew ⊢
    omega

private theorem proceed_advances (session : Session) (task : Task) :
    Advances session (session.proceed task) ∨ session.proceed task = session.stop ∧ session.canGoOn task = false := by
  unfold proceed
  split
  next told =>
    cases task with
    | application => contradiction
    | reader id =>
      have emptied : Spends session.reach 0 session (session.setStack (.reader id) []) :=
        .setStack (Nat.zero_le _) (Nat.zero_le _)
      have unwound : Client.Spends session.reach 1 (session.setStack (.reader id) []).client _ := Client.unwind_spends told _
      have stopped := (emptied.trans (.client unwound)).keeps (.setScene _ _)
      exact .inl (Spends.advances ⟨stopped.reach, stopped.crew, stopped.load, stopped.ready⟩)
  next going =>
    have unable : session.client.isCancelling task = false := by simpa using going
    split
    next empty =>
      cases task with
      | application => exact .inr ⟨rfl, by simp [canGoOn, empty, unable]⟩
      | reader id =>
        dsimp only
        split
        next input =>
          have turned : Client.Spends session.reach _ session.client _ := Client.turn_spends input (Nat.le_add_right _ _)
          exact .inl ((Spends.client turned).gains (.follow session _ _)).advances
        next nothing => exact .inr ⟨rfl, by simp [canGoOn, empty, unable, nothing]⟩
    next call step during turns failure rest found => exact .inl (start_advances found)
    next call turns failure rest found =>
      left
      have waited : Spends session.reach 1 session (session.setStack task (⟨call, .sending [] turns failure⟩ :: rest)) := by
        apply Spends.setStack <;> rw [found] <;> simp only [total_cons, Suspension.steps, Suspension.turns] <;>
          omega
      obtain ⟨reach, crew, load, _⟩ := waited
      exact ⟨reach, crew, load, Nat.le_of_eq List.length_append⟩
    next call failure rest found => exact .inl (resume_spends found _ _).advances
    next call id rest found =>
      split
      · exact .inl (resume_spends found _ _).advances
      next undone => exact .inr ⟨rfl, by simp [canGoOn, found, unable, undone]⟩

private theorem load_mono {few many : Nat} (more : few ≤ many) (session : Session) :
    session.load few ≤ session.load many := by
  have script := Nat.mul_le_mul_left session.script (Nat.add_le_add_right (Nat.mul_le_mul_left 2 more) 8)
  have unread := Nat.mul_le_mul_left session.client.unread (Nat.add_le_add_right (Nat.mul_le_mul_left 2 more) 3)
  simp only [load, Client.weight]
  omega

private theorem woken_length (session : Session) : session.woken.length ≤ session.crew + 1 := by
  have filtered := List.length_filter_le (fun task =>
      session.canGoOn task && !session.ready.contains task && session.running != some task)
    ((List.range session.client.readers.length).map Task.reader ++ [Task.application])
  simp only [List.length_append, List.length_map, List.length_range, List.length_singleton] at filtered
  have readers : session.client.readers.length ≤ session.crew := by
    simp only [crew, Client.crew]
    omega
  exact Nat.le_trans filtered (Nat.add_le_add_right readers 1)

/-- Those that were woken up are not woken up again. -/
theorem wake_woken (session : Session) : session.wake.woken = [] := by
  apply List.filter_eq_nil_iff.mpr
  intro task member able
  have ready : session.wake.ready = session.ready ++ session.woken := rfl
  simp only [ready, Bool.and_eq_true, Bool.not_eq_true', List.contains_append, Bool.or_eq_false_iff] at able
  obtain ⟨⟨going, absent, asleep⟩, other⟩ := able
  have woken : task ∈ session.woken := by
    refine List.mem_filter.mpr ⟨member, ?_⟩
    simp only [Bool.and_eq_true, Bool.not_eq_true']
    exact ⟨⟨going, absent⟩, other⟩
  rw [List.contains_iff_mem.mpr woken] at asleep
  contradiction

private theorem wake_round (session : Session) :
    session.wake.round = 2 * (session.ready.length + session.woken.length) + if session.running.isSome then 1 else 0 := by
  have ready : session.wake.ready = session.ready ++ session.woken := rfl
  have running : session.wake.running = session.running := rfl
  rw [round, wake_woken, ready, running, List.length_append, List.length_nil, Nat.add_zero]

/-- What was taken of the load outweighs the tasks that are woken up for it. -/
theorem Advances.wake_weight {before middle : Session} (advances : Advances before middle) (turn : before.running.isSome) :
    middle.wake.weight < before.weight := by
  obtain ⟨reach, crew, load, ready⟩ := advances
  have lighter := load_mono reach middle
  have woken := middle.woken_length
  have once : (if middle.running.isSome then 1 else 0) ≤ 1 := by split <;> omega
  have spent : (middle.load middle.reach + 1) * (2 * middle.crew + 6) ≤ before.load before.reach * (2 * before.crew + 6) :=
    Nat.mul_le_mul (by omega) (by omega)
  have weight : middle.wake.weight = middle.load middle.reach * (2 * middle.crew + 6) + middle.wake.round := rfl
  rw [weight, wake_round, Session.weight, round, if_pos turn]
  rw [Nat.add_mul, Nat.one_mul] at spent
  omega

/-- A task that cannot go on ends its turn, and is not woken up for it. -/
theorem stop_weight {session : Session} {task : Task} (turn : session.running = some task)
    (unable : session.canGoOn task = false) : session.stop.wake.weight < session.weight := by
  have woken : session.stop.woken = session.woken := by
    apply List.filter_congr
    intro other _
    have same : session.stop.canGoOn other = session.canGoOn other := rfl
    have ready : session.stop.ready = session.ready := rfl
    have running : session.stop.running = none := rfl
    rw [same, ready, running, turn]
    by_cases mine : other = task
    · rw [mine, unable, Bool.false_and, Bool.false_and, Bool.false_and]
    · rw [(bne_iff_ne.mpr fun same => mine (Option.some.inj same).symm : (some task != some other) = true)]
      rfl
  have weight : session.stop.wake.weight = session.load session.reach * (2 * session.crew + 6) + session.stop.wake.round := rfl
  have ready : session.stop.ready = session.ready := rfl
  have running : session.stop.running = none := rfl
  rw [weight, wake_round, woken, ready, running, Session.weight, round, turn]
  simp

private theorem next_weight {session : Session} {task : Task} {rest : List Task} (turn : session.running = none)
    (ready : session.ready = task :: rest) :
    Session.weight { session with running := some task, ready := rest } < session.weight := by
  have woken : Session.woken { session with running := some task, ready := rest } = session.woken := by
    apply List.filter_congr
    intro other _
    have same : Session.canGoOn { session with running := some task, ready := rest } other = session.canGoOn other := rfl
    rw [same, turn, ready]
    by_cases mine : other = task
    · simp [mine]
    · rw [(bne_iff_ne.mpr fun same => mine (Option.some.inj same).symm : (some task != some other) = true)]
      simp only [List.contains_cons, beq_false_of_ne mine, Bool.false_or]
      rfl
  have weight : Session.weight { session with running := some task, ready := rest } =
    session.load session.reach * (2 * session.crew + 6) + Session.round { session with running := some task, ready := rest } := rfl
  rw [weight, Session.weight, round, round, woken, turn, ready]
  simp only [Option.isSome_some, if_true, Option.isSome_none, Bool.false_eq_true, if_false, List.length_cons]
  omega

/-- Every move makes the session lighter. -/
theorem move_weight {session next : Session} (moved : session.move = some next) : next.weight < session.weight := by
  unfold move at moved
  split at moved
  next task turn =>
    cases moved
    rcases session.proceed_advances task with advances | ⟨stopped, unable⟩
    · exact advances.wake_weight (by rw [turn, Option.isSome_some])
    · rw [stopped]
      exact stop_weight turn unable
  next task rest turn ready =>
    cases moved
    exact next_weight turn ready
  · contradiction

private theorem run_of_rest {session : Session} (rests : session.move = none) (fuel : Nat) :
    session.run fuel = session := by
  cases fuel with
  | zero => rfl
  | succ fuel => simp only [run, rests]

/-- There are always moves enough. -/
theorem run_rests {fuel : Nat} {session : Session} (enough : session.weight ≤ fuel) : (session.run fuel).move = none := by
  induction fuel generalizing session with
  | zero =>
    cases moved : session.move with
    | none => exact moved
    | some next => exact absurd (move_weight moved) (by omega)
  | succ fuel ih =>
    cases moved : session.move with
    | none => rwa [run_of_rest moved]
    | some next =>
      have lighter := move_weight moved
      simp only [run, moved]
      exact ih (by omega)

private theorem run_of_enough {fuel more : Nat} {session : Session} (enough : session.weight ≤ fuel)
    (still : session.weight ≤ more) :
    session.run fuel = session.run more := by
  induction fuel generalizing session more with
  | zero =>
    cases moved : session.move with
    | none => rw [run_of_rest moved, run_of_rest moved]
    | some next => exact absurd (move_weight moved) (by omega)
  | succ fuel ih =>
    cases moved : session.move with
    | none => rw [run_of_rest moved, run_of_rest moved]
    | some next =>
      have lighter := move_weight moved
      obtain ⟨more, rfl⟩ : ∃ less, more = less + 1 := ⟨more - 1, by omega⟩
      simp only [run, moved]
      exact ih (by omega) (by omega)

/-- A session settles by moving until no task can go on. -/
theorem settle_spec (session : Session) :
    session.settle.move = none ∧ session.settle = (session.move.map settle).getD session := by
  refine ⟨run_rests (Nat.le_refl _), ?_⟩
  cases moved : session.move with
  | none => exact run_of_rest moved _
  | some next =>
    have lighter := move_weight moved
    obtain ⟨left, weight⟩ : ∃ left, session.weight = left + 1 := ⟨session.weight - 1, by omega⟩
    simp only [settle, weight, run, moved, Option.map_some, Option.getD_some]
    exact run_of_enough (by omega) (Nat.le_refl _)

end Session
end Pubsub
