import Pubsub.Proofs.Callbacks

/-! Listeners that are called at once may do anything in their calls, so calls nest. Still each frame that a channel
takes calls those listeners that are bound when it is decoded, once each, and nobody else. -/

namespace Pubsub

/-- A frame that is accepted is taken without an error, as long as callbacks are. -/
theorem Client.receive_succeeds {client : Client} {offer : Offer} {accepted : Accepted}
    (taken : client.taken offer = some accepted) (accepting : client.accepting = true) :
    (client.receive offer.channel offer.event offer.frame).2 = .ok () := by
  obtain ⟨channel, found, mapped⟩ := Option.bind_eq_some_iff.mp taken
  obtain ⟨acceptance, accepts, rfl⟩ := Option.map_eq_some_iff.mp mapped
  obtain ⟨records, received⟩ := Channel.receive_of_accepted accepts
  simp only [Client.receive, found, received, react, submit, setChannel, accepting, or_true, if_true]

/-- A reader hands an accepted frame over by the name that it gives, and does nothing else with it. -/
theorem Client.turn_of_taken {client : Client} {reader : ReaderId} {offer : Offer} {accepted : Accepted}
    (offered : client.offered (.turn reader) = some offer) (taken : client.taken offer = some accepted)
    (accepting : client.accepting = true) :
    ∃ socket rest name, client.lookup name = some offer.channel ∧ client.turn reader =
      (((client.leave socket rest).counted.deliver name offer.event offer.frame).1, .done (.ok none)) := by
  simp only [Client.offered] at offered
  split at offered
  next frame next =>
    obtain ⟨socket, rest, _, _, turned⟩ := turn_of_next next
    unfold Client.addressed at offered
    split at offered
    next envelope event data id name decoded =>
      split at offered
      · contradiction
      next concerns =>
        rw [not_or] at concerns
        obtain ⟨channel, found, rfl⟩ := Option.map_eq_some_iff.mp offered
        have known : (client.leave socket rest).counted.lookup name = some channel := found
        have succeeds : ((client.leave socket rest).counted.receive channel event frame).2 = .ok () :=
          @receive_succeeds (client.leave socket rest).counted ⟨channel, event, frame⟩ accepted taken accepting
        refine ⟨socket, rest, name, found, ?_⟩
        rw [turned]
        simp only [take, handle, decoded, Option.some.injEq, if_neg concerns.1, if_neg concerns.2, route,
          deliver_of_lookup known, succeeds, delivered]
    · contradiction
  · contradiction

namespace Scene

def idOf (scene : Scene) (handle : Handle) : Option ChannelId := (scene.locate handle).toOption.map (·.1)

/-- The event of the client that an act is. Some only look, and some find nothing to act on. -/
def event (scene : Scene) : Act → Option Event
  | .make _ name family => some (.make name family)
  | .bind handle event listener => (scene.idOf handle).map (.bind · event listener)
  | .unbind handle event listener => (scene.idOf handle).map (.unbind · event listener)
  | .farewell handle => (scene.idOf handle).map (.move · .ended)
  | .move handle phase => (scene.idOf handle).map (.move · phase)
  | .setToken handle token => (scene.idOf handle).map (.setToken · token)
  | .setLifecycle handle lifecycle => (scene.idOf handle).map (.setLifecycle · lifecycle)
  | .receive handle event frame => (scene.idOf handle).map (.receive · event frame)
  | .deliver name event frame => some (.deliver name event frame)
  | .lose resumable => some (.lose resumable)
  | .attach connected => some (.attach (.direct connected))
  | .setConnected connected =>
    match scene.client.transport with
    | .direct _ => some (.attach (.direct connected))
    | _ => none
  | .arrive socket arrival =>
    let socket := socket.getD (scene.client.sockets.length - 1)
    if socket < scene.client.sockets.length then some (.arrive socket arrival) else none
  | _ => none

/-- The frame that an act offers to a channel, if any: an application hands it over itself, or by the channel's name. -/
def offered (scene : Scene) (act : Act) : Option Offer := (scene.event act).bind scene.client.offered

private theorem locate_found {scene : Scene} {handle : Handle} {id : ChannelId} {channel : Channel}
    (located : scene.locate handle = .ok (id, channel)) : scene.client.channels[id]? = some channel := by
  unfold locate at located
  split at located
  · contradiction
  · split at located
    · contradiction
    next found =>
      cases located
      exact found

private theorem change_client (scene : Scene) (handle : Handle) (update : Channel → Except Error Channel) :
    (scene.change handle update).1.client = (scene.idOf handle).elim scene.client (scene.client.change · update) := by
  unfold change idOf
  cases located : scene.locate handle with
  | error fault => rfl
  | ok found =>
    obtain ⟨id, channel⟩ := found
    simp only [Except.toOption, Option.map_some, Option.elim_some, Client.change, locate_found located]
    cases update channel <;> rfl

private theorem apply_client (scene : Scene) (handle : Handle) (operation : ChannelId → Client × Except Error Unit) :
    (scene.apply handle operation).1.client = (scene.idOf handle).elim scene.client (operation · |>.1) := by
  unfold apply idOf
  cases scene.locate handle <;> rfl

/-- Whatever an act does to the client is one event of it, unless the act shuts the queue down. -/
theorem perform_client (scene : Scene) {act : Act} (running : act ≠ .shutDown) :
    (scene.perform act).1.client = (scene.event act).elim scene.client scene.client.step := by
  have located (handle : Handle) (event : ChannelId → Event) :
      ((scene.idOf handle).map event).elim scene.client scene.client.step =
        (scene.idOf handle).elim scene.client (scene.client.step ∘ event) := by
    cases scene.idOf handle <;> rfl
  cases act with
  | shutDown => contradiction
  | make handle name family =>
    cases made : Channel.make name family <;>
      simp [perform, event, Client.step, Client.possible, Client.perform, made, setHandle]
  | bind | unbind | setToken | setLifecycle =>
    simp only [perform, change_client, event, located]
    rfl
  | move | receive =>
    simp only [perform, apply_client, event, located]
    rfl
  | farewell handle =>
    simp only [perform, event, idOf]
    cases scene.locate handle <;> rfl
  | deliver name event frame => rfl
  | lose resumable => cases resumable <;> rfl
  | attach => rfl
  | setConnected connected =>
    cases transport : scene.client.transport <;> simp only [perform, event, transport] <;> rfl
  | arrive socket arrival =>
    simp only [perform, arrive, event]
    split <;> rfl
  | _ => rfl

private theorem event_making {scene : Scene} {act : Act} {event : Event} (asked : scene.event act = some event) :
    event ≠ .callback ∧ event ≠ .shutDown := by
  refine ⟨?_, ?_⟩ <;> rintro rfl <;> cases act <;> simp [Scene.event] at asked <;>
    split at asked <;> simp at asked

/-- Callbacks are made as soon as they are submitted, so none waits when an act begins. -/
structure Prompt (scene : Scene) : Prop where
  idle : scene.client.waiting = []
  accepting : scene.client.accepting = true
  distinct : scene.client.Distinct

theorem Prompt.perform {scene : Scene} (prompt : scene.Prompt) {act : Act} (running : act ≠ .shutDown) :
    (Play.takeWaiting .direct (scene.perform act).1).1.Prompt := by
  have kept : (scene.perform act).1.client.accepting = true ∧ (scene.perform act).1.client.Distinct := by
    rw [perform_client scene running]
    cases asked : scene.event act with
    | none => exact ⟨prompt.accepting, prompt.distinct⟩
    | some event =>
      obtain ⟨making, closing⟩ := event_making asked
      have effect := Client.step_effect scene.client event
      exact ⟨(effect.submits making closing).accepting.trans prompt.accepting, effect.distinct prompt.distinct⟩
  exact ⟨rfl, kept.1, kept.2⟩

private theorem offered_cases {scene : Scene} {act : Act} {offer : Offer} (offered : scene.offered act = some offer) :
    (∃ handle channel, act = .receive handle offer.event offer.frame ∧ scene.locate handle = .ok (offer.channel, channel)) ∨
    ∃ name, act = .deliver name offer.event offer.frame ∧ scene.client.lookup name = some offer.channel := by
  cases act with
  | receive handle name frame =>
    cases located : scene.locate handle with
    | error fault => simp [Scene.offered, Scene.event, idOf, located, Except.toOption] at offered
    | ok found =>
      simp only [Scene.offered, Scene.event, idOf, located, Except.toOption, Option.map_some, Option.bind_some,
        Client.offered, Option.some.injEq] at offered
      obtain rfl := offered
      exact .inl ⟨handle, found.2, rfl, located⟩
  | deliver name event frame =>
    obtain ⟨id, known, rfl⟩ := Option.map_eq_some_iff.mp offered
    exact .inr ⟨name, rfl, known⟩
  | setConnected | arrive =>
    simp only [Scene.offered, Scene.event] at offered
    split at offered <;> contradiction
  | _ => simp [Scene.offered, Scene.event, Client.offered, Option.bind_map, Function.comp_def] at offered

/-- An act that offers a frame which its channel accepts succeeds, and submits what follows from the frame. -/
theorem Prompt.perform_taken {scene : Scene} (prompt : scene.Prompt) {act : Act} {offer : Offer} {accepted : Accepted}
    (offered : scene.offered act = some offer) (taken : scene.client.taken offer = some accepted) :
    (scene.perform act).2 = .ok .nothing ∧
      (Play.takeWaiting .direct (scene.perform act).1).2 = accepted.callbacks := by
  have succeeds := Client.receive_succeeds taken prompt.accepting
  have waiting : (scene.client.receive offer.channel offer.event offer.frame).1.waiting = accepted.callbacks := by
    rw [(Client.receive_of_taken taken).waiting, prompt.idle, List.nil_append, if_pos prompt.accepting]
  have performed : scene.perform act = scene.after (scene.client.receive offer.channel offer.event offer.frame) := by
    rcases offered_cases offered with ⟨handle, channel, rfl, located⟩ | ⟨name, rfl, known⟩
    · simp only [Scene.perform, apply, located]
    · simp only [Scene.perform, Client.deliver_of_lookup known]
  rw [performed]
  exact ⟨by rw [after, succeeds]; rfl, waiting⟩

end Scene

/-- A moment while listeners are called, with the number of the operation that it belongs to. -/
inductive Moment where
  | begun (number : Nat) (scene : Scene) (act : Act)
  | called (number : Nat) (callback : Callback)
  | returned (number : Nat) (result : StepResult)

namespace Moment

def number : Moment → Nat
  | .begun number _ _ | .called number _ | .returned number _ => number

def callback? : Moment → Option Callback
  | .called _ callback => some callback
  | _ => none

end Moment

def Notice.isEvent : Notice → Bool
  | .event _ _ _ => true
  | .subscribed _ => false

/-- Whether a listener cannot be told of something at all. -/
def Notice.escapes (manner : Manner) : Notice → Bool
  | .subscribed _ => manner = .eventsOnly
  | .event _ _ _ => false

/-- What is left to do, with the number of the operation that it follows from. An operation returns after the listeners
that it calls. -/
inductive Pending where
  | job (number : Nat) (job : Job)
  | returning (number : Nat) (result : StepResult)

namespace Pending

def job? : Pending → Option Job
  | .job _ left => some left
  | .returning _ _ => none

def jobs (items : List Pending) : List Job := items.filterMap job?

def Running : Pending → Prop
  | .job _ (.script acts _) => ∀ act ∈ acts, act ≠ .shutDown
  | _ => True

def calling (number : Nat) (callbacks : List Callback) : List Pending :=
  callbacks.map fun callback => .job number (.callback callback)

def number : Pending → Nat
  | .job number _ | .returning number _ => number

def moments (number : Nat) : Pending → List Moment
  | .job other (.callback callback) => if other = number then [.called number callback] else []
  | .job _ (.script _ _) => []
  | .returning other result => if other = number then [.returned number result] else []

private theorem moments_calling_self (number : Nat) (callbacks : List Callback) :
    (calling number callbacks).flatMap (moments number) = callbacks.map (.called number) := by
  simp only [calling, List.flatMap_map, moments, if_true]
  exact List.map_eq_flatMap.symm

private theorem moments_of_ne {number : Nat} {item : Pending} (apart : item.number ≠ number) :
    item.moments number = [] := by
  cases item with
  | job other left =>
    cases left with
    | callback => exact if_neg apart
    | script => rfl
  | returning other result => exact if_neg apart

private theorem number_of_calling {number : Nat} {callbacks : List Callback} {item : Pending}
    (member : item ∈ calling number callbacks) :
    item.number = number := by
  obtain ⟨callback, _, rfl⟩ := List.mem_map.mp member
  rfl

private theorem moments_of_apart {number : Nat} {items : List Pending} (apart : ∀ item ∈ items, item.number ≠ number) :
    items.flatMap (moments number) = [] :=
  List.flatMap_eq_nil_iff.mpr fun item member => moments_of_ne (apart item member)

private theorem not_begun_mem_moments {number other : Nat} {scene : Scene} {act : Act} (items : List Pending) :
    Moment.begun other scene act ∉ items.flatMap (moments number) := by
  rw [List.mem_flatMap]
  rintro ⟨item, _, member⟩
  cases item with
  | job owner left =>
    cases left with
    | callback =>
      simp only [moments] at member
      split at member <;> simp at member
    | script => contradiction
  | returning owner result =>
    simp only [moments] at member
    split at member <;> simp at member

@[simp] theorem jobs_cons_job (number : Nat) (job : Job) (rest : List Pending) :
    jobs (.job number job :: rest) = job :: jobs rest := rfl

@[simp] theorem jobs_cons_returning (number : Nat) (result : StepResult) (rest : List Pending) :
    jobs (.returning number result :: rest) = jobs rest := rfl

@[simp] theorem jobs_calling (number : Nat) (callbacks : List Callback) (rest : List Pending) :
    jobs (calling number callbacks ++ rest) = callbacks.map .callback ++ jobs rest := by
  simp [jobs, calling, List.filterMap_append, List.filterMap_map, Function.comp_def, job?]

end Pending

namespace Play

/-- What is left of a script after an act of it. -/
def remaining (result : StepResult) (acts : List Act) (error : Option Text) : Job :=
  match result with
  | .ok _ => .script acts error
  | .error fault => .script [] (some fault.reason)

/-- Makes callbacks at once, as they are submitted, and notes every moment. Operations are numbered as they begin. -/
def timeline (next : Nat) (play : Play) : List Pending → Play × List Moment
  | [] => (play, [])
  | .returning number result :: rest =>
    let last := timeline next play rest
    (last.1, .returned number result :: last.2)
  | .job number (.callback callback) :: rest =>
    let found := Cast.next callback.notice callback.listener play.cast
    let last :=
      if callback.notice.escapes found.1 then timeline next (play.isolate (some (.error unheard))) rest
      else
        timeline next { play with cast := found.2.2, calls := play.calls ++ [callback] }
          (.job number (.script found.2.1 found.1.error) :: rest)
    (last.1, .called number callback :: last.2)
  | .job _ (.script [] error) :: rest => timeline next (play.isolate (error.map .error)) rest
  | .job number (.script (act :: acts) error) :: rest =>
    let performed := play.scene.perform act
    let taken := takeWaiting .direct performed.1
    let last := timeline (next + 1) { play with scene := taken.1 }
      (Pending.calling next taken.2 ++ .returning next performed.2 :: .job number (remaining performed.2 acts error) :: rest)
    (last.1, .begun next play.scene act :: last.2)
termination_by items => (play.cast.size + Job.totalActs (Pending.jobs items), Job.totalRank (Pending.jobs items) + items.length)
decreasing_by
  · apply Prod.Lex.right
    simp
  · apply Prod.Lex.right'
    · simp [isolate, Job.totalActs, Job.acts]
    · simp [Job.totalRank, Job.rank]
      omega
  · have kept := Cast.next_size callback.notice callback.listener play.cast
    apply Prod.Lex.right'
    · simp [Job.totalActs, Job.acts] at kept ⊢
      omega
    · simp [Job.totalRank, Job.rank]
  · apply Prod.Lex.right'
    · simp [isolate, Job.totalActs, Job.acts]
    · simp [Job.totalRank, Job.rank]
      omega
  · apply Prod.Lex.left
    cases (play.scene.perform act).2 <;>
      simp [remaining, Job.totalActs, Job.acts, Job.totalActs_append, Job.totalActs_callbacks]

private theorem moments_remaining (number other : Nat) (result : StepResult) (acts : List Act) (error : Option Text) :
    Pending.moments number (.job other (remaining result acts error)) = [] := by
  cases result <;> rfl

private theorem make_callback (dispatch : Dispatch) (play : Play) (callback : Callback) (rest : List Job) :
    let found := Cast.next callback.notice callback.listener play.cast
    play.make dispatch (.callback callback :: rest) =
      if callback.notice.escapes found.1 then (play.isolate (some (.error unheard))).make dispatch rest
      else
        { play with cast := found.2.2, calls := play.calls ++ [callback] : Play }.make dispatch
          (.script found.2.1 found.1.error :: rest) := by
  rw [make]
  split
  next manner script cast found =>
    simp only [found]
    cases callback.notice <;> simp [Notice.escapes]

private theorem make_act (dispatch : Dispatch) (play : Play) (act : Act) (acts : List Act) (error : Option Text)
    (rest : List Job) :
    let performed := play.scene.perform act
    let taken := takeWaiting dispatch performed.1
    play.make dispatch (.script (act :: acts) error :: rest) =
      { play with scene := taken.1 : Play }.make dispatch
        (Job.followedBy dispatch (remaining performed.2 acts error :: rest) taken.2) := by
  rw [make]
  rfl

/-- What is noted makes no difference. -/
theorem timeline_make (next : Nat) (play : Play) (items : List Pending) :
    (timeline next play items).1 = play.make .direct (Pending.jobs items) := by
  induction next, play, items using timeline.induct with
  | case1 next play => rw [timeline, Pending.jobs, List.filterMap_nil, make]
  | case2 next play number result rest ih =>
    rw [timeline, Pending.jobs_cons_returning]
    exact ih
  | case3 next play number callback rest found unable able =>
    rw [timeline, Pending.jobs_cons_job, make_callback]
    dsimp only
    split
    · exact unable
    · exact able
  | case4 next play number error rest ih =>
    rw [timeline, Pending.jobs_cons_job, make]
    exact ih
  | case5 next play number act acts error rest performed taken ih =>
    rw [timeline, Pending.jobs_cons_job, make_act, ih, Pending.jobs_calling, Pending.jobs_cons_returning,
      Pending.jobs_cons_job]
    rfl

/-- All calls that are made for events are noted. -/
theorem timeline_calls (next : Nat) (play : Play) (items : List Pending) :
    (timeline next play items).1.calls.filter (·.notice.isEvent) =
      play.calls.filter (·.notice.isEvent) ++
        ((timeline next play items).2.filterMap Moment.callback?).filter (·.notice.isEvent) := by
  induction next, play, items using timeline.induct with
  | case1 next play => rw [timeline, List.filterMap_nil, List.filter_nil, List.append_nil]
  | case2 next play number result rest ih =>
    rw [timeline]
    exact ih
  | case3 next play number callback rest found unable able =>
    rw [timeline]
    dsimp only
    split
    next escapes =>
      have silent : callback.notice.isEvent = false := by
        cases notice : callback.notice with
        | event => rw [notice] at escapes; contradiction
        | subscribed => rfl
      rw [unable]
      simp [Moment.callback?, silent, isolate]
    next hears =>
      rw [able]
      simp only [List.filterMap_cons, Moment.callback?, List.filter_append, List.append_assoc, List.filter_cons,
        List.filter_nil]
      split <;> rfl
  | case4 next play number error rest ih =>
    rw [timeline, ih]
    rfl
  | case5 next play number act acts error rest performed taken ih =>
    rw [timeline]
    exact ih

/-- Of an operation that has begun already nothing comes but the calls and the return that are left of it. -/
theorem timeline_of_begun (number : Nat) (next : Nat) (play : Play) (items : List Pending) (begun : number < next) :
    (timeline next play items).2.filter (·.number == number) = items.flatMap (Pending.moments number) := by
  induction next, play, items using timeline.induct with
  | case1 next play => rw [timeline]; rfl
  | case2 next play other result rest ih =>
    rw [timeline, List.flatMap_cons, ← ih begun, Pending.moments]
    by_cases same : other = number <;> simp [Moment.number, same]
  | case3 next play other callback rest found unable able =>
    rw [timeline, List.flatMap_cons, Pending.moments]
    have left : (if callback.notice.escapes found.1 then timeline next (play.isolate (some (.error unheard))) rest else
        timeline next { play with cast := found.2.2, calls := play.calls ++ [callback] }
          (.job other (.script found.2.1 found.1.error) :: rest)).2.filter (·.number == number) =
        rest.flatMap (Pending.moments number) := by
      split
      · exact unable begun
      · exact able begun
    dsimp only
    rw [List.filter_cons, left]
    by_cases same : other = number <;> simp [Moment.number, same]
  | case4 next play other error rest ih =>
    rw [timeline, List.flatMap_cons, Pending.moments, List.nil_append]
    exact ih begun
  | case5 next play other act acts error rest performed taken ih =>
    have later : next ≠ number := (Nat.ne_of_lt begun).symm
    have nothing : (Pending.calling next taken.2).flatMap (Pending.moments number) = [] :=
      Pending.moments_of_apart fun _ member => Pending.number_of_calling member ▸ later
    rw [timeline, List.flatMap_cons, Pending.moments, List.nil_append]
    dsimp only
    rw [List.filter_cons_of_neg (by simpa [Moment.number] using later), ih (Nat.lt_succ_of_lt begun), List.flatMap_append,
      nothing, List.nil_append, List.flatMap_cons, List.flatMap_cons,
      @Pending.moments_of_ne number (.returning next performed.2) later, List.nil_append, moments_remaining, List.nil_append]

private theorem le_of_begun {next : Nat} {play : Play} {items : List Pending} {number : Nat} {scene : Scene} {act : Act}
    (begins : .begun number scene act ∈ (timeline next play items).2) : next ≤ number := by
  refine Nat.le_of_not_lt fun begun => ?_
  have noted : Moment.begun number scene act ∈ (timeline next play items).2.filter (·.number == number) :=
    List.mem_filter.mpr ⟨begins, by simp [Moment.number]⟩
  rw [timeline_of_begun number next play items begun] at noted
  exact Pending.not_begun_mem_moments items noted

/-- An operation that begins calls what it submits, in order, and returns. -/
theorem timeline_begun {next : Nat} {play : Play} {items : List Pending} (below : ∀ item ∈ items, item.number < next)
    {number : Nat} {scene : Scene} {act : Act} (begins : .begun number scene act ∈ (timeline next play items).2) :
    (timeline next play items).2.filter (·.number == number) =
      .begun number scene act :: (takeWaiting .direct (scene.perform act).1).2.map (.called number) ++
        [.returned number (scene.perform act).2] := by
  have late := le_of_begun begins
  induction next, play, items using timeline.induct with
  | case1 next play =>
    rw [timeline] at begins
    contradiction
  | case2 next play other result rest ih =>
    obtain ⟨first, below⟩ := List.forall_mem_cons.mp below
    have apart : other ≠ number := Nat.ne_of_lt (Nat.lt_of_lt_of_le first late)
    rw [timeline] at begins ⊢
    have begins := (List.mem_cons.mp begins).resolve_left nofun
    dsimp only
    rw [List.filter_cons_of_neg (by simpa [Moment.number] using apart)]
    exact ih below begins late
  | case3 next play other callback rest found unable able =>
    have apart : other ≠ number := Nat.ne_of_lt (Nat.lt_of_lt_of_le (below _ List.mem_cons_self) late)
    rw [timeline] at begins ⊢
    have begins := (List.mem_cons.mp begins).resolve_left nofun
    dsimp only
    rw [List.filter_cons_of_neg (by simpa [Moment.number] using apart)]
    split at begins
    next escapes =>
      rw [if_pos escapes]
      exact unable (List.forall_mem_cons.mp below).2 begins late
    next hears =>
      rw [if_neg hears]
      exact able (List.forall_mem_cons.mpr (List.forall_mem_cons.mp below)) begins late
  | case4 next play other error rest ih =>
    rw [timeline] at begins ⊢
    exact ih (List.forall_mem_cons.mp below).2 begins late
  | case5 next play other act acts error rest performed taken ih =>
    obtain ⟨own, earlier⟩ := List.forall_mem_cons.mp below
    rw [timeline] at begins ⊢
    dsimp only at begins ⊢
    rcases List.mem_cons.mp begins with now | later
    · cases now
      have others : rest.flatMap (Pending.moments number) = [] :=
        Pending.moments_of_apart fun item member => Nat.ne_of_lt (earlier item member)
      rw [List.filter_cons_of_pos (by simp [Moment.number]),
        timeline_of_begun number (number + 1) _ _ (Nat.lt_succ_self number), List.flatMap_append,
        Pending.moments_calling_self, List.flatMap_cons, List.flatMap_cons, moments_remaining, others]
      simp [Pending.moments]
    · have late := le_of_begun later
      have apart : next ≠ number := Nat.ne_of_lt late
      rw [List.filter_cons_of_neg (by simpa [Moment.number] using apart)]
      refine ih ?_ later late
      intro item member
      rcases List.mem_append.mp member with calling | after
      · exact Pending.number_of_calling calling ▸ Nat.lt_succ_self next
      · rcases List.mem_cons.mp after with rfl | after
        · exact Nat.lt_succ_self next
        · rcases List.mem_cons.mp after with rfl | after
          · exact Nat.lt_succ_of_lt own
          · exact Nat.lt_succ_of_lt (earlier item after)

/-- There is no queue that listeners could shut down when callbacks are made at once. -/
def Unclosing (cast : Cast) : Prop := ∀ entry ∈ cast, entry.2.Keeps (· ≠ .shutDown)

private theorem unclosing_next {cast : Cast} (unclosing : Unclosing cast) (notice : Notice) (listener : Listener) :
    Unclosing (Cast.next notice listener cast).2.2 ∧ ∀ act ∈ (Cast.next notice listener cast).2.1, act ≠ .shutDown := by
  obtain ⟨left, ⟨behaviour, own, _, script⟩ | ⟨_, script⟩⟩ := Cast.next_cases unclosing notice listener
    fun _ keeps => (keeps.next notice).2
  · exact ⟨left, script ▸ (own.next notice).1⟩
  · exact ⟨left, script ▸ nofun⟩

/-- Callbacks are made at once at every moment. -/
theorem prompt_of_begun {next : Nat} {play : Play} {items : List Pending} (prompt : play.scene.Prompt)
    (unclosing : Unclosing play.cast) (running : ∀ item ∈ items, item.Running) {number : Nat} {scene : Scene} {act : Act}
    (begins : .begun number scene act ∈ (timeline next play items).2) : scene.Prompt := by
  induction next, play, items using timeline.induct with
  | case1 next play =>
    rw [timeline] at begins
    contradiction
  | case2 next play other result rest ih =>
    rw [timeline] at begins
    exact ih prompt unclosing (List.forall_mem_cons.mp running).2 ((List.mem_cons.mp begins).resolve_left nofun)
  | case3 next play other callback rest found unable able =>
    obtain ⟨_, running⟩ := List.forall_mem_cons.mp running
    rw [timeline] at begins
    have begins := (List.mem_cons.mp begins).resolve_left nofun
    split at begins
    · exact unable ⟨prompt.idle, prompt.accepting, prompt.distinct⟩ unclosing running begins
    · obtain ⟨left, script⟩ := unclosing_next unclosing callback.notice callback.listener
      exact able prompt left (List.forall_mem_cons.mpr ⟨script, running⟩) begins
  | case4 next play other error rest ih =>
    rw [timeline] at begins
    have same : (play.isolate (error.map .error)).scene.Prompt := by
      cases error
      · exact prompt
      · exact ⟨prompt.idle, prompt.accepting, prompt.distinct⟩
    exact ih same unclosing (List.forall_mem_cons.mp running).2 begins
  | case5 next play other act acts error rest performed taken ih =>
    obtain ⟨script, running⟩ := List.forall_mem_cons.mp running
    obtain ⟨first, later⟩ := List.forall_mem_cons.mp script
    rw [timeline] at begins
    rcases List.mem_cons.mp begins with now | after
    · cases now
      exact prompt
    · refine ih (prompt.perform first) unclosing ?_ after
      intro item member
      rcases List.mem_append.mp member with calling | left
      · obtain ⟨callback, _, rfl⟩ := List.mem_map.mp calling
        exact trivial
      · refine List.forall_mem_cons.mpr ⟨trivial, List.forall_mem_cons.mpr ⟨?_, running⟩⟩ item left
        cases performed.2 with
        | ok => exact later
        | error => exact nofun

/-- What becomes of an act that is performed from outside, as operation 0, with all that follows at once. -/
def recount (play : Play) (act : Act) : Play × List Moment :=
  let performed := play.scene.perform act
  let taken := takeWaiting .direct performed.1
  let last := timeline 1 { play with scene := taken.1 } (Pending.calling 0 taken.2 ++ [.returning 0 performed.2])
  (last.1, .begun 0 play.scene act :: last.2)

private theorem recount_makeAll (play : Play) (act : Act) :
    (play.recount act).1 = { play with scene := (play.scene.perform act).1 : Play }.makeAll .direct := by
  have left : Pending.jobs [.returning 0 (play.scene.perform act).2] = [] := rfl
  rw [recount, timeline_make, Pending.jobs_calling, left, List.append_nil]
  rfl

private theorem recount_begun (play : Play) (act : Act) {number : Nat} {scene : Scene} {nested : Act}
    (begins : .begun number scene nested ∈ (play.recount act).2) :
    (play.recount act).2.filter (·.number == number) =
      .begun number scene nested :: (takeWaiting .direct (scene.perform nested).1).2.map (.called number) ++
        [.returned number (scene.perform nested).2] := by
  rw [recount] at begins ⊢
  rcases List.mem_cons.mp begins with now | later
  · cases now
    dsimp only
    rw [List.filter_cons_of_pos (by simp [Moment.number]), timeline_of_begun 0 1 _ _ Nat.one_pos, List.flatMap_append,
      Pending.moments_calling_self]
    simp [Pending.moments]
  · have apart : 0 ≠ number := Nat.ne_of_lt (le_of_begun later)
    dsimp only
    rw [List.filter_cons_of_neg (by simpa [Moment.number] using apart)]
    refine timeline_begun ?_ later
    intro item member
    rcases List.mem_append.mp member with calling | last
    · exact Pending.number_of_calling calling ▸ Nat.one_pos
    · obtain rfl := List.mem_singleton.mp last
      exact Nat.one_pos

private theorem recount_prompt {play : Play} (prompt : play.scene.Prompt) (unclosing : Unclosing play.cast) {act : Act}
    (running : act ≠ .shutDown) {number : Nat} {scene : Scene} {nested : Act}
    (begins : .begun number scene nested ∈ (play.recount act).2) : scene.Prompt := by
  rcases List.mem_cons.mp begins with now | later
  · cases now
    exact prompt
  · refine prompt_of_begun ?_ ?_ ?_ later
    · exact prompt.perform running
    · exact unclosing
    · intro item member
      rcases List.mem_append.mp member with calling | last
      · obtain ⟨callback, _, rfl⟩ := List.mem_map.mp calling
        exact trivial
      · obtain rfl := List.mem_singleton.mp last
        exact trivial

/-- Callbacks that are made at once may do anything to channels, and hand over more frames. Still each frame that comes for
a channel which has not ended, and can be decoded, calls those listeners that are bound to its event at that moment, once
each and nobody else, with its event and its data; then the operation that handed it over returns without a fault. A frame
that a reader takes is handed over in the same way. -/
theorem frames_call_bound_listeners (play : Play) (prompt : play.scene.Prompt) (unclosing : Unclosing play.cast) (act : Act)
    (running : act ≠ .shutDown) :
    let told := play.recount act
    told.1 = { play with scene := (play.scene.perform act).1 : Play }.makeAll .direct ∧
    told.1.calls.filter (·.notice.isEvent) =
      play.calls.filter (·.notice.isEvent) ++ (told.2.filterMap Moment.callback?).filter (·.notice.isEvent) ∧
    .begun 0 play.scene act ∈ told.2 ∧
    (∀ number scene nested, .begun number scene nested ∈ told.2 → ∀ id event frame channel envelope,
      scene.offered nested = some ⟨id, event, frame⟩ → scene.client.channels[id]? = some channel →
      channel.phase ≠ .ended → Envelope.ofDelivery frame = .ok envelope → event ≠ Envelope.succeededEvent →
      (channel.bindings.listenersFor event).Nodup ∧
      told.2.filter (·.number == number) =
        .begun number scene nested ::
          (channel.bindings.listenersFor event).map
            (fun listener => .called number ⟨listener, .event channel.name event envelope.data⟩) ++
          [.returned number (.ok .nothing)]) ∧
    ∀ reader offer accepted, play.scene.client.offered (.turn reader) = some offer →
      play.scene.client.taken offer = some accepted →
      ∃ socket rest name, let taken : Scene := { play.scene with client := (play.scene.client.leave socket rest).counted }
        taken.Prompt ∧ taken.offered (.deliver name offer.event offer.frame) = some offer ∧
        play.scene.client.turn reader = ((taken.perform (.deliver name offer.event offer.frame)).1.client, .done (.ok none)) := by
  intro told
  refine ⟨recount_makeAll play act, timeline_calls _ _ _, List.mem_cons_self, ?_, ?_⟩
  · intro number scene nested begins id event frame channel envelope offered found live decoded other
    have prompt := recount_prompt prompt unclosing running begins
    have accepts : channel.accepted event frame = some (.announcement event envelope) := by
      simp only [Channel.accepted, if_neg live, decoded, if_neg other]
    have taken : scene.client.taken ⟨id, event, frame⟩ = some ⟨id, channel, .announcement event envelope⟩ := by
      simp only [Client.taken, found, Option.bind_some, accepts, Option.map_some]
    obtain ⟨succeeds, calls⟩ := prompt.perform_taken offered taken
    have distinct := prompt.distinct _ (List.mem_map_of_mem (List.mem_of_getElem? found))
    refine ⟨distinct.listenersFor event, ?_⟩
    rw [recount_begun play act begins, succeeds, calls, Accepted.callbacks, Acceptance.callbacks, List.map_map]
    rfl
  · intro reader offer accepted offered taken
    obtain ⟨socket, rest, name, known, turned⟩ := Client.turn_of_taken offered taken prompt.accepting
    have named : (play.scene.client.lookup name).map (⟨·, offer.event, offer.frame⟩) = some offer := by
      rw [known, Option.map_some]
    exact ⟨socket, rest, name, ⟨prompt.idle, prompt.accepting, prompt.distinct⟩, named, turned⟩

def price (data : Text) : Frame :=
  .text (Json.object [("event", .text "price"), ("channel", .text "feed"), ("data", .text data)]).compact

/-- Two listeners of one event. In its first call the first one unbinds the second, and hands over another frame. -/
def crossing : Play where
  scene := {
    client := (Client.fresh "url").run
      [.subscribe .application (some "feed") (some "first") [some "price"], .bind 0 (some "price") (some "second")]
    handles := [("feed", 0)] }
  cast := [("first", { onEvent := [[.unbind "feed" (some "price") (some "second"), .receive "feed" "price" (price "2")]] })]

/-- The first frame still calls both, since both were bound when it was decoded. -/
theorem frames_call_bound_listeners_crossing :
    crossing.scene.Prompt ∧ Unclosing crossing.cast ∧
      (crossing.recount (.receive "feed" "price" (price "1"))).2.filter (·.number == 0) =
        [.begun 0 crossing.scene (.receive "feed" "price" (price "1")),
          .called 0 ⟨"first", .event "feed" "price" (.text "1")⟩, .called 0 ⟨"second", .event "feed" "price" (.text "1")⟩,
          .returned 0 (.ok .nothing)] := by
  have prompt : crossing.scene.Prompt :=
    ⟨by rfl, by rfl, Client.run_binds Bindings.Distinct.lasting (Client.initial_binds "url" .connection) _⟩
  have unclosing : Unclosing crossing.cast := by
    intro entry member
    obtain rfl := List.mem_singleton.mp member
    intro script given act performed
    obtain rfl := List.mem_singleton.mp given
    rcases List.mem_cons.mp performed with rfl | last
    · nofun
    · obtain rfl := List.mem_singleton.mp last
      nofun
  let channel : Channel :=
    { name := "feed", lifecycle := some "first", bindings := ⟨[("price", ["first", "second"])]⟩ }
  have offered : crossing.scene.offered (.receive "feed" "price" (price "1")) = some ⟨0, "price", price "1"⟩ := by rfl
  have found : crossing.scene.client.channels[0]? = some channel := by decide +kernel
  have decoded : Envelope.ofDelivery (price "1") = .ok ⟨some "price", .text "1", none, some "feed"⟩ := by rfl
  obtain ⟨_, _, begins, calls, _⟩ :=
    frames_call_bound_listeners crossing prompt unclosing (.receive "feed" "price" (price "1")) nofun
  exact ⟨prompt, unclosing, (calls 0 _ _ begins 0 "price" _ channel _ offered found nofun decoded (by decide)).2⟩

end Play
end Pubsub
