import Pubsub.Proofs.Bindings
import Pubsub.Session.Callbacks

/-! Every listener is called for exactly what it is due, in order. What it is due is settled when a frame
is handled; whatever happens before the worker calls it changes nothing. -/

namespace Pubsub

/-- What a listener is due when a channel accepts a frame. -/
def Acceptance.due (listener : Listener) (channel : Channel) : Acceptance → List Notice
  | .success _ => if channel.lifecycle = some listener then [.subscribed channel.name] else []
  | .announcement event envelope =>
    if (channel.bindings.listenersFor event).contains listener then [.event channel.name event envelope.data] else []

def noticesTo (listener : Listener) (callbacks : List Callback) : List Notice :=
  (callbacks.filter (·.listener = listener)).map (·.notice)

private theorem noticesTo_append (listener : Listener) (first second : List Callback) :
    noticesTo listener (first ++ second) = noticesTo listener first ++ noticesTo listener second := by
  simp only [noticesTo, List.filter_append, List.map_append]

private theorem noticesTo_map {listeners : List Listener} (distinct : listeners.Nodup) (listener : Listener)
    (notice : Notice) :
    noticesTo listener (listeners.map fun listener => ⟨listener, notice⟩) =
      if listener ∈ listeners then [notice] else [] := by
  induction listeners with
  | nil => rfl
  | cons first rest ih =>
    obtain ⟨absent, distinct⟩ := List.nodup_cons.mp distinct
    have others := ih distinct
    simp only [noticesTo, List.map_cons, List.filter_cons] at others ⊢
    by_cases same : first = listener
    · subst same
      rw [if_neg absent] at others
      simp only [decide_true, if_true, List.map_cons, others, List.mem_cons_self]
    · simp only [same, decide_false, Bool.false_eq_true, if_false, others, List.mem_cons, Ne.symm same, false_or]

private theorem Acceptance.noticesTo_callbacks {channel : Channel} (distinct : channel.bindings.Distinct)
    (listener : Listener) (acceptance : Acceptance) :
    noticesTo listener (acceptance.callbacks channel) = acceptance.due listener channel := by
  cases acceptance with
  | success token =>
    have single : channel.lifecycle.toList.Nodup := by cases channel.lifecycle <;> simp
    simp only [callbacks, due, noticesTo_map single, Option.mem_toList]
  | announcement event envelope =>
    simp only [callbacks, due, noticesTo_map (distinct.listenersFor event), List.contains_iff_mem]

namespace Client

def due (client : Client) (listener : Listener) (event : Event) : List Notice :=
  match client.taker event with
  | none => []
  | some accepted => accepted.acceptance.due listener accepted.channel

structure Submits (callbacks : List Callback) (before after : Client) : Prop where
  waiting : before.accepting → after.waiting = before.waiting ++ callbacks
  accepting : after.accepting = before.accepting

theorem Takes.submits {accepted : Accepted} {before after : Client} (takes : Takes accepted before after) :
    Submits accepted.callbacks before after :=
  ⟨fun accepting => by rw [takes.waiting, if_pos accepting], takes.accepting⟩

theorem Moves.submits {before after : Client} (moves : Moves before after) : Submits [] before after :=
  ⟨fun _ => moves.waiting.trans (List.append_nil _).symm, moves.accepting⟩

private theorem change_submits (client : Client) (id : ChannelId) (update : Channel → Except Error Channel) :
    Submits [] client (client.change id update) := by
  unfold change
  split
  · exact Moves.submits ⟨rfl, rfl, rfl⟩
  · split
    · exact Moves.submits ⟨rfl, rfl, rfl⟩
    · exact ⟨fun _ => (List.append_nil _).symm, rfl⟩

theorem Effect.submits {client after : Client} {event : Event} (effect : Effect client event after)
    (making : event ≠ .callback) (closing : event ≠ .shutDown) :
    Submits (((client.taker event).map (·.callbacks)).getD []) client after := by
  cases effect with
  | taken taker takes =>
    rw [taker]
    exact takes.submits
  | moved nobody _ moves =>
    rw [nobody]
    exact moves.submits
  | changed asked =>
    have nobody : client.taker event = none := by cases event <;> first | contradiction | rfl
    rw [nobody]
    exact change_submits client _ _
  | added creates moves =>
    have nobody : client.taker event = none := by cases creates <;> rfl
    rw [nobody]
    exact ⟨fun _ => moves.waiting.trans (List.append_nil _).symm, moves.accepting⟩
  | called => contradiction
  | closed => contradiction

end Client

def Act.looks : Act → Bool
  | .listeners _ _ | .request _ | .describe _ | .precedes _ _ | .sort _ | .find _ | .contains _ | .statistics => true
  | _ => false

private theorem Scene.perform_of_looks (scene : Scene) {act : Act} (looks : act.looks) :
    (scene.perform act).1 = scene := by
  cases act <;> first | contradiction | rfl

def Behaviour.Keeps (kind : Act → Prop) (behaviour : Behaviour) : Prop :=
  ∀ script ∈ behaviour.onEvent ++ behaviour.onSubscribed, ∀ act ∈ script, kind act

theorem Behaviour.Keeps.next {kind : Act → Prop} {behaviour : Behaviour} (keeps : behaviour.Keeps kind) (notice : Notice) :
    (∀ act ∈ (behaviour.next notice).1, kind act) ∧ (behaviour.next notice).2.Keeps kind := by
  obtain ⟨manner, onEvent, onSubscribed⟩ := behaviour
  unfold Behaviour.next
  split
  · split
    · exact ⟨nofun, keeps⟩
    next script rest found =>
      cases found
      exact ⟨keeps script List.mem_cons_self, fun later member => keeps later (List.mem_cons_of_mem _ member)⟩
  · split
    · exact ⟨nofun, keeps⟩
    next script rest found =>
      cases found
      refine ⟨keeps script (List.mem_append_right _ List.mem_cons_self), ?_⟩
      intro later member
      rcases List.mem_append.mp member with inEvents | inRest
      · exact keeps later (List.mem_append_left _ inEvents)
      · exact keeps later (List.mem_append_right _ (List.mem_cons_of_mem _ inRest))

private theorem Behaviour.next_manner (behaviour : Behaviour) (notice : Notice) :
    (behaviour.next notice).2.manner = behaviour.manner := by
  unfold Behaviour.next
  split <;> split <;> rfl

/-- A call of a listener takes the next script of that listener and leaves all others as they are. -/
theorem Cast.next_cases {holds : Behaviour → Prop} {cast : Cast} (all : ∀ entry ∈ cast, holds entry.2) (notice : Notice)
    (listener : Listener) (kept : ∀ behaviour, holds behaviour → holds (behaviour.next notice).2) :
    (∀ entry ∈ (Cast.next notice listener cast).2.2, holds entry.2) ∧
      ((∃ behaviour, holds behaviour ∧ (Cast.next notice listener cast).1 = behaviour.manner ∧
        (Cast.next notice listener cast).2.1 = (behaviour.next notice).1) ∨
      (Cast.next notice listener cast).1 = .plain ∧ (Cast.next notice listener cast).2.1 = []) := by
  induction cast with
  | nil => exact ⟨nofun, .inr ⟨rfl, rfl⟩⟩
  | cons entry rest ih =>
    obtain ⟨name, behaviour⟩ := entry
    obtain ⟨own, others⟩ := List.forall_mem_cons.mp all
    obtain ⟨left, called⟩ := ih others
    by_cases same : name = listener
    · simp only [Cast.next, if_pos same]
      exact ⟨List.forall_mem_cons.mpr ⟨kept behaviour own, others⟩, .inl ⟨behaviour, own, rfl, rfl⟩⟩
    · simp only [Cast.next, if_neg same]
      exact ⟨List.forall_mem_cons.mpr ⟨own, left⟩, called⟩

/-- A listener that can be told of everything and changes nothing in a callback, but may fail in it. -/
structure Behaviour.Recording (behaviour : Behaviour) : Prop where
  able : behaviour.manner ≠ .eventsOnly
  looking : ∀ script ∈ behaviour.onEvent ++ behaviour.onSubscribed, ∀ act ∈ script, act.looks

def Cast.Recording (cast : Cast) : Prop := ∀ entry ∈ cast, entry.2.Recording

theorem Cast.Recording.next {cast : Cast} (recording : cast.Recording) (notice : Notice) (listener : Listener) :
    ∃ manner script later, Cast.next notice listener cast = (manner, script, later) ∧ manner ≠ .eventsOnly ∧
      (∀ act ∈ script, act.looks) ∧ Cast.Recording later := by
  have kept (behaviour : Behaviour) (recording : behaviour.Recording) : (behaviour.next notice).2.Recording :=
    ⟨behaviour.next_manner notice ▸ recording.able, (Behaviour.Keeps.next recording.looking notice).2⟩
  obtain ⟨left, ⟨behaviour, own, manner, script⟩ | ⟨manner, script⟩⟩ := Cast.next_cases recording notice listener kept
  · exact ⟨_, _, _, rfl, manner ▸ own.able, script ▸ (Behaviour.Keeps.next own.looking notice).1, left⟩
  · exact ⟨_, _, _, rfl, manner ▸ by decide, script ▸ nofun, left⟩

namespace Play

structure Makes (callbacks : List Callback) (before after : Play) : Prop where
  calls : after.calls = before.calls ++ callbacks
  recording : after.cast.Recording
  client : ∃ records, after.scene.client = { before.scene.client with records }

theorem Makes.append {first second : List Callback} {start middle last : Play} (a : Makes first start middle)
    (b : Makes second middle last) : Makes (first ++ second) start last := by
  obtain ⟨records, client⟩ := b.client
  obtain ⟨_, earlier⟩ := a.client
  exact ⟨by rw [b.calls, a.calls, List.append_assoc], b.recording, records, by rw [client, earlier]⟩

theorem Makes.waiting {callbacks : List Callback} {before after : Play} (makes : Makes callbacks before after) :
    after.scene.client.waiting = before.scene.client.waiting := by
  obtain ⟨records, client⟩ := makes.client
  rw [client]

def Undisturbed (dispatch : Dispatch) (play : Play) : Prop := dispatch = .deferred ∨ play.scene.client.waiting = []

/-- What a listener does that only looks leads to nothing, and to a record if it fails. -/
theorem make_script {dispatch : Dispatch} {play : Play} (undisturbed : play.Undisturbed dispatch)
    (recording : play.cast.Recording) {acts : List Act} (looking : ∀ act ∈ acts, act.looks)
    (error : Option Text) (rest : List Job) :
    ∃ noted, Makes [] play noted ∧ play.make dispatch (.script acts error :: rest) = noted.make dispatch rest := by
  have finished (error : Option Text) :
      ∃ noted, Makes [] play noted ∧ play.make dispatch (.script [] error :: rest) = noted.make dispatch rest := by
    refine ⟨play.isolate (error.map .error), ⟨(List.append_nil _).symm, recording, ?_⟩, by rw [make]⟩
    cases error with
    | none => exact ⟨_, rfl⟩
    | some reason => exact ⟨_, rfl⟩
  induction acts with
  | nil => exact finished error
  | cons act acts ih =>
    obtain ⟨looks, later⟩ := List.forall_mem_cons.mp looking
    have same := play.scene.perform_of_looks looks
    have nothing : takeWaiting dispatch play.scene = (play.scene, []) := by
      rcases undisturbed with rfl | empty
      · rfl
      · unfold takeWaiting
        split
        · rfl
        · rw [empty, ← empty]
    have jobs (left : List Job) : Job.followedBy dispatch left [] = left := by
      cases dispatch <;> simp [Job.followedBy]
    rw [make]
    generalize play.scene.perform act = performed at same
    obtain ⟨scene, outcome⟩ := performed
    obtain rfl : scene = play.scene := same
    simp only [nothing, jobs]
    cases outcome with
    | ok => exact ih later
    | error fault => exact finished (some fault.reason)

/-- Listeners that only note their calls get each callback once, in order, whoever of them fails. -/
theorem make_makes {dispatch : Dispatch} (callbacks : List Callback) {play : Play}
    (undisturbed : play.Undisturbed dispatch) (recording : play.cast.Recording) :
    Makes callbacks play (play.make dispatch (callbacks.map .callback)) := by
  induction callbacks generalizing play with
  | nil =>
    rw [List.map_nil, make]
    exact ⟨(List.append_nil _).symm, recording, _, rfl⟩
  | cons callback rest ih =>
    obtain ⟨manner, script, later, next, able, looking, left⟩ := recording.next callback.notice callback.listener
    let called : Play := { play with cast := later, calls := play.calls ++ [callback] }
    have calls : Makes [callback] play called := ⟨rfl, left, _, rfl⟩
    have quiet : called.Undisturbed dispatch := undisturbed
    obtain ⟨noted, scripted, made⟩ := make_script quiet left looking manner.error (rest.map .callback)
    have first : Makes [callback] play noted := List.append_nil [callback] ▸ calls.append scripted
    have unfolded : play.make dispatch (.callback callback :: rest.map .callback) =
        noted.make dispatch (rest.map .callback) := by
      rw [make]
      simp only [next, able, false_and, if_false]
      exact made
    have still : noted.Undisturbed dispatch := undisturbed.imp_right fun empty => first.waiting.trans empty
    rw [List.map_cons, unfolded]
    exact first.append (ih still first.recording)

def step (play : Play) : Event → Play
  | .callback => play.makeSome 1
  | event => { play with scene := { play.scene with client := play.scene.client.step event } }

def run (play : Play) (events : List Event) : Play := events.foldl step play

def fresh (url : Text) (cast : Cast) : Play := { scene := { client := .fresh url }, cast }

/-- What a listener is due in a run, as it was when each frame was handled. -/
def dues (listener : Listener) : Play → List Event → List Notice
  | _, [] => []
  | play, event :: rest => play.scene.client.due listener event ++ dues listener (play.step event) rest

/-- What a listener has been told, and what it is going to be told. -/
def told (listener : Listener) (play : Play) : List Notice :=
  noticesTo listener (play.calls ++ play.scene.client.waiting)

theorem run_cons (play : Play) (event : Event) (rest : List Event) :
    play.run (event :: rest) = (play.step event).run rest := rfl

theorem Makes.told {callbacks : List Callback} {before after : Play} (makes : Makes callbacks before after)
    (listener : Listener) :
    after.told listener = noticesTo listener (before.calls ++ callbacks ++ before.scene.client.waiting) := by
  obtain ⟨records, client⟩ := makes.client
  rw [Play.told, makes.calls, client]

private theorem makeSome_one_cases (play : Play) (recording : play.cast.Recording) :
    (play.scene.client.waiting = [] ∧ play.makeSome 1 = play) ∨
    ∃ callback waiting, play.scene.client.waiting = callback :: waiting ∧
      Makes [callback] { play with scene := { play.scene with client := { play.scene.client with waiting } } }
        (play.makeSome 1) := by
  unfold makeSome
  split
  next nothing => exact .inl ⟨nothing, rfl⟩
  next callback waiting found =>
    refine .inr ⟨callback, waiting, found, ?_⟩
    exact make_makes [callback] (.inl rfl) recording

private theorem step_of_other {play : Play} {event : Event} (other : event ≠ .callback) :
    play.step event = { play with scene := { play.scene with client := play.scene.client.step event } } := by
  cases event <;> first | contradiction | rfl

structure Ready (play : Play) : Prop where
  distinct : play.scene.client.Distinct
  recording : play.cast.Recording
  accepting : play.scene.client.accepting = true

theorem Ready.step {play : Play} (ready : play.Ready) {event : Event} (closing : event ≠ .shutDown) :
    (play.step event).Ready := by
  by_cases making : event = .callback
  · subst making
    rcases makeSome_one_cases play ready.recording with ⟨_, same⟩ | ⟨callback, waiting, _, makes⟩
    · rwa [Play.step, same]
    · obtain ⟨records, client⟩ := makes.client
      refine ⟨?_, makes.recording, ?_⟩
      · have distinct := ready.distinct
        unfold Client.Distinct at distinct ⊢
        rwa [Play.step, client]
      · have accepting := ready.accepting
        rwa [Play.step, client]
  · rw [step_of_other making]
    have accepting := ((Client.step_effect play.scene.client event).submits making closing).accepting
    exact ⟨(Client.step_effect play.scene.client event).distinct ready.distinct, ready.recording, accepting.trans ready.accepting⟩

/-- What a listener is going to be told grows by what it is due; that it is told makes no difference. -/
theorem step_told {play : Play} (ready : play.Ready) {event : Event} (closing : event ≠ .shutDown) (listener : Listener) :
    (play.step event).told listener = play.told listener ++ play.scene.client.due listener event := by
  by_cases making : event = .callback
  · subst making
    have nothing : play.scene.client.due listener .callback = [] := rfl
    rw [nothing, List.append_nil, step]
    -- the worker moves a callback from those that wait to those that were made
    rcases makeSome_one_cases play ready.recording with ⟨_, same⟩ | ⟨callback, waiting, found, makes⟩
    · rw [same]
    · rw [makes.told, told, found, List.append_assoc, List.singleton_append]
  · have submits := (Client.step_effect play.scene.client event).submits making closing
    rw [step_of_other making, told, submits.waiting ready.accepting, ← List.append_assoc, noticesTo_append, told]
    congr 1
    unfold Client.due
    cases taker : play.scene.client.taker event with
    | none => rfl
    | some accepted =>
      have distinct := ready.distinct _ (List.mem_map_of_mem (List.mem_of_getElem? (Client.taker_found taker)))
      exact Acceptance.noticesTo_callbacks distinct listener accepted.acceptance

private theorem run_told {play : Play} (ready : play.Ready) {events : List Event} (closing : .shutDown ∉ events)
    (listener : Listener) :
    (play.run events).Ready ∧ (play.run events).told listener = play.told listener ++ dues listener play events := by
  induction events generalizing play with
  | nil => exact ⟨ready, (List.append_nil _).symm⟩
  | cons event rest ih =>
    obtain ⟨first, others⟩ := List.ne_and_not_mem_of_not_mem_cons closing
    obtain ⟨later, told⟩ := ih (ready.step first.symm) others
    refine ⟨later, ?_⟩
    rw [run_cons, told, step_told ready first.symm, dues, List.append_assoc]

/-- Once everything that waits has been made, a listener has been told exactly what it was due in the
run, in order, whoever of the listeners fails. -/
theorem told_what_was_due (url : Text) (cast : Cast) (recording : cast.Recording) (events : List Event)
    (closing : .shutDown ∉ events) (listener : Listener) :
    (((fresh url cast).run events).makeAll .queued).scene.client.waiting = [] ∧
      noticesTo listener (((fresh url cast).run events).makeAll .queued).calls =
        dues listener (fresh url cast) events := by
  have start : (fresh url cast).Ready := ⟨nofun, recording, rfl⟩
  obtain ⟨ready, told⟩ := run_told start closing listener
  generalize (fresh url cast).run events = last at ready told
  let emptied : Play := { last with scene := { last.scene with client := { last.scene.client with waiting := [] } } }
  have makes : Makes last.scene.client.waiting emptied (last.makeAll .queued) :=
    make_makes last.scene.client.waiting (.inr rfl) ready.recording
  obtain ⟨records, client⟩ := makes.client
  refine ⟨congrArg Client.waiting client, ?_⟩
  rw [makes.calls]
  exact told

/-- One listener is unbound and the channel is unsubscribed before the worker calls anyone. -/
def interrupted : List Event :=
  [.subscribe .application (some "feed") (some "first") [some "price"], .connect .application, .resume 0 (.ok ()),
    .turn 0, .bind 0 (some "price") (some "second")] ++
    Event.arrival [("event", .text "pusher:connection_established")] ++ [.resume 1 (.ok ())] ++
    Event.arrival [("event", .text "pusher_internal:subscription_succeeded"), ("channel", .text "feed")] ++
    Event.arrival [("event", .text "price"), ("channel", .text "feed"), ("data", .text "41")] ++
    [.unbind 0 (some "price") (some "first"), .setLifecycle 0 (some "second")] ++
    Event.arrival [("event", .text "price"), ("channel", .text "feed"), ("data", .text "42")] ++
    [.callback, .unsubscribe .application (some "feed")]

/-- One listener fails whenever it is called, the other one in its second call. -/
def failing : Cast := [("first", { manner := .failing "first" }), ("second", { onEvent := [[], [.describe "nobody"]] })]

private theorem failing_recording : failing.Recording := by
  intro entry member
  rcases List.mem_cons.mp member with rfl | last
  · exact ⟨by decide, nofun⟩
  · obtain rfl := List.mem_singleton.mp last
    exact ⟨by decide, by decide⟩

/-- Each is due one notice of its own, and one of the event that both were bound to. -/
theorem told_what_was_due_interrupted :
    failing.Recording ∧ .shutDown ∉ interrupted ∧
      (dues "first" (fresh "url" failing) interrupted).length = 2 ∧
      (dues "second" (fresh "url" failing) interrupted).length = 2 ∧
      noticesTo "first" (((fresh "url" failing).run interrupted).makeAll .queued).calls =
        dues "first" (fresh "url" failing) interrupted := by
  have closing : .shutDown ∉ interrupted := by simp [interrupted, Event.arrival]
  exact ⟨failing_recording, closing, by decide +kernel, by decide +kernel,
    (told_what_was_due "url" failing failing_recording interrupted closing "first").2⟩

end Play
end Pubsub
