import Pubsub.Proofs.Apart
import Pubsub.Session.Step

/-! Scenes that differ in the log and in the callbacks that still wait, and what remains of callbacks when the
listeners only take note of them. -/

namespace Pubsub
open Client (Apart)

def Scene.Beside (past : List Callback) (a b : Scene) :
    Prop := ∃ client, Apart past true a.client client ∧ b = { a with client }

def Scene.Agree {α : Type} (past : List Callback) (x y : Scene × α) : Prop := Scene.Beside past x.1 y.1 ∧ x.2 = y.2

theorem Scene.adopt_client (scene : Scene) : scene.adopt.client = scene.client := by
  unfold Scene.adopt
  generalize scene.client.listing = ids
  induction ids generalizing scene with
  | nil => rfl
  | cons id rest ih =>
    rw [List.foldl_cons, ih]
    split <;> rfl

namespace Scene.Beside

variable {past : List Callback} {a b : Scene}

theorem foldl {step : Scene → ChannelId → Scene}
    (kept : ∀ {a b : Scene} (id : ChannelId), Beside past a b → Beside past (step a id) (step b id))
    (beside : Beside past a b)
    (ids : List ChannelId) : Beside past (ids.foldl step a) (ids.foldl step b) := by
  induction ids generalizing a b with
  | nil => exact beside
  | cons id rest ih => exact ih (kept id beside)

theorem adopt (beside : Beside past a b) : Beside past a.adopt b.adopt := by
  have listing : b.client.listing = a.client.listing := by
    obtain ⟨_, ⟨_, _, _, rfl⟩, rfl⟩ := beside
    rfl
  unfold Scene.adopt
  rw [listing]
  refine beside.foldl (fun {a b} id beside => ?_) _
  obtain ⟨client, apart, rfl⟩ := beside
  have named : client.nameOf id = a.client.nameOf id := by
    unfold Client.nameOf
    rw [apart.channels]
  have handle : Scene.handleOf { a with client } id = a.handleOf id := rfl
  rw [handle]
  by_cases known : (a.handleOf id).isSome = true
  · rw [if_pos known, if_pos known]
    exact ⟨client, apart, rfl⟩
  · rw [if_neg known, if_neg known]
    exact ⟨client, apart, by rw [named]; rfl⟩

/-- The callbacks that wait are made for the first scene only. -/
theorem made (beside : Beside past a b) (records : List Record) :
    Beside (past ++ a.client.waiting) { a with client := { a.client with waiting := [], records } } b := by
  obtain ⟨_, ⟨noted, received, same, rfl⟩, rfl⟩ := beside
  refine ⟨_, ⟨noted, received, same, ?_⟩, rfl⟩
  rw [List.append_nil]

variable (beside : Beside past a b)
include beside

theorem locate (handle : Handle) : b.locate handle = a.locate handle := by
  obtain ⟨client, apart, rfl⟩ := beside
  unfold Scene.locate
  rw [apart.channels]

theorem locateAll (handles : List Handle) : b.locateAll handles = a.locateAll handles := by
  induction handles with
  | nil => rfl
  | cons handle rest ih => simp only [Scene.locateAll, beside.locate, ih]

theorem view (handle : Handle) (look : Channel → Value) : Scene.Agree past (a.view handle look) (b.view handle look) :=
  ⟨beside, by simp only [Scene.view, beside.locate]⟩

theorem change (handle : Handle) (update : Channel → Except Error Channel) :
    Scene.Agree past (a.change handle update) (b.change handle update) := by
  unfold Scene.change
  rw [beside.locate]
  split
  · exact ⟨beside, rfl⟩
  · split
    · exact ⟨beside, rfl⟩
    · obtain ⟨_, ⟨_, _, same, rfl⟩, rfl⟩ := beside
      exact ⟨⟨_, ⟨_, _, same, rfl⟩, rfl⟩, rfl⟩

theorem after {x y : Client × Except Error Unit} (agree : Client.Agree past true x y) :
    Scene.Agree past (a.after x) (b.after y) := by
  obtain ⟨client, apart, rfl⟩ := beside
  exact ⟨⟨_, agree.1, rfl⟩, by simp only [Scene.after, agree.2]⟩

theorem apply (handle : Handle) {first second : ChannelId → Client × Except Error Unit}
    (agree : ∀ id, Client.Agree past true (first id) (second id)) :
    Scene.Agree past (a.apply handle first) (b.apply handle second) := by
  unfold Scene.apply
  rw [beside.locate]
  split
  · exact ⟨beside, rfl⟩
  · exact beside.after (agree _)

/-- Acts come to the same, unless callbacks are refused from then on. -/
theorem perform {act : Act} (running : act ≠ .shutDown) : Scene.Agree past (a.perform act) (b.perform act) := by
  have apart : Apart past true a.client b.client := by
    obtain ⟨client, apart, rfl⟩ := beside
    exact apart
  cases act with
  | shutDown => contradiction
  | make handle name family =>
    simp only [Scene.perform]
    split
    · exact ⟨beside, rfl⟩
    · obtain ⟨_, ⟨_, _, same, rfl⟩, rfl⟩ := beside
      exact ⟨⟨_, ⟨_, _, same, rfl⟩, rfl⟩, rfl⟩
  | bind handle event listener => exact beside.change handle _
  | unbind handle event listener => exact beside.change handle _
  | listeners handle event => exact beside.view handle _
  | request handle => exact beside.view handle _
  | farewell handle =>
    simp only [Scene.perform, beside.locate]
    split
    · exact ⟨beside, rfl⟩
    next id channel _ =>
      have agree := beside.after (apart.moveTo id .ended)
      exact ⟨agree.1, by rw [agree.2]⟩
  | move handle phase => exact beside.apply handle fun id => apart.moveTo id phase
  | setToken handle token => exact beside.change handle fun channel => .ok { channel with token }
  | setLifecycle handle lifecycle => exact beside.change handle fun channel => .ok { channel with lifecycle }
  | receive handle event frame => exact beside.apply handle fun id => apart.receive id event frame
  | describe handle => exact beside.view handle _
  | precedes handle other => exact ⟨beside, by simp only [Scene.perform, beside.locate]⟩
  | sort handles => exact ⟨beside, by simp only [Scene.perform, beside.locateAll]⟩
  | deliver name event frame => exact beside.after (apart.deliver name event frame)
  | lose resumable =>
    cases resumable with
    | true => exact beside.after apart.suspendAll
    | false => exact beside.after ⟨apart.endAll, rfl⟩
  | statistics =>
    obtain ⟨_, ⟨_, received, same, rfl⟩, rfl⟩ := beside
    obtain rfl := same rfl
    exact ⟨⟨_, ⟨_, _, same, rfl⟩, rfl⟩, rfl⟩
  | find | contains | attach =>
    obtain ⟨_, ⟨_, _, same, rfl⟩, rfl⟩ := beside
    exact ⟨⟨_, ⟨_, _, same, rfl⟩, rfl⟩, rfl⟩
  | setConnected connected =>
    obtain ⟨_, ⟨_, _, same, rfl⟩, rfl⟩ := beside
    simp only [Scene.perform]
    split <;> exact ⟨⟨_, ⟨_, _, same, rfl⟩, rfl⟩, rfl⟩
  | arrive socket arrival =>
    obtain ⟨_, ⟨_, _, same, rfl⟩, rfl⟩ := beside
    simp only [Scene.perform, Scene.arrive]
    split <;> exact ⟨⟨_, ⟨_, _, same, rfl⟩, rfl⟩, rfl⟩

end Scene.Beside

/-- Listeners that do nothing in their calls but take note of them, and may fail. -/
def Cast.Silent (cast : Cast) : Prop := ∀ entry ∈ cast, entry.2.onEvent = [] ∧ entry.2.onSubscribed = []

def Cast.mannerOf (cast : Cast) (listener : Listener) : Manner :=
  ((cast.find? fun entry => decide (entry.1 = listener)).map (·.2.manner)).getD .plain

def Cast.hears (cast : Cast) (callback : Callback) : Bool :=
  match callback.notice with
  | .event _ _ _ => true
  | .subscribed _ => cast.mannerOf callback.listener ≠ .eventsOnly

private theorem Cast.next_silent {cast : Cast} (silent : cast.Silent) (notice : Notice) (listener : Listener) :
    Cast.next notice listener cast = (cast.mannerOf listener, [], cast) := by
  induction cast with
  | nil => rfl
  | cons entry rest ih =>
    obtain ⟨name, behaviour⟩ := entry
    obtain ⟨⟨events, subscribed⟩, others⟩ := List.forall_mem_cons.mp silent
    by_cases same : name = listener
    · have unchanged : behaviour.next notice = ([], behaviour) := by
        cases notice <;> simp_all [Behaviour.next]
      simp [Cast.next, same, unchanged, mannerOf]
    · simp [Cast.next, same, ih others, mannerOf]

/-- Each listener notes the callbacks that reach it; nothing else happens but that failures are logged. -/
theorem Play.make_silent {play : Play} (silent : play.cast.Silent) (dispatch : Dispatch) (callbacks : List Callback) :
    ∃ records, play.make dispatch (callbacks.map .callback) = { play with
      calls := play.calls ++ callbacks.filter play.cast.hears
      scene := { play.scene with client := { play.scene.client with records } } } := by
  induction callbacks generalizing play with
  | nil => exact ⟨play.scene.client.records, by simp [make]⟩
  | cons callback rest ih =>
    have next := Cast.next_silent silent callback.notice callback.listener
    -- a call leaves an empty script, and its end is at most a record
    have called (hears : play.cast.hears callback = true) (error : Option Text) :
        ∃ records, make dispatch { play with calls := play.calls ++ [callback] }
          (.script [] error :: rest.map .callback) = { play with
            calls := play.calls ++ (callback :: rest).filter play.cast.hears
            scene := { play.scene with client := { play.scene.client with records } } } := by
      rw [make, List.filter_cons, if_pos hears]
      obtain ⟨records, made⟩ := @ih (isolate { play with calls := play.calls ++ [callback] } (error.map .error)) silent
      refine ⟨records, ?_⟩
      rw [made]
      cases error <;> simp [isolate, Failure.logged, Client.log]
    rw [List.map_cons, make]
    simp only [next]
    obtain ⟨listener, notice⟩ := callback
    cases notice with
    | event =>
      simp only [Bool.false_eq_true, and_false, if_false]
      exact called rfl _
    | subscribed channel =>
      by_cases deaf : play.cast.mannerOf listener = .eventsOnly
      · have unheard : play.cast.hears ⟨listener, .subscribed channel⟩ = false := by simp [Cast.hears, deaf]
        obtain ⟨records, made⟩ := @ih (play.isolate (some (.error Play.unheard))) silent
        rw [List.filter_cons, unheard]
        simp only [deaf, and_self, if_true]
        exact ⟨records, by rw [made]; rfl⟩
      · simp only [deaf, false_and, if_false]
        exact called (by simpa [Cast.hears] using deaf) _

theorem Play.makeAll_silent {play : Play} (silent : play.cast.Silent) (dispatch : Dispatch) :
    ∃ records, play.makeAll dispatch = { play with
      calls := play.calls ++ play.scene.client.waiting.filter play.cast.hears
      scene := { play.scene with client := { play.scene.client with waiting := [], records } } } := by
  unfold makeAll takeWaiting
  rw [if_neg (by decide)]
  exact @Play.make_silent { play with scene := { play.scene with client := { play.scene.client with waiting := [] } } }
    silent dispatch _

end Pubsub
