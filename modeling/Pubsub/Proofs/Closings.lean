import Pubsub.Proofs.Link

/-! How often sockets are closed. Only calls that give the connection up close any, and only a call that opens it adds
one. -/

namespace Pubsub.Client

/-- How often each socket has been closed. -/
def closings (client : Client) : List Nat := client.sockets.map (·.closes)

theorem closings_of_sockets {before after : Client} (same : after.sockets = before.sockets) :
    after.closings = before.closings := by rw [closings, same, closings]

theorem Quiet.sockets {before after : Client} (quiet : Quiet before after) : after.sockets = before.sockets := by
  obtain ⟨_, _, _, rfl⟩ := quiet
  rfl

variable (client : Client)

theorem changeSocket_closings (socket : SocketId) {update : Socket → Socket} {count : Nat → Nat}
    (counts : ∀ socket, (update socket).closes = count socket.closes) :
    (client.changeSocket socket update).closings = client.closings.modify socket count := by
  apply List.ext_getElem?
  intro other
  simp only [closings, changeSocket, List.getElem?_map, List.getElem?_modify]
  cases client.sockets[other]? with
  | none => rfl
  | some found => by_cases here : socket = other <;> simp [here, counts]

private theorem changeSocket_closings_of_kept (socket : SocketId) {update : Socket → Socket}
    (kept : ∀ socket, (update socket).closes = socket.closes) :
    (client.changeSocket socket update).closings = client.closings := by
  have same : (client.changeSocket socket update).closings = client.closings.modify socket id :=
    changeSocket_closings client socket kept
  rw [same, List.modify_id]

private theorem asking_sockets (task : Task) (stage : Stage) (id : ChannelId) (channel : Channel)
    (socket : Option SocketId) :
    (client.asking task stage id channel socket).sockets = client.sockets :=
  (Quiet.moveTo client id .requested).sockets

private theorem retract_sockets (id : ChannelId) :
    ((client.moveTo id .requested).1.rollBack id).sockets = client.sockets :=
  ((Quiet.moveTo client id .requested).trans (.rollBack _ id)).sockets

private theorem requestChannel_sockets (task : Task) (id : ChannelId) (stage : Stage) :
    (client.requestChannel task id stage).1.sockets = client.sockets := by
  apply requestChannel_cases (motive := fun result => result.1.sockets = client.sockets)
  · exact fun _ => rfl
  · exact fun _ _ _ => rfl
  · exact fun channel socket _ _ _ _ => asking_sockets client task stage id channel socket
  · exact fun _ _ _ _ _ _ => retract_sockets client id

private theorem resubscribe_sockets (task : Task) (reader : Option ReaderId) (ids : List ChannelId) :
    (resubscribe task reader ids client).1.sockets = client.sockets := by
  induction ids generalizing client with
  | nil =>
    unfold resubscribe
    split <;> rfl
  | cons id rest ih =>
    apply resubscribe_cases (motive := fun result => result.1.sockets = client.sockets)
    · exact fun _ => ih client
    · exact fun _ _ _ => ih _
    · exact fun channel socket _ _ _ _ => asking_sockets client task _ id channel socket
    · exact fun _ _ _ _ _ _ => retract_sockets client id

private theorem subscribe_sockets (task : Task) (name : Option Text) (listener : Option Listener)
    (events : List (Option Text)) :
    (client.subscribe task name listener events).1.sockets = client.sockets := by
  cases made : client.newChannel name listener events with
  | error error => rw [subscribe_of_refused task made]
  | ok channel =>
    rw [subscribe_eq made]
    split
    · exact requestChannel_sockets (client.register channel) task _ _
    · rfl

private theorem removing_sockets (id : ChannelId) : (client.removing id).sockets = client.sockets :=
  (Quiet.moveTo { client with registered := client.registered.erase id } id .ended).sockets

private theorem unsubscribe_sockets (task : Task) (name : Option Text) :
    (client.unsubscribe task name).1.sockets = client.sockets := by
  apply unsubscribe_cases (motive := fun result => result.1.sockets = client.sockets)
  · exact fun _ => rfl
  · exact fun id _ _ => removing_sockets client id
  · exact fun id _ _ _ => removing_sockets client id

private theorem message_sockets (task : Task) (text : Text) :
    (client.message task text).1.sockets = client.sockets := by
  unfold message
  split <;> rfl

theorem endAll_sockets : client.endAll.sockets = client.sockets := (endEach_quiet client client.registered).sockets

private theorem finish_sockets (reader : ReaderId) (outcome : Outcome) :
    (client.finish reader outcome).sockets = client.sockets := by
  unfold finish
  dsimp only
  split
  · rfl
  · exact (resetAll_quiet client.lost client.lost.registered).sockets

private theorem fail_sockets (reader : ReaderId) (error : Error) :
    (client.fail reader error).sockets = client.sockets := by
  unfold fail
  split <;> exact finish_sockets _ reader _

private theorem settle_sockets (reader : ReaderId) (socket : SocketId) (result : Except Error (Option ChannelId)) :
    (client.settle reader socket result).sockets = client.sockets := by
  unfold settle
  split
  · rfl
  · split
    · rfl
    · exact fail_sockets client reader _

private theorem confirm_sockets (reader : ReaderId) (socket : SocketId) (members : Members) :
    (client.confirm reader socket members).1.sockets = client.sockets := by
  have requested := resubscribe_sockets ((client.established members).setReading reader (.busy socket)) (.reader reader)
    (some reader) ((client.established members).setReading reader (.busy socket)).listing
  unfold confirm
  generalize same : Client.resubscribeAll _ (.reader reader) (some reader) = result
  rw [resubscribeAll] at same
  rw [same] at requested
  obtain ⟨after, result | call⟩ := result
  · exact (settle_sockets after reader socket result).trans requested
  · exact requested

private theorem establish_sockets (reader : ReaderId) (socket : SocketId) (depth : Nat) (data : Payload) :
    (client.establish reader socket depth data).1.sockets = client.sockets := by
  unfold establish
  split
  · exact confirm_sockets client reader socket _
  · exact confirm_sockets _ reader socket []
  · exact fail_sockets client reader _

private theorem route_sockets (reader : ReaderId) (channel event : Text) (frame : Frame) :
    (client.route reader channel event frame).sockets = client.sockets := by
  have delivered : (client.deliver channel event frame).1.sockets = client.sockets := (Quiet.deliver client channel event frame).sockets
  unfold route Client.delivered
  dsimp only
  split
  · exact delivered
  · exact delivered
  · split
    · exact delivered
    · exact (fail_sockets _ reader _).trans delivered

private theorem handle_sockets (reader : ReaderId) (socket : SocketId) (frame : Frame) :
    (client.handle reader socket frame).1.sockets = client.sockets := by
  unfold handle
  dsimp only
  split
  · rfl
  · exact fail_sockets client.counted reader _
  · split
    · exact establish_sockets client.counted reader socket _ _
    · split
      · rfl
      · split
        · exact route_sockets client.counted reader _ _ frame
        · rfl

private theorem take_sockets (reader : ReaderId) (socket : SocketId) (arrival : Arrival) :
    (client.take reader socket arrival).1.sockets = client.sockets := by
  cases arrival with
  | frame frame => exact handle_sockets client reader socket frame
  | ending ending =>
    cases ending with
    | finished | closed => exact finish_sockets _ reader _
    | broken | failed => exact fail_sockets client reader _

private theorem turn_closings (reader : ReaderId) : (client.turn reader).1.closings = client.closings := by
  unfold turn
  split
  · split <;> rfl
  next socket _ =>
    split
    next arrival rest _ =>
      exact (closings_of_sockets (take_sockets _ reader socket arrival)).trans
        (changeSocket_closings_of_kept client socket fun _ => rfl)
    · rfl
  · rfl

private theorem unwind_sockets (reader : ReaderId) : (client.unwind reader).sockets = client.sockets := by
  unfold unwind
  dsimp only
  split
  · rfl
  · exact finish_sockets (client.abandon reader) reader .cancelled

private theorem passOn_sockets (reader : Option ReaderId) (result : Client × Progress) :
    (passOn reader result).1.sockets = result.1.sockets := by
  obtain ⟨client, result | call⟩ := result
  · cases reader with
    | none => rfl
    | some reader =>
      simp only [passOn]
      split
      · exact settle_sockets client reader _ result
      · rfl
  · rfl

private theorem resume_sockets {call : CallId} {held : Call} (found : client.call? call = some held)
    (aside : held.stage.deals = false) (outcome : Except Error Unit) :
    (client.resume call outcome).1.sockets = client.sockets := by
  obtain ⟨task, stage⟩ := held
  simp only [resume, found]
  cases stage with
  | subscribing channel =>
    cases outcome with
    | ok => rfl
    | error error => exact (Quiet.rollBack (client.drop call) channel).sockets
  | unsubscribing | messaging => rfl
  | resubscribing channel rest reader =>
    cases outcome with
    | ok => exact (passOn_sockets reader _).trans (resubscribe_sockets (client.drop call) task reader rest)
    | error error => exact (passOn_sockets reader _).trans (Quiet.rollBack (client.drop call) channel).sockets
  | connecting | disconnecting | closing => contradiction

/-- An event that neither gives the connection up nor goes on with a call that deals with it closes no socket and adds
none. -/
theorem step_closings {event : Event} (kept : ∀ task, event ≠ .disconnect task)
    (aside : ∀ call outcome held, event = .resume call outcome → client.call? call = some held →
      held.stage.deals = false) :
    (client.step event).closings = client.closings := by
  refine step_induction (motive := fun after => after.closings = client.closings) rfl ?_
  intro possible
  cases event with
  | make name family =>
    simp only [perform]
    split <;> rfl
  | bind id | unbind id | setToken id | setLifecycle id => exact closings_of_sockets (Quiet.change client id _).sockets
  | move id phase => exact closings_of_sockets (Quiet.moveTo client id phase).sockets
  | receive id event frame => exact closings_of_sockets (Quiet.receive client id event frame).sockets
  | deliver name event frame => exact closings_of_sockets (Quiet.deliver client name event frame).sockets
  | subscribe task name listener events =>
    exact closings_of_sockets (subscribe_sockets client task name listener events)
  | unsubscribe task name => exact closings_of_sockets (unsubscribe_sockets client task name)
  | resubscribe task => exact closings_of_sockets (resubscribe_sockets client task none client.listing)
  | lose resumable =>
    cases resumable with
    | true => exact closings_of_sockets (resetAll_quiet client client.registered).sockets
    | false => exact closings_of_sockets (endAll_sockets client)
  | send task text => exact closings_of_sockets (message_sockets client task text)
  | disconnect task => exact absurd rfl (kept task)
  | resume call outcome =>
    obtain ⟨held, found⟩ := Option.isSome_iff_exists.mp (present_of_possible possible)
    exact closings_of_sockets (resume_sockets client found (aside call outcome held rfl found) outcome)
  | arrive socket | jam socket => exact changeSocket_closings_of_kept client socket fun _ => rfl
  | turn reader => exact turn_closings client reader
  | unwind reader => exact closings_of_sockets (unwind_sockets client reader)
  | attach | connect | callback | failure | shutDown => rfl

end Pubsub.Client
