import Pubsub.Proofs.Course

/-! What operations do to the connection. Those on channels leave it alone; a reader that takes something leaves it
alone as well, or confirms it, or ends and has it lost. -/

namespace Pubsub

def Stage.deals : Stage → Bool
  | .connecting | .disconnecting _ | .closing _ => true
  | _ => false

def Stage.givesUp : Stage → Bool
  | .disconnecting _ | .closing _ => true
  | _ => false

/-- What a client is to its connection. -/
structure Link where
  socket : Option SocketId
  established : Bool
  closing : Bool
  reader : Option ReaderId
  barred : Bool
  readers : List Reader
  sockets : Nat
  dealings : List (CallId × Call)

namespace Client

def link (client : Client) : Link where
  socket := client.connection.socket
  established := client.connection.established
  closing := client.connection.closing
  reader := client.connection.reader
  barred := client.connection.barred
  readers := client.readers
  sockets := client.sockets.length
  dealings := client.calls.filter (·.2.stage.deals)

end Client

def Frame.confirms (frame : Frame) : Bool :=
  match Envelope.ofArrival frame with
  | .ok envelope => envelope.event = some Envelope.establishedEvent
  | .error _ => false

namespace Link

def set (link : Link) (reader : ReaderId) (reading : Reading) : Link :=
  { link with readers := link.readers.modify reader fun reader => { reader with reading } }

private theorem set_set (link : Link) (reader : ReaderId) (first second : Reading) :
    (link.set reader first).set reader second = link.set reader second := by
  simp [set, List.modify_modify_eq, Function.comp_def]

end Link

namespace Client

theorem Quiet.link {before after : Client} (quiet : Quiet before after) : after.link = before.link := by
  obtain ⟨_, _, _, rfl⟩ := quiet
  rfl

variable (client : Client)

private theorem suspend_link (task : Task) {stage : Stage} (aside : stage.deals = false) :
    (client.suspend task stage).1.link = client.link := by
  simp [Client.link, suspend, List.filter_append, aside]

theorem suspend_link_of_deals (task : Task) {stage : Stage} (deals : stage.deals = true) :
    (client.suspend task stage).1.link =
      { client.link with dealings := client.link.dealings ++ [(client.nextCall, ⟨task, stage⟩)] } := by
  simp [Client.link, suspend, List.filter_append, deals]

theorem drop_link (call : CallId) :
    (client.drop call).link = { client.link with dealings := client.link.dealings.filter (·.1 != call) } := by
  simp only [Client.link, drop, List.filter_filter, Bool.and_comm]

private theorem deals_of_channel {stage : Stage} {id : ChannelId} (about : stage.channel? = some id) :
    stage.deals = false := by
  cases stage <;> first | rfl | contradiction

private theorem asking_link (task : Task) {stage : Stage} (id : ChannelId) (channel : Channel)
    (socket : Option SocketId)
    (about : stage.channel? = some id) : (client.asking task stage id channel socket).link = client.link := by
  unfold asking
  exact (suspend_link _ task (deals_of_channel about)).trans (Quiet.moveTo client id .requested).link

theorem resubscribe_link (task : Task) (reader : Option ReaderId) (ids : List ChannelId) :
    (resubscribe task reader ids client).1.link = client.link := by
  induction ids generalizing client with
  | nil =>
    unfold resubscribe
    split <;> rfl
  | cons id rest ih =>
    apply resubscribe_cases (motive := fun result => result.1.link = client.link)
    · exact fun _ => ih client
    · exact fun _ _ _ => ih _
    · exact fun channel socket _ _ _ _ => asking_link client task id channel socket rfl
    · exact fun _ _ _ _ _ _ => ((Quiet.moveTo client id .requested).trans (.rollBack _ id)).link

private theorem requestChannel_link (task : Task) (id : ChannelId) {stage : Stage} (about : stage.channel? = some id) :
    (client.requestChannel task id stage).1.link = client.link := by
  apply requestChannel_cases (motive := fun result => result.1.link = client.link)
  · exact fun _ => rfl
  · exact fun _ _ _ => rfl
  · exact fun channel socket _ _ _ _ => asking_link client task id channel socket about
  · exact fun _ _ _ _ _ _ => ((Quiet.moveTo client id .requested).trans (.rollBack _ id)).link

private theorem subscribe_link (task : Task) (name : Option Text) (listener : Option Listener)
    (events : List (Option Text)) :
    (client.subscribe task name listener events).1.link = client.link := by
  cases made : client.newChannel name listener events with
  | error error => rw [subscribe_of_refused task made]
  | ok channel =>
    rw [subscribe_eq made]
    split
    · exact requestChannel_link (client.register channel) task _ rfl
    · rfl

private theorem removing_link (id : ChannelId) : (client.removing id).link = client.link :=
  (Quiet.moveTo { client with registered := client.registered.erase id } id .ended).link

private theorem unsubscribe_link (task : Task) (name : Option Text) :
    (client.unsubscribe task name).1.link = client.link := by
  apply unsubscribe_cases (motive := fun result => result.1.link = client.link)
  · exact fun _ => rfl
  · exact fun id _ _ => removing_link client id
  · exact fun id _ _ _ => (suspend_link _ task rfl).trans (removing_link client id)

private theorem message_link (task : Task) (text : Text) : (client.message task text).1.link = client.link := by
  unfold message
  split
  · rfl
  · exact suspend_link _ task rfl

theorem resetAll_quiet (ids : List ChannelId) : Quiet client (resetAll ids client).1 := by
  induction ids generalizing client with
  | nil => exact .refl client
  | cons id rest ih =>
    have first := Quiet.moveTo client id .initial
    unfold resetAll
    generalize client.moveTo id .initial = moved at first
    obtain ⟨next, _ | _⟩ := moved
    · exact first
    · exact first.trans (ih next)

theorem endEach_quiet (ids : List ChannelId) :
    Quiet client (ids.foldl (fun client id => (client.moveTo id .ended).1) client) := by
  induction ids generalizing client with
  | nil => exact .refl client
  | cons id rest ih => exact (Quiet.moveTo client id .ended).trans (ih _)

private theorem endAll_link : client.endAll.link = client.link := (endEach_quiet client client.registered).link

end Client

def Event.offline : Event → Bool
  | .connect _ | .disconnect _ | .resume _ _ | .turn _ | .unwind _ => false
  | _ => true

namespace Client

theorem step_link_of_offline (client : Client) {event : Event} (offline : event.offline = true) :
    (client.step event).link = client.link := by
  refine step_induction (motive := fun after => after.link = client.link) rfl ?_
  intro _
  cases event with
  | make name family =>
    simp only [perform]
    split <;> rfl
  | bind id event listener => exact (Quiet.change client id _).link
  | unbind id event listener => exact (Quiet.change client id _).link
  | setToken id token => exact (Quiet.change client id fun channel => .ok { channel with token }).link
  | setLifecycle id lifecycle => exact (Quiet.change client id fun channel => .ok { channel with lifecycle }).link
  | move id phase => exact (Quiet.moveTo client id phase).link
  | receive id event frame => exact (Quiet.receive client id event frame).link
  | deliver name event frame => exact (Quiet.deliver client name event frame).link
  | subscribe task name listener events => exact subscribe_link client task name listener events
  | unsubscribe task name => exact unsubscribe_link client task name
  | resubscribe task => exact resubscribe_link client task none client.listing
  | lose resumable =>
    cases resumable with
    | true => exact (resetAll_quiet client client.registered).link
    | false => exact endAll_link client
  | send task text => exact message_link client task text
  | arrive | jam => simp [perform, changeSocket, link]
  | attach | callback | failure | shutDown => rfl
  | _ => contradiction

variable (client : Client)

theorem connect_link (task : Task) : (client.connect task).1.link =
    { client.link with closing := false, dealings := client.link.dealings ++ [(client.nextCall, ⟨task, .connecting⟩)] } :=
  suspend_link_of_deals _ task rfl

theorem opened_link : client.opened.link =
    { client.link with
      socket := some client.link.sockets, reader := some client.link.readers.length, barred := false
      sockets := client.link.sockets + 1, readers := client.link.readers ++ [{}] } := by
  simp [link, opened]

theorem finish_link (reader : ReaderId) (outcome : Outcome) : ∃ final,
    (client.finish reader outcome).link = { client.link with established := false }.set reader (.finished final) ∧
      (client.link.closing = true → final = outcome) := by
  have quiet := resetAll_quiet client.lost client.lost.registered
  unfold finish
  dsimp only
  split
  · exact ⟨outcome, rfl, fun _ => rfl⟩
  next kept =>
    refine ⟨outcome.unless client.lost.suspendAll.2, ?_, fun closing => absurd closing kept⟩
    obtain ⟨_, _, _, same⟩ := quiet
    simp only [suspendAll, same]
    rfl

end Client

namespace Link

def Ends (link : Link) (reader : ReaderId) (after : Link) : Prop :=
  ∃ outcome, after = { link with established := false }.set reader (.finished outcome)

def Confirms (link : Link) (reader : ReaderId) (socket : SocketId) (after : Link) : Prop :=
  ∃ reading, (reading = .idle socket ∨ reading = .busy socket) ∧ after = { link with established := true }.set reader reading

def Closes (link : Link) (task : Task) : Prop := ∃ call socket, (call, ⟨task, .closing socket⟩) ∈ link.dealings

private theorem Ends.of_set {link after : Link} {reader : ReaderId} {established : Bool} {reading : Reading}
    (ends : ({ link with established }.set reader reading).Ends reader after) : link.Ends reader after := by
  obtain ⟨outcome, rfl⟩ := ends
  exact ⟨outcome, set_set { link with established := false } reader reading (.finished outcome)⟩

end Link

namespace Client
variable (client : Client)

private theorem finish_ends (reader : ReaderId) (outcome : Outcome) :
    client.link.Ends reader (client.finish reader outcome).link := by
  obtain ⟨final, same, _⟩ := finish_link client reader outcome
  exact ⟨final, same⟩

private theorem fail_ends (reader : ReaderId) (error : Error) :
    client.link.Ends reader (client.fail reader error).link := by
  unfold fail
  split
  · exact finish_ends (client.log .connection .warning _) reader .ended
  · exact finish_ends client reader _

private theorem settle_link (reader : ReaderId) (socket : SocketId) (result : Except Error (Option ChannelId)) :
    (client.settle reader socket result).link = client.link.set reader (.idle socket) ∨
      client.link.Ends reader (client.settle reader socket result).link := by
  unfold settle
  split
  · exact .inl rfl
  · split
    · exact .inl rfl
    · exact .inr (fail_ends client reader _)

private theorem confirm_link (reader : ReaderId) (socket : SocketId) (members : Members) :
    client.link.Confirms reader socket (client.confirm reader socket members).1.link ∨
      client.link.Ends reader (client.confirm reader socket members).1.link := by
  let busy := (client.established members).setReading reader (.busy socket)
  have up : busy.link = { client.link with established := true }.set reader (.busy socket) := rfl
  have requested : (busy.resubscribeAll (.reader reader) (some reader)).1.link = busy.link := resubscribe_link busy _ _ _
  unfold confirm
  generalize same : Client.resubscribeAll _ (.reader reader) (some reader) = result
  change busy.resubscribeAll (.reader reader) (some reader) = result at same
  rw [same] at requested
  obtain ⟨after, result | call⟩ := result
  · rcases settle_link after reader socket result with idle | ends
    · have settled := idle.trans (congrArg (·.set reader (.idle socket)) (requested.trans up))
      rw [Link.set_set] at settled
      exact .inl ⟨.idle socket, .inl rfl, settled⟩
    · rw [show after.link = _ from requested.trans up] at ends
      exact .inr ends.of_set
  · exact .inl ⟨.busy socket, .inr rfl, requested.trans up⟩

private theorem establish_link (reader : ReaderId) (socket : SocketId) (depth : Nat) (data : Payload) :
    client.link.Confirms reader socket (client.establish reader socket depth data).1.link ∨
      client.link.Ends reader (client.establish reader socket depth data).1.link := by
  unfold establish
  split
  · exact confirm_link client reader socket _
  · exact confirm_link _ reader socket []
  · exact .inr (fail_ends client reader _)

private theorem route_link (reader : ReaderId) (channel event : Text) (frame : Frame) :
    (client.route reader channel event frame).link = client.link ∨
      client.link.Ends reader (client.route reader channel event frame).link := by
  have delivered : (client.deliver channel event frame).1.link = client.link := (Quiet.deliver client channel event frame).link
  unfold route Client.delivered
  dsimp only
  split
  · exact .inl delivered
  · exact .inl delivered
  · split
    · exact .inl delivered
    · exact .inr (delivered ▸ fail_ends _ reader _)

theorem handle_link_of_confirms {frame : Frame} (confirms : frame.confirms = true) (reader : ReaderId)
    (socket : SocketId) : client.link.Confirms reader socket (client.handle reader socket frame).1.link ∨
      client.link.Ends reader (client.handle reader socket frame).1.link := by
  unfold Frame.confirms at confirms
  cases decoded : Envelope.ofArrival frame with
  | error error =>
    rw [decoded] at confirms
    contradiction
  | ok envelope =>
    simp only [decoded, decide_eq_true_eq] at confirms
    simp only [handle, decoded, if_pos confirms]
    exact establish_link client.counted reader socket _ envelope.data

theorem handle_link_of_other {frame : Frame} (other : frame.confirms = false) (reader : ReaderId) (socket : SocketId) :
    (client.handle reader socket frame).1.link = client.link ∨
      client.link.Ends reader (client.handle reader socket frame).1.link := by
  unfold Frame.confirms at other
  unfold handle
  dsimp only
  split
  · exact .inl rfl
  · exact .inr (fail_ends client.counted reader _)
  next envelope decoded =>
    simp only [decoded, decide_eq_false_iff_not] at other
    rw [if_neg other]
    split
    · exact .inl rfl
    · split
      · exact route_link client.counted reader _ _ frame
      · exact .inl rfl

theorem take_ends (reader : ReaderId) (socket : SocketId) (ending : Ending) :
    client.link.Ends reader (client.take reader socket (.ending ending)).1.link := by
  cases ending with
  | finished => exact finish_ends client reader _
  | closed code => exact finish_ends (client.log .connection .info _) reader _
  | broken code reason => exact fail_ends client reader _
  | failed reason => exact fail_ends client reader _

theorem leave_link (socket : SocketId) (rest : List Arrival) : (client.leave socket rest).link = client.link := by
  simp [link, leave]

theorem turn_of_done {reader : ReaderId} (done : client.isDone reader = true) : (client.turn reader).1 = client := by
  unfold isDone at done
  cases found : client.readers[reader]? with
  | none => simp [turn, reading?, found]
  | some state =>
    rw [found, Option.all_some, Reader.done] at done
    cases reading : state.reading <;> simp [reading] at done
    simp [turn, reading?, found, reading]

private theorem closes_of_isClosing {task : Task} (closing : client.isClosing task = true) :
    client.link.Closes task := by
  obtain ⟨⟨call, other, stage⟩, member, closing⟩ := List.any_eq_true.mp closing
  cases stage with
  | closing socket =>
    obtain rfl : other = task := of_decide_eq_true closing
    exact ⟨call, socket, List.mem_filter.mpr ⟨member, rfl⟩⟩
  | _ => contradiction

theorem abandon_link (reader : ReaderId) : ∃ socket, (client.abandon reader).link = { client.link with
    socket
    readers := client.link.readers.modify reader fun reader => { reader with cancelling := false }
    dealings := client.link.dealings.filter (·.2.task ≠ Task.reader reader) } ∧
    (socket = client.link.socket ∨ socket = none ∧ client.link.Closes (.reader reader)) := by
  refine ⟨if client.isClosing (.reader reader) then none else client.connection.socket, ?_, ?_⟩
  · simp only [link, abandon, List.filter_filter, Bool.and_comm]
  · split
    next closing => exact .inr ⟨rfl, closes_of_isClosing client closing⟩
    · exact .inl rfl

theorem tearDown_link : client.tearDown.1.link = client.link := endAll_link client

theorem closed_link (socket : SocketId) : (client.closed socket).1.link = { client.link with socket := none } := by
  unfold Client.closed
  dsimp only
  split <;> exact tearDown_link _

theorem passOn_link (reader : Option ReaderId) (result : Client × Progress) :
    (passOn reader result).1.link = result.1.link ∨
      ∃ waiting socket, reader = some waiting ∧ result.1.reading? waiting = some (.busy socket) ∧
        ((passOn reader result).1.link = result.1.link.set waiting (.idle socket) ∨
          result.1.link.Ends waiting (passOn reader result).1.link) := by
  obtain ⟨client, result | call⟩ := result
  · cases reader with
    | none => exact .inl rfl
    | some waiting =>
      simp only [passOn]
      split
      next socket busy => exact .inr ⟨waiting, socket, rfl, busy, settle_link client waiting socket result⟩
      · exact .inl rfl
  · exact .inl rfl

end Client
end Pubsub
