import Pubsub.Proofs.Run

/-! The log, the callbacks that wait to be made and the count of frames are only ever written: clients that
differ in nothing else go on to differ in nothing else. -/

namespace Pubsub.Client

/-- The same but for the log, for callbacks that wait ahead of the rest in the second client, and for the count
of frames, unless that counts as well. -/
def Apart (past : List Callback) (counting : Bool) (a b : Client) : Prop :=
  ∃ records received, (counting = true → received = a.connection.received) ∧
    b = { a with records, waiting := past ++ a.waiting, connection := { a.connection with received } }

def Agree {α : Type} (past : List Callback) (counting : Bool) (x y : Client × α) : Prop :=
  Apart past counting x.1 y.1 ∧ x.2 = y.2

variable {past : List Callback} {counting : Bool}

theorem Agree.split {α : Type} {x y : Client × α} (agree : Agree past counting x y) :
    ∃ a b result, x = (a, result) ∧ y = (b, result) ∧ Apart past counting a b :=
  ⟨x.1, y.1, x.2, rfl, Prod.ext rfl agree.2.symm, agree.1⟩

namespace Apart

variable {a b : Client} (apart : Apart past counting a b)
include apart

theorem url : a.connection.url = b.connection.url := by
  obtain ⟨_, _, -, rfl⟩ := apart
  rfl

theorem channels : b.channels = a.channels := by
  obtain ⟨_, _, -, rfl⟩ := apart
  rfl

theorem reading? (reader : ReaderId) : b.reading? reader = a.reading? reader := by
  obtain ⟨_, _, -, rfl⟩ := apart
  rfl

/-- What is logged need not even be the same. -/
theorem log (source : Source) (level : Level) (first second : Text) (details others : Members) :
    Apart past counting (a.log source level first details) (b.log source level second others) := by
  obtain ⟨_, _, same, rfl⟩ := apart
  exact ⟨_, _, same, rfl⟩

theorem change (id : ChannelId) (update : Channel → Except Error Channel) :
    Apart past counting (a.change id update) (b.change id update) := by
  obtain ⟨_, _, same, rfl⟩ := apart
  unfold Client.change
  dsimp only
  split
  · exact ⟨_, _, same, rfl⟩
  · split <;> exact ⟨_, _, same, rfl⟩

theorem react (id : ChannelId) (reaction : Reaction) :
    Agree past counting (a.react id reaction) (b.react id reaction) := by
  obtain ⟨_, _, same, rfl⟩ := apart
  unfold Client.react submit setChannel
  dsimp only
  rw [List.append_assoc]
  split <;> exact ⟨⟨_, _, same, rfl⟩, rfl⟩

theorem moveTo (id : ChannelId) (phase : Phase) : Agree past counting (a.moveTo id phase) (b.moveTo id phase) := by
  unfold Client.moveTo
  rw [apart.channels]
  split
  · exact ⟨apart, rfl⟩
  · split
    · exact ⟨apart, rfl⟩
    · exact apart.react id _

theorem receive (id : ChannelId) (event : Text) (frame : Frame) :
    Agree past counting (a.receive id event frame) (b.receive id event frame) := by
  unfold Client.receive
  rw [apart.channels]
  split
  · exact ⟨apart, rfl⟩
  · split
    · exact ⟨apart, rfl⟩
    · exact apart.react id _

theorem lookup (name : Text) : b.lookup name = a.lookup name := by
  obtain ⟨_, _, -, rfl⟩ := apart
  rfl

theorem deliver (name event : Text) (frame : Frame) :
    Agree past counting (a.deliver name event frame) (b.deliver name event frame) := by
  unfold Client.deliver
  rw [apart.lookup]
  split
  · exact ⟨apart.log _ _ _ _ _ _, rfl⟩
  · exact apart.receive _ event frame

omit apart in
theorem resetAll (apart : Apart past counting a b) (ids : List ChannelId) :
    Agree past counting (resetAll ids a) (resetAll ids b) := by
  induction ids generalizing a b with
  | nil => exact ⟨apart, rfl⟩
  | cons id rest ih =>
    obtain ⟨_, _, outcome, first, second, moved⟩ := (apart.moveTo id .initial).split
    unfold Client.resetAll
    rw [first, second]
    cases outcome with
    | error => exact ⟨moved, rfl⟩
    | ok => exact ih moved

theorem suspendAll : Agree past counting a.suspendAll b.suspendAll := by
  have registered : b.registered = a.registered := by
    obtain ⟨_, _, -, rfl⟩ := apart
    rfl
  unfold Client.suspendAll
  rw [registered]
  exact apart.resetAll a.registered

theorem endAll : Apart past counting a.endAll b.endAll := by
  have ended (ids : List ChannelId) {a b : Client} (apart : Apart past counting a b) :
      Apart past counting (ids.foldl (fun client id => (client.moveTo id .ended).1) a)
        (ids.foldl (fun client id => (client.moveTo id .ended).1) b) := by
    induction ids generalizing a b with
    | nil => exact apart
    | cons id rest ih => exact ih (apart.moveTo id .ended).1
  have registered : b.registered = a.registered := by
    obtain ⟨_, _, -, rfl⟩ := apart
    rfl
  obtain ⟨_, _, same, equal⟩ := ended a.registered apart
  unfold Client.endAll
  rw [registered, equal]
  exact ⟨_, _, same, rfl⟩

theorem rollBack (id : ChannelId) : Apart past counting (a.rollBack id) (b.rollBack id) := by
  unfold Client.rollBack
  rw [apart.channels]
  split
  · exact (apart.moveTo id .initial).1
  · exact apart

theorem suspend (task : Task) (stage : Stage) : Agree past counting (a.suspend task stage) (b.suspend task stage) := by
  obtain ⟨_, _, same, rfl⟩ := apart
  exact ⟨⟨_, _, same, rfl⟩, rfl⟩

theorem send (task : Task) (content : Outgoing) (stage : Stage) :
    Agree past counting (a.send task content stage) (b.send task content stage) := by
  have target : b.target = a.target := by
    obtain ⟨_, _, -, rfl⟩ := apart
    rfl
  unfold Client.send
  rw [target]
  split
  · exact ⟨apart, rfl⟩
  · obtain ⟨_, _, same, rfl⟩ := apart
    exact ⟨⟨_, _, same, rfl⟩, rfl⟩

theorem requestChannel (task : Task) (id : ChannelId) (stage : Stage) :
    Agree past counting (a.requestChannel task id stage) (b.requestChannel task id stage) := by
  unfold Client.requestChannel
  rw [apart.channels]
  split
  · exact ⟨apart, rfl⟩
  next channel found =>
    rw [apart.lookup]
    split
    · exact ⟨apart.log _ _ _ _ _ _, rfl⟩
    · split
      · exact ⟨apart, rfl⟩
      · obtain ⟨_, _, outcome, first, second, sent⟩ :=
          ((apart.moveTo id .requested).1.send task (.request id channel.request) stage).split
        rw [first, second]
        cases outcome with
        | error => exact ⟨sent.rollBack id, rfl⟩
        | ok => exact ⟨sent, rfl⟩

omit apart in
theorem resubscribe (apart : Apart past counting a b) (task : Task) (reader : Option ReaderId) (ids : List ChannelId) :
    Agree past counting (resubscribe task reader ids a) (resubscribe task reader ids b) := by
  induction ids generalizing a b with
  | nil =>
    obtain ⟨_, _, same, rfl⟩ := apart
    unfold Client.resubscribe
    dsimp only
    split <;> exact ⟨⟨_, _, same, rfl⟩, rfl⟩
  | cons id rest ih =>
    obtain ⟨_, _, attempt, first, second, requested⟩ :=
      (apart.requestChannel task id (.resubscribing id rest reader)).split
    unfold Client.resubscribe
    rw [first, second]
    cases attempt with
    | skipped => exact ih requested
    | suspended => exact ⟨requested, rfl⟩
    | failed => exact ⟨requested, rfl⟩

theorem resubscribeAll (task : Task) (reader : Option ReaderId) :
    Agree past counting (a.resubscribeAll task reader) (b.resubscribeAll task reader) := by
  have listing : b.listing = a.listing := by
    obtain ⟨_, _, -, rfl⟩ := apart
    rfl
  unfold Client.resubscribeAll
  rw [listing]
  exact apart.resubscribe task reader a.listing

theorem canSend : b.canSend = a.canSend := by
  obtain ⟨_, _, -, rfl⟩ := apart
  rfl

theorem subscribe (task : Task) (name : Option Text) (listener : Option Listener) (events : List (Option Text)) :
    Agree past counting (a.subscribe task name listener events) (b.subscribe task name listener events) := by
  have new : b.newChannel name listener events = a.newChannel name listener events := by
    obtain ⟨_, _, -, rfl⟩ := apart
    rfl
  unfold Client.subscribe
  rw [new]
  split
  · exact ⟨apart, rfl⟩
  next channel made =>
    have registered : Apart past counting (a.register channel) (b.register channel) := by
      obtain ⟨_, _, same, rfl⟩ := apart
      exact ⟨_, _, same, rfl⟩
    obtain ⟨_, _, attempt, first, second, requested⟩ :=
      (registered.requestChannel task a.channels.length (.subscribing a.channels.length)).split
    dsimp only
    rw [registered.canSend, apart.channels, first, second]
    split
    · cases attempt <;> exact ⟨requested, rfl⟩
    · exact ⟨registered, rfl⟩

theorem unsubscribe (task : Task) (name : Option Text) :
    Agree past counting (a.unsubscribe task name) (b.unsubscribe task name) := by
  have found : name.bind b.lookup = name.bind a.lookup := by
    obtain ⟨_, _, -, rfl⟩ := apart
    rfl
  simp only [Client.unsubscribe, found]
  split
  · exact ⟨apart, rfl⟩
  next id here =>
    have named : b.nameOf id = a.nameOf id := by
      obtain ⟨_, _, -, rfl⟩ := apart
      rfl
    have removed : Apart past counting { a with registered := a.registered.erase id }
        { b with registered := b.registered.erase id } := by
      obtain ⟨_, _, same, rfl⟩ := apart
      exact ⟨_, _, same, rfl⟩
    rw [named]
    have ended := (removed.moveTo id .ended).1.log .manager .info ("Unsubscribing from channel " ++ a.nameOf id)
      ("Unsubscribing from channel " ++ a.nameOf id) [] []
    obtain ⟨_, _, outcome, first, second, sent⟩ :=
      (ended.send task (.request id (.unsubscribe (a.nameOf id))) .unsubscribing).split
    rw [ended.canSend, first, second]
    split
    · cases outcome <;> exact ⟨sent, rfl⟩
    · exact ⟨ended, rfl⟩

theorem message (task : Task) (text : Text) : Agree past counting (a.message task text) (b.message task text) := by
  have target : { b with transport := .connection }.target = { a with transport := .connection }.target := by
    obtain ⟨_, _, -, rfl⟩ := apart
    rfl
  unfold Client.message
  rw [target]
  split
  · exact ⟨apart, rfl⟩
  · obtain ⟨_, _, same, rfl⟩ := apart
    exact ⟨⟨_, _, same, rfl⟩, rfl⟩

theorem setReading (reader : ReaderId) (reading : Reading) :
    Apart past counting (a.setReading reader reading) (b.setReading reader reading) := by
  obtain ⟨_, _, same, rfl⟩ := apart
  exact ⟨_, _, same, rfl⟩

theorem finish (reader : ReaderId) (outcome : Outcome) :
    Apart past counting (a.finish reader outcome) (b.finish reader outcome) := by
  have lost : Apart past counting a.lost b.lost := by
    obtain ⟨_, _, same, rfl⟩ := apart
    exact ⟨_, _, same, rfl⟩
  have closing : b.lost.connection.closing = a.lost.connection.closing := by
    obtain ⟨_, _, -, rfl⟩ := apart
    rfl
  obtain ⟨_, _, result, first, second, suspended⟩ := lost.suspendAll.split
  simp only [Client.finish, closing, first, second]
  split
  · exact lost.setReading reader _
  · exact suspended.setReading reader _

theorem fail (reader : ReaderId) (error : Error) : Apart past counting (a.fail reader error) (b.fail reader error) := by
  unfold Client.fail
  split
  · exact (apart.log _ _ _ _ _ _).finish reader .ended
  · exact apart.finish reader _

theorem settle (reader : ReaderId) (socket : SocketId) (result : Except Error (Option ChannelId)) :
    Apart past counting (a.settle reader socket result) (b.settle reader socket result) := by
  unfold Client.settle
  split
  · exact apart.setReading reader _
  · split
    · exact (apart.log _ _ _ _ _ _).setReading reader _
    · exact apart.fail reader _

theorem confirm (reader : ReaderId) (socket : SocketId) (members : Members) :
    Agree past counting (a.confirm reader socket members) (b.confirm reader socket members) := by
  have established : Apart past counting (a.established members) (b.established members) := by
    obtain ⟨_, _, same, rfl⟩ := apart
    exact ⟨_, _, same, rfl⟩
  obtain ⟨_, _, progress, first, second, requested⟩ :=
    ((established.setReading reader (.busy socket)).resubscribeAll (.reader reader) (some reader)).split
  unfold Client.confirm
  rw [first, second]
  cases progress with
  | done result => exact ⟨requested.settle reader socket result, rfl⟩
  | suspended call => exact ⟨requested, rfl⟩

theorem establish (reader : ReaderId) (socket : SocketId) (depth : Nat) (data : Payload) :
    Agree past counting (a.establish reader socket depth data) (b.establish reader socket depth data) := by
  unfold Client.establish
  split
  · exact apart.confirm reader socket _
  · exact (apart.log _ _ _ _ _ _).confirm reader socket []
  · exact ⟨apart.fail reader _, rfl⟩

theorem delivered (reader : ReaderId) (channel event : Text) (result : Except Error Unit) :
    Apart past counting (a.delivered reader channel event result) (b.delivered reader channel event result) := by
  unfold Client.delivered
  split
  · exact apart
  · exact apart.log _ _ _ _ _ _
  · split
    · exact apart.log _ _ _ _ _ _
    · exact apart.fail reader _

theorem route (reader : ReaderId) (channel event : Text) (frame : Frame) :
    Apart past counting (a.route reader channel event frame) (b.route reader channel event frame) := by
  obtain ⟨_, _, result, first, second, taken⟩ := (apart.deliver channel event frame).split
  simp only [Client.route, first, second]
  exact taken.delivered reader channel event result

theorem counted : Apart past counting a.counted b.counted := by
  obtain ⟨_, _, same, rfl⟩ := apart
  exact ⟨_, _, fun counts => congrArg (· + 1) (same counts), rfl⟩

theorem handle (reader : ReaderId) (socket : SocketId) (frame : Frame) :
    Agree past counting (a.handle reader socket frame) (b.handle reader socket frame) := by
  simp only [Client.handle]
  split
  · exact ⟨apart.counted.log _ _ _ _ _ _, rfl⟩
  · exact ⟨apart.counted.fail reader _, rfl⟩
  next envelope decoded =>
    split
    · exact apart.counted.establish reader socket _ envelope.data
    · split
      · exact ⟨apart.counted.log _ _ _ _ _ _, rfl⟩
      · split
        · exact ⟨apart.counted.route reader _ _ frame, rfl⟩
        · exact ⟨apart.counted.log _ _ _ _ _ _, rfl⟩

theorem take (reader : ReaderId) (socket : SocketId) (arrival : Arrival) :
    Agree past counting (a.take reader socket arrival) (b.take reader socket arrival) := by
  match arrival with
  | .frame frame => exact apart.handle reader socket frame
  | .ending .finished => exact ⟨apart.finish reader .ended, rfl⟩
  | .ending (.closed code) => exact ⟨(apart.log _ _ _ _ _ _).finish reader .ended, rfl⟩
  | .ending (.broken code reason) => exact ⟨apart.fail reader (.socketClosed code reason), rfl⟩
  | .ending (.failed reason) => exact ⟨apart.fail reader (.system reason), rfl⟩

theorem leave (socket : SocketId) (rest : List Arrival) :
    Apart past counting (a.leave socket rest) (b.leave socket rest) := by
  obtain ⟨_, _, same, rfl⟩ := apart
  exact ⟨_, _, same, rfl⟩

theorem turn (reader : ReaderId) : Agree past counting (a.turn reader) (b.turn reader) := by
  have current : b.connection.socket = a.connection.socket := by
    obtain ⟨_, _, -, rfl⟩ := apart
    rfl
  have sockets : b.sockets = a.sockets := by
    obtain ⟨_, _, -, rfl⟩ := apart
    rfl
  simp only [Client.turn, apart.reading?, current, sockets]
  split
  · split <;> exact ⟨apart.setReading reader _, rfl⟩
  · split
    · exact (apart.leave _ _).take reader _ _
    · exact ⟨apart, rfl⟩
  · exact ⟨apart, rfl⟩

theorem connect (task : Task) : Agree past counting (a.connect task) (b.connect task) := by
  obtain ⟨_, _, same, rfl⟩ := apart
  exact ⟨⟨_, _, same, rfl⟩, rfl⟩

theorem opened : Apart past counting a.opened b.opened := by
  obtain ⟨_, _, same, rfl⟩ := apart
  exact ⟨_, _, same, rfl⟩

/-- The count of frames is told when the connection is given up, but only to the log. -/
theorem tearDown : Agree past counting a.tearDown b.tearDown := ⟨apart.endAll.log _ _ _ _ _ _, rfl⟩

theorem closeSocket (task : Task) : Agree past counting (a.closeSocket task) (b.closeSocket task) := by
  have current : b.connection.socket = a.connection.socket := by
    obtain ⟨_, _, -, rfl⟩ := apart
    rfl
  simp only [Client.closeSocket, current]
  split
  · exact apart.tearDown
  · obtain ⟨_, _, same, rfl⟩ := apart
    exact ⟨⟨_, _, same, rfl⟩, rfl⟩

theorem closed (socket : SocketId) : Agree past counting (a.closed socket) (b.closed socket) := by
  have detached : Apart past counting a.detached b.detached := by
    obtain ⟨_, _, same, rfl⟩ := apart
    exact ⟨_, _, same, rfl⟩
  have sockets : b.detached.sockets = a.detached.sockets := by
    obtain ⟨_, _, -, rfl⟩ := apart
    rfl
  simp only [Client.closed, sockets]
  split
  · exact detached.tearDown
  · exact (detached.log _ _ _ _ _ _).tearDown

theorem cancel (reader : ReaderId) : Apart past counting (a.cancel reader) (b.cancel reader) := by
  obtain ⟨_, _, same, rfl⟩ := apart
  unfold Client.cancel waitsForReader
  dsimp only
  split <;> exact ⟨_, _, same, rfl⟩

theorem bar : Apart past counting a.bar b.bar := by
  obtain ⟨_, _, same, rfl⟩ := apart
  exact ⟨_, _, same, rfl⟩

theorem disconnect (task : Task) : Agree past counting (a.disconnect task) (b.disconnect task) := by
  have given : Apart past counting a.givingUp b.givingUp := by
    obtain ⟨_, _, same, rfl⟩ := apart
    exact ⟨_, _, same, rfl⟩
  have last : b.givingUp.connection.reader = a.givingUp.connection.reader := by
    obtain ⟨_, _, -, rfl⟩ := apart
    rfl
  have done (reader : ReaderId) : b.givingUp.isDone reader = a.givingUp.isDone reader := by
    obtain ⟨_, _, -, rfl⟩ := apart
    rfl
  have barred : b.givingUp.connection.barred = a.givingUp.connection.barred := by
    obtain ⟨_, _, -, rfl⟩ := apart
    rfl
  simp only [Client.disconnect, last, done, barred]
  split
  · exact given.closeSocket task
  next reader found =>
    split
    · exact given.closeSocket task
    · split
      · exact ⟨given.cancel reader, rfl⟩
      · split
        · have waits := given.bar.suspend task (.disconnecting none)
          exact ⟨waits.1, congrArg Progress.suspended waits.2⟩
        · have waits := (given.cancel reader).suspend task (.disconnecting (some reader))
          exact ⟨waits.1, congrArg Progress.suspended waits.2⟩

theorem unwind (reader : ReaderId) : Apart past counting (a.unwind reader) (b.unwind reader) := by
  have abandoned : Apart past counting (a.abandon reader) (b.abandon reader) := by
    obtain ⟨_, _, same, rfl⟩ := apart
    exact ⟨_, _, same, rfl⟩
  simp only [Client.unwind, abandoned.reading? reader]
  split
  · exact abandoned.setReading reader _
  · exact abandoned.finish reader .cancelled

theorem call? (id : CallId) : b.call? id = a.call? id := by
  obtain ⟨_, _, -, rfl⟩ := apart
  rfl

theorem drop (id : CallId) : Apart past counting (a.drop id) (b.drop id) := by
  obtain ⟨_, _, same, rfl⟩ := apart
  exact ⟨_, _, same, rfl⟩

omit apart in
theorem passOn {x y : Client × Progress} (agree : Agree past counting x y) (reader : Option ReaderId) :
    Agree past counting (passOn reader x) (passOn reader y) := by
  obtain ⟨a, b, progress, rfl, rfl, apart⟩ := agree.split
  cases progress with
  | suspended call => exact ⟨apart, rfl⟩
  | done result =>
    cases reader with
    | none => exact ⟨apart, rfl⟩
    | some reader =>
      simp only [Client.passOn, apart.reading? reader]
      split
      · exact ⟨apart.settle reader _ result, rfl⟩
      · exact ⟨apart, rfl⟩

theorem resume (id : CallId) (outcome : Except Error Unit) :
    Agree past counting (a.resume id outcome) (b.resume id outcome) := by
  have dropped := apart.drop id
  have reading : (b.drop id).reading? = (a.drop id).reading? := funext dropped.reading?
  simp only [Client.resume, apart.call?]
  split
  · exact ⟨apart, rfl⟩
  next task stage found =>
    split
    · split
      · exact ⟨dropped, rfl⟩
      · exact ⟨dropped.rollBack _, rfl⟩
    · exact ⟨dropped, rfl⟩
    · exact ⟨dropped, rfl⟩
    next channel rest reader =>
      split
      · exact passOn (dropped.resubscribe task reader rest) reader
      next error =>
        have rolled : Agree past counting ((a.drop id).rollBack channel, Progress.done (.error error))
            ((b.drop id).rollBack channel, Progress.done (.error error)) := ⟨dropped.rollBack channel, rfl⟩
        exact passOn rolled reader
    · split
      · exact ⟨dropped.opened, rfl⟩
      · exact ⟨dropped, congrArg (fun url => Progress.done (.error (.cannotConnect _ url))) dropped.url⟩
    next reader =>
      rw [reading]
      split
      · exact ⟨dropped, rfl⟩
      · exact dropped.closeSocket task
    · exact dropped.closed _

theorem possible (event : Event) : b.possible event = a.possible event := by
  obtain ⟨_, _, -, rfl⟩ := apart
  cases event <;> rfl

theorem perform {event : Event} (making : event ≠ .callback) : Apart past counting (a.perform event) (b.perform event) := by
  cases event with
  | callback => contradiction
  | make name family =>
    simp only [Client.perform]
    split
    · exact apart
    · obtain ⟨_, _, same, rfl⟩ := apart
      exact ⟨_, _, same, rfl⟩
  | bind id event listener => exact apart.change id _
  | unbind id event listener => exact apart.change id _
  | setToken id token => exact apart.change id fun channel => .ok { channel with token }
  | setLifecycle id lifecycle => exact apart.change id fun channel => .ok { channel with lifecycle }
  | move id phase => exact (apart.moveTo id phase).1
  | receive id event frame => exact (apart.receive id event frame).1
  | subscribe task name listener events => exact (apart.subscribe task name listener events).1
  | unsubscribe task name => exact (apart.unsubscribe task name).1
  | resubscribe task => exact (apart.resubscribeAll task none).1
  | deliver name event frame => exact (apart.deliver name event frame).1
  | lose resumable =>
    cases resumable with
    | true => exact apart.suspendAll.1
    | false => exact apart.endAll
  | connect task => exact (apart.connect task).1
  | send task text => exact (apart.message task text).1
  | disconnect task => exact (apart.disconnect task).1
  | resume call outcome => exact (apart.resume call outcome).1
  | turn reader => exact (apart.turn reader).1
  | unwind reader => exact apart.unwind reader
  | failure => exact apart.log _ _ _ _ _ _
  | attach | arrive | jam | shutDown =>
    obtain ⟨_, _, same, rfl⟩ := apart
    exact ⟨_, _, same, rfl⟩

/-- Whatever happens keeps clients so far apart, but for the callback that is made. -/
theorem step {event : Event} (making : event ≠ .callback) : Apart past counting (a.step event) (b.step event) := by
  unfold Client.step
  rw [apart.possible]
  split
  · exact apart.perform making
  · exact apart

end Apart
end Pubsub.Client
