import Mathlib.Logic.Relation
import Pubsub.Proofs.Quiet

/-! Operations of a client are made of a few edits. What each edit keeps is kept by every operation, so a property
of what operations do is shown edit by edit. -/

namespace Pubsub

def Stage.channel? : Stage → Option ChannelId
  | .subscribing id | .resubscribing id _ _ => some id
  | _ => none

namespace Client

def asking (client : Client) (task : Task) (stage : Stage) (id : ChannelId) (channel : Channel)
    (socket : Option SocketId) : Client :=
  let moved := (client.moveTo id .requested).1
  let handed : Client := { moved with sent := moved.sent ++ [⟨socket, .request id channel.request⟩] }
  (handed.suspend task stage).1

def dismissing (client : Client) (task : Task) (id : ChannelId) (name : Text) (socket : Option SocketId) : Client :=
  let handed : Client := { client with sent := client.sent ++ [⟨socket, .request id (.unsubscribe name)⟩] }
  (handed.suspend task .unsubscribing).1

/-- A channel that is not registered any more, or has ended, is passed over; another is requested if a frame can be
sent, and else left as a failed request leaves it. -/
theorem requestChannel_cases {motive : Client × Attempt → Prop} (client : Client) (task : Task) (id : ChannelId)
    (stage : Stage)
    (ended : (∀ channel, client.channels[id]? = some channel → channel.phase = .ended) → motive (client, .skipped))
    (removed : ∀ channel, client.channels[id]? = some channel → client.lookup channel.name ≠ some id →
      motive (client.log .manager .debug ("Skipping subscribe for removed channel " ++ channel.name), .skipped))
    (suspended : ∀ channel socket, client.channels[id]? = some channel → client.lookup channel.name = some id →
      channel.phase ≠ .ended → client.target = .ok socket →
      motive (client.asking task stage id channel socket, .suspended client.nextCall))
    (failed : ∀ channel error, client.channels[id]? = some channel → client.lookup channel.name = some id →
      channel.phase ≠ .ended → client.target = .error error →
      motive ((client.moveTo id .requested).1.rollBack id, .failed error)) :
    motive (client.requestChannel task id stage) := by
  unfold requestChannel
  split
  next missing => exact ended fun _ found => by simp [missing] at found
  next channel found =>
    split
    next unregistered => exact removed channel found unregistered
    next registered =>
      have registered := Classical.not_not.mp registered
      split
      next last => exact ended fun _ same => Option.some.inj (same.symm.trans found) ▸ last
      next live =>
        have quiet := Quiet.moveTo client id .requested
        have target := quiet.target
        cases sendable : client.target with
        | error error =>
          rw [sendable] at target
          simp only [Client.send, target]
          exact failed channel error found registered live sendable
        | ok socket =>
          rw [sendable] at target
          have number : (client.moveTo id .requested).1.nextCall = client.nextCall := by
            obtain ⟨_, _, _, same⟩ := quiet
            rw [same]
          have asked := suspended channel socket found registered live sendable
          simp only [Client.send, target]
          rw [← number] at asked
          exact asked

private def afterAttempt (skip : Client → Client × Progress) : Client × Attempt → Client × Progress
  | (client, .skipped) => skip client
  | (client, .suspended call) => (client, .suspended call)
  | (client, .failed error) => (client, .done (.error error))

private theorem resubscribe_cons (client : Client) (task : Task) (reader : Option ReaderId) (id : ChannelId)
    (rest : List ChannelId) :
    resubscribe task reader (id :: rest) client =
      afterAttempt (resubscribe task reader rest) (client.requestChannel task id (.resubscribing id rest reader)) := rfl

theorem resubscribe_cases {motive : Client × Progress → Prop} (client : Client) (task : Task)
    (reader : Option ReaderId) (id : ChannelId) (rest : List ChannelId)
    (ended : (∀ channel, client.channels[id]? = some channel → channel.phase = .ended) →
      motive (resubscribe task reader rest client))
    (removed : ∀ channel, client.channels[id]? = some channel → client.lookup channel.name ≠ some id →
      motive (resubscribe task reader rest
        (client.log .manager .debug ("Skipping subscribe for removed channel " ++ channel.name))))
    (suspended : ∀ channel socket, client.channels[id]? = some channel → client.lookup channel.name = some id →
      channel.phase ≠ .ended → client.target = .ok socket →
      motive (client.asking task (.resubscribing id rest reader) id channel socket, .suspended client.nextCall))
    (failed : ∀ channel error, client.channels[id]? = some channel → client.lookup channel.name = some id →
      channel.phase ≠ .ended → client.target = .error error →
      motive ((client.moveTo id .requested).1.rollBack id, .done (.error error))) :
    motive (resubscribe task reader (id :: rest) client) := by
  rw [resubscribe_cons]
  exact requestChannel_cases (motive := fun result => motive (afterAttempt (resubscribe task reader rest) result)) client task id
    _ ended removed suspended failed

/-- The client that a subscription leaves, when its channel was not refused. -/
theorem subscribe_eq {client : Client} {name : Option Text} {listener : Option Listener} {events : List (Option Text)}
    {channel : Channel} (made : client.newChannel name listener events = .ok channel) (task : Task) :
    (client.subscribe task name listener events).1 =
      if (client.register channel).canSend then
        ((client.register channel).requestChannel task client.channels.length (.subscribing client.channels.length)).1
      else client.register channel := by
  simp only [subscribe, made]
  split
  · generalize (client.register channel).requestChannel task _ _ = result
    obtain ⟨after, _ | _ | _⟩ := result <;> rfl
  · rfl

theorem target_of_canSend {client : Client} (sendable : client.canSend = true) : ∃ socket, client.target = .ok socket := by
  cases attached : client.transport with
  | absent => simp [canSend, attached] at sendable
  | direct => exact ⟨none, by simp only [target, attached]⟩
  | connection =>
    have connected : client.isConnected = true := by simpa only [canSend, attached] using sendable
    exact ⟨client.connection.socket, by simp only [target, attached, if_pos connected]⟩

def removing (client : Client) (id : ChannelId) : Client :=
  ({ client with registered := client.registered.erase id }.moveTo id .ended).1.log .manager .info
    ("Unsubscribing from channel " ++ client.nameOf id)

def Over (client : Client) (id : ChannelId) : Prop :=
  ∀ channel, client.channels[id]? = some channel → channel.phase = .ended

/-- To end a channel is never refused, since it submits nothing. -/
theorem moveTo_end (client : Client) (id : ChannelId) :
    ∃ channels records, (client.moveTo id .ended).1 = { client with channels, records } ∧
      ∀ other, channels[other]? = client.channels[other]?.map fun channel =>
        if id = other then { channel with phase := .ended } else channel := by
  unfold moveTo
  split
  next missing =>
    refine ⟨client.channels, client.records, rfl, fun other => ?_⟩
    by_cases here : id = other
    · rw [← here, missing, Option.map_none]
    · simp only [if_neg here, Option.map_id']
  next channel found =>
    obtain ⟨inside, _⟩ := List.getElem?_eq_some_iff.mp found
    simp only [Channel.moveTo, ne_eq, not_true_eq_false, and_false, if_false, reduceCtorEq, react, submit, setChannel,
      List.isEmpty_nil, true_or, if_true, List.append_nil]
    refine ⟨_, _, rfl, fun other => ?_⟩
    by_cases here : id = other
    · rw [← here, List.getElem?_set_self inside, found, Option.map_some, if_pos rfl]
    · simp only [List.getElem?_set_ne here, if_neg here, Option.map_id']

private theorem moveTo_over (client : Client) (id : ChannelId) : (client.moveTo id .ended).1.Over id := by
  obtain ⟨channels, records, same, ended⟩ := moveTo_end client id
  intro last found
  rw [same, ended] at found
  obtain ⟨channel, _, rfl⟩ := Option.map_eq_some_iff.mp found
  rw [if_pos rfl]

theorem Over.moveTo {client : Client} {id : ChannelId} (isOver : client.Over id) (other : ChannelId) :
    (client.moveTo other .ended).1.Over id := by
  by_cases here : other = id
  · exact here ▸ moveTo_over client other
  · obtain ⟨channels, records, same, ended⟩ := moveTo_end client other
    intro channel found
    simp only [same, ended, if_neg here, Option.map_id'] at found
    exact isOver channel found

/-- Whether a channel is removed first or ended first makes no difference. -/
theorem removing_eq (client : Client) (id : ChannelId) :
    client.removing id = ({ (client.moveTo id .ended).1 with registered := client.registered.erase id } : Client).log
      .manager .info ("Unsubscribing from channel " ++ client.nameOf id) := by
  unfold removing moveTo
  dsimp only
  cases found : client.channels[id]? with
  | none => rfl
  | some channel =>
    simp only [Channel.moveTo, ne_eq, not_true_eq_false, and_false, if_false, reduceCtorEq, react, submit, setChannel,
      List.isEmpty_nil, true_or, if_true]

private theorem removing_nextCall (client : Client) (id : ChannelId) :
    (client.removing id).nextCall = client.nextCall := by
  obtain ⟨_, _, _, same⟩ := Quiet.moveTo { client with registered := client.registered.erase id } id .ended
  simp only [removing, same]
  rfl

/-- What is left of an unsubscription when its channel is removed: the server is told, if frames can be sent. -/
def farewell (client : Client) (task : Task) (id : ChannelId) (name : Text) : Client × Progress :=
  if client.canSend then
    match client.send task (.request id (.unsubscribe name)) .unsubscribing with
    | (client, .ok call) => (client, .suspended call)
    | (client, .error error) => (client, .done (.error error))
  else (client, .done (.ok none))

theorem unsubscribe_cases {motive : Client × Progress → Prop} (client : Client) (task : Task) (name : Option Text)
    (unknown : name.bind client.lookup = none → motive (client, .done (.error (.unknownChannel (name.getD "None")))))
    (unsent : ∀ id, name.bind client.lookup = some id → (client.removing id).canSend = false →
      motive (client.removing id, .done (.ok none)))
    (suspended : ∀ id socket, name.bind client.lookup = some id → (client.removing id).target = .ok socket →
      motive ((client.removing id).dismissing task id (client.nameOf id) socket, .suspended client.nextCall)) :
    motive (client.unsubscribe task name) := by
  unfold unsubscribe
  split
  next missing => exact unknown missing
  next id found =>
    change motive ((client.removing id).farewell task id (client.nameOf id))
    unfold farewell
    split
    next sendable =>
      obtain ⟨socket, target⟩ := target_of_canSend sendable
      have asked := suspended id socket found target
      rw [← removing_nextCall client id] at asked
      simp only [Client.send, target]
      exact asked
    next unsendable => exact unsent id found (Bool.eq_false_iff.mpr unsendable)

/-- An edit that operations are made of. It sets or stops none but some of the readers, and hands over no request. -/
inductive Edit (readers : ReaderId → Prop) (client : Client) : Client → Prop where
  | log (source : Source) (level : Level) (message : Text) (details : Members) :
      Edit readers client (client.log source level message details)
  /-- A request that may not be sent is taken back at once. -/
  | retract {id : ChannelId} {channel : Channel} (found : client.channels[id]? = some channel)
      (registered : client.lookup channel.name = some id) (live : channel.phase ≠ .ended) :
      Edit readers client ((client.moveTo id .requested).1.rollBack id)
  | reset (id : ChannelId) : Edit readers client (client.moveTo id .initial).1
  | finish (id : ChannelId) : Edit readers client (client.moveTo id .ended).1
  /-- Only a channel that has ended stops being registered. -/
  | unregister {id : ChannelId} (isOver : client.Over id) :
      Edit readers client { client with registered := client.registered.erase id }
  | clear (isOver : ∀ id ∈ client.registered, client.Over id) : Edit readers client { client with registered := [] }
  | speak (socket : Option SocketId) (text : Text) :
      Edit readers client { client with sent := client.sent ++ [⟨socket, .message text⟩] }
  | suspend (task : Task) {stage : Stage} (aside : stage.channel? = none) :
      Edit readers client (client.suspend task stage).1
  | read {reader : ReaderId} (own : readers reader) (reading : Reading) :
      Edit readers client (client.setReading reader reading)
  | stop {reader : ReaderId} (own : readers reader) : Edit readers client (client.cancel reader)
  | lost : Edit readers client client.lost
  | established (members : Members) : Edit readers client (client.established members)
  | opening : Edit readers client { client with connection := { client.connection with closing := false } }
  | opened : Edit readers client client.opened
  | givingUp : Edit readers client client.givingUp
  | bar : Edit readers client client.bar
  | close (socket : SocketId) : Edit readers client { client with
      sockets := client.sockets.modify socket fun socket => { socket with closes := socket.closes + 1 } }
  | detached : Edit readers client client.detached

def Edits (readers : ReaderId → Prop) : Client → Client → Prop := Relation.ReflTransGen (Edit readers)

namespace Edits
variable {readers : ReaderId → Prop}

theorem refl (client : Client) : Edits readers client client := Relation.ReflTransGen.refl

theorem trans {first middle last : Client} (a : Edits readers first middle) (b : Edits readers middle last) :
    Edits readers first last := Relation.ReflTransGen.trans a b

theorem of {before after : Client} (edit : Edit readers before after) : Edits readers before after :=
  Relation.ReflTransGen.single edit

/-- What is kept by each edit is kept by all of them. -/
theorem keep {motive : Client → Prop} {before after : Client} (edits : Edits readers before after)
    (start : motive before) (kept : ∀ middle next, Edit readers middle next → motive middle → motive next) :
    motive after := by
  induction edits with
  | refl => exact start
  | tail _ edit ih => exact kept _ _ edit ih

variable (client : Client)

theorem log (source : Source) (level : Level) (message : Text) (details : Members) :
    Edits readers client (client.log source level message details) := of (.log source level message details)

theorem resetAll (ids : List ChannelId) : Edits readers client (resetAll ids client).1 := by
  induction ids generalizing client with
  | nil => exact .refl client
  | cons id rest ih =>
    have first : Edits readers client (client.moveTo id .initial).1 := of (.reset id)
    unfold Client.resetAll
    generalize client.moveTo id .initial = moved at first
    obtain ⟨next, _ | _⟩ := moved
    · exact first
    · exact first.trans (ih next)

theorem suspendAll : Edits readers client client.suspendAll.1 := resetAll client client.registered

/-- Channels that are ended one after another are over in the end. -/
theorem finishAll (ids : List ChannelId) :
    let after := ids.foldl (fun client id => (client.moveTo id .ended).1) client
    Edits readers client after ∧ after.registered = client.registered ∧
      ∀ id, client.Over id ∨ id ∈ ids → after.Over id := by
  induction ids generalizing client with
  | nil => exact ⟨.refl client, rfl, fun id isOver => isOver.resolve_right List.not_mem_nil⟩
  | cons first rest ih =>
    have ended : Edits readers client (client.moveTo first .ended).1 := of (.finish first)
    obtain ⟨later, registered, isOver⟩ := ih (client.moveTo first .ended).1
    obtain ⟨_, _, same, _⟩ := moveTo_end client first
    refine ⟨ended.trans later, registered.trans (by rw [same]), fun id before => isOver id ?_⟩
    rcases before with before | member
    · exact .inl (before.moveTo first)
    · rcases List.mem_cons.mp member with here | member
      · exact .inl (here ▸ moveTo_over client first)
      · exact .inr member

theorem endAll : Edits readers client client.endAll := by
  obtain ⟨ended, registered, isOver⟩ := @finishAll readers client client.registered
  exact (ended.trans (log _ _ _ _ _)).trans (of (.clear fun id member => isOver id (.inr (registered ▸ member))))

theorem rollBack (id : ChannelId) : Edits readers client (client.rollBack id) := by
  unfold Client.rollBack
  split
  · exact of (.reset id)
  · exact .refl client

theorem message (task : Task) (text : Text) : Edits readers client (client.message task text).1 := by
  unfold Client.message
  split
  · exact .refl client
  next socket found =>
    have handed : Edits readers client { client with sent := client.sent ++ [⟨socket, .message text⟩] } :=
      of (.speak socket text)
    exact handed.trans (of (.suspend task rfl))

theorem connect (task : Task) : Edits readers client (client.connect task).1 := by
  have opening : Edits readers client { client with connection := { client.connection with closing := false } } :=
    of .opening
  exact (opening.trans (log _ .connection .info "Connecting" _)).trans (of (.suspend task rfl))

theorem tearDown : Edits readers client client.tearDown.1 := (endAll client).trans (log _ _ _ _ _)

theorem closeSocket (task : Task) : Edits readers client (client.closeSocket task).1 := by
  unfold Client.closeSocket
  split
  · exact tearDown client
  next socket found =>
    have closed : Edits readers client { client with
        sockets := client.sockets.modify socket fun socket => { socket with closes := socket.closes + 1 } } :=
      of (.close socket)
    exact closed.trans (of (.suspend task rfl))

theorem closed (socket : SocketId) : Edits readers client (client.closed socket).1 := by
  have detached : Edits readers client client.detached := of .detached
  unfold Client.closed
  dsimp only
  split
  · exact detached.trans (tearDown _)
  · exact (detached.trans (log _ _ _ _ _)).trans (tearDown _)

theorem disconnect (current : ∀ reader, client.connection.reader = some reader → readers reader) (task : Task) :
    Edits readers client (client.disconnect task).1 := by
  have given : Edits readers client client.givingUp := of .givingUp
  have closing := given.trans (closeSocket _ task)
  unfold Client.disconnect
  dsimp only
  split
  · exact closing
  next reader found =>
    split
    · exact closing
    · split
      · exact given.trans (of (.stop (current reader found)))
      · split
        · exact (given.trans (of .bar)).trans (of (.suspend task rfl))
        · exact (given.trans (of (.stop (current reader found)))).trans (of (.suspend task rfl))

variable {reader : ReaderId} (own : readers reader)
include own

theorem setReading (reading : Reading) : Edits readers client (client.setReading reader reading) := of (.read own reading)

theorem finish (outcome : Outcome) : Edits readers client (client.finish reader outcome) := by
  have lost : Edits readers client client.lost := of .lost
  unfold Client.finish
  dsimp only
  split
  · exact lost.trans (setReading _ own _)
  · exact (lost.trans (suspendAll _)).trans (setReading _ own _)

theorem fail (error : Error) : Edits readers client (client.fail reader error) := by
  unfold Client.fail
  split
  · exact (log client _ _ _ _).trans (finish _ own .ended)
  · exact finish client own _

theorem settle (socket : SocketId) (result : Except Error (Option ChannelId)) :
    Edits readers client (client.settle reader socket result) := by
  unfold Client.settle
  split
  · exact setReading client own _
  · split
    · exact (log client _ _ _ _).trans (setReading _ own _)
    · exact fail client own _

theorem delivered (channel event : Text) (result : Except Error Unit) :
    Edits readers client (client.delivered reader channel event result) := by
  unfold Client.delivered
  split
  · exact .refl client
  · exact log client _ _ _ _
  · split
    · exact log client _ _ _ _
    · exact fail client own _

theorem ending (socket : SocketId) (ending : Ending) :
    Edits readers client (client.take reader socket (.ending ending)).1 := by
  cases ending with
  | finished => exact finish client own _
  | closed code => exact (log client _ _ _ _).trans (finish _ own _)
  | broken code reason => exact fail client own (.socketClosed code reason)
  | failed reason => exact fail client own (.system reason)

/-- Once its calls are abandoned. -/
theorem unwind : Edits readers (client.abandon reader) (client.unwind reader) := by
  unfold Client.unwind
  dsimp only
  split
  · exact setReading _ own _
  · exact finish _ own .cancelled

end Edits

inductive Handing (calls : Call → Prop) (client : Client) : Client → Prop where
  | ask {id : ChannelId} {channel : Channel} (found : client.channels[id]? = some channel)
      (registered : client.lookup channel.name = some id) (live : channel.phase ≠ .ended) {socket : Option SocketId}
      (target : client.target = .ok socket) {task : Task} {stage : Stage} (own : calls ⟨task, stage⟩)
      (about : stage.channel? = some id) : Handing calls client (client.asking task stage id channel socket)
  | dismiss (id : ChannelId) (name : Text) {socket : Option SocketId} (target : client.target = .ok socket) {task : Task}
      (own : calls ⟨task, .unsubscribing⟩) : Handing calls client (client.dismissing task id name socket)

inductive Acts (readers : ReaderId → Prop) (calls : Call → Prop) (before : Client) : Client → Prop where
  | edits {after : Client} (edits : Edits readers before after) : Acts readers calls before after
  | hands {middle after : Client} (edits : Edits readers before middle) (handing : Handing calls middle after) :
      Acts readers calls before after

inductive Goes (readers : ReaderId → Prop) (calls : Call → Prop) (before : Client) : Client × Progress → Prop where
  | done {after : Client} (edits : Edits readers before after) (result : Except Error (Option ChannelId)) :
      Goes readers calls before (after, .done result)
  | suspended {middle after : Client} (edits : Edits readers before middle) (handing : Handing calls middle after)
      (call : CallId) : Goes readers calls before (after, .suspended call)

section
variable {readers : ReaderId → Prop} {calls : Call → Prop}

/-- What is kept by each edit and by handing over a request is kept by an operation. -/
theorem Acts.keep {motive : Client → Prop} {before after : Client} (acts : Acts readers calls before after)
    (start : motive before) (edited : ∀ middle next, Edit readers middle next → motive middle → motive next)
    (handed : ∀ middle next, Handing calls middle next → motive middle → motive next) : motive after := by
  cases acts with
  | edits edits => exact edits.keep start edited
  | hands edits handing => exact handed _ _ handing (edits.keep start edited)

theorem Edits.goes {first middle : Client} {result : Client × Progress} (edits : Edits readers first middle)
    (goes : Goes readers calls middle result) : Goes readers calls first result := by
  cases goes with
  | done later result => exact .done (edits.trans later) result
  | suspended later handing call => exact .suspended (edits.trans later) handing call

theorem Goes.acts {before : Client} {result : Client × Progress} (goes : Goes readers calls before result) :
    Acts readers calls before result.1 := by
  cases goes with
  | done edits => exact .edits edits
  | suspended edits handing => exact .hands edits handing

namespace Goes

variable (client : Client)

theorem resubscribe (task : Task) (reader : Option ReaderId) (ids : List ChannelId)
    (own : ∀ id rest, id :: rest <:+ ids → calls ⟨task, .resubscribing id rest reader⟩) :
    Goes readers calls client (resubscribe task reader ids client) := by
  induction ids generalizing client with
  | nil =>
    unfold Client.resubscribe
    split
    · exact .done (.refl client) _
    · exact .done (.log client _ _ _ _) _
  | cons id rest ih =>
    have later : ∀ id after, id :: after <:+ rest → calls ⟨task, .resubscribing id after reader⟩ :=
      fun id after suffix => own id after (suffix.trans (List.suffix_cons _ rest))
    apply resubscribe_cases (motive := Goes readers calls client)
    · exact fun _ => ih client later
    · exact fun channel _ _ => (Edits.log client .manager .debug _ []).goes (ih _ later)
    · intro channel socket found registered live target
      exact .suspended (.refl client) (.ask found registered live target (own id rest List.suffix_rfl) rfl) _
    · exact fun channel error found registered live _ => .done (.of (.retract found registered live)) _

theorem resubscribeAll (task : Task) (reader : Option ReaderId)
    (own : ∀ id rest, id :: rest <:+ client.listing → calls ⟨task, .resubscribing id rest reader⟩) :
    Goes readers calls client (client.resubscribeAll task reader) :=
  resubscribe client task reader client.listing own

/-- A subscription that is not refused registers its channel first. -/
theorem subscribe {task : Task} {name : Option Text} {listener : Option Listener} {events : List (Option Text)}
    {channel : Channel} (made : client.newChannel name listener events = .ok channel)
    (own : calls ⟨task, .subscribing client.channels.length⟩) :
    Goes readers calls (client.register channel) (client.subscribe task name listener events) := by
  simp only [Client.subscribe, made]
  split
  · apply requestChannel_cases (motive := fun result => Goes readers calls (client.register channel)
      (afterAttempt (fun passed => (passed, .done (.ok (some client.channels.length)))) result))
    · exact fun _ => .done (.refl _) _
    · exact fun channel _ _ => .done (.log _ .manager .debug _ []) _
    · intro channel socket found registered live target
      exact .suspended (.refl _) (.ask found registered live target own rfl) _
    · exact fun channel error found registered live _ => .done (.of (.retract found registered live)) _
  · exact .done (.refl _) _

theorem unsubscribe {task : Task} (own : calls ⟨task, .unsubscribing⟩) (name : Option Text) :
    Goes readers calls client (client.unsubscribe task name) := by
  have removed (id : ChannelId) : Edits readers client (client.removing id) := by
    have finished : Edits readers client (client.moveTo id .ended).1 := .of (.finish id)
    have unregistered := finished.trans (.of (.unregister (moveTo_over client id)))
    obtain ⟨_, _, same, _⟩ := moveTo_end client id
    have registered : (client.moveTo id .ended).1.registered = client.registered := by rw [same]
    rw [removing_eq, ← registered]
    exact unregistered.trans (.log _ .manager .info _ [])
  apply unsubscribe_cases (motive := Goes readers calls client)
  · exact fun _ => .done (.refl client) _
  · exact fun id _ _ => .done (removed id) _
  · exact fun id socket _ target => .suspended (removed id) (.dismiss id (client.nameOf id) target own) _

variable {reader : ReaderId} (own : readers reader)
include own

theorem confirm (socket : SocketId) (members : Members)
    (asks : ∀ id rest, id :: rest <:+ client.listing → calls ⟨.reader reader, .resubscribing id rest (some reader)⟩) :
    Goes readers calls client (client.confirm reader socket members) := by
  have established : Edits readers client (client.established members) := .of (.established members)
  have busy := established.trans (.setReading _ own (.busy socket))
  have requested := busy.goes (resubscribeAll _ (.reader reader) (some reader) asks)
  unfold Client.confirm
  generalize Client.resubscribeAll _ (.reader reader) (some reader) = result at requested
  cases requested with
  | done edits result => exact .done (edits.trans (.settle _ own socket result)) _
  | suspended edits handing call => exact .suspended edits handing call

theorem establish (socket : SocketId) (depth : Nat) (data : Payload)
    (asks : ∀ id rest, id :: rest <:+ client.listing → calls ⟨.reader reader, .resubscribing id rest (some reader)⟩) :
    Goes readers calls client (client.establish reader socket depth data) := by
  unfold Client.establish
  split
  · exact confirm client own socket _ asks
  · exact (Edits.log client _ _ _ _).goes (confirm _ own socket [] asks)
  · exact .done (.fail client own _) _

omit client own in
theorem passOn {before : Client} {result : Client × Progress} (goes : Goes readers calls before result)
    {reader : Option ReaderId} (own : ∀ id, reader = some id → readers id) :
    Goes readers calls before (passOn reader result) := by
  cases goes with
  | suspended edits handing call => exact .suspended edits handing call
  | done edits result =>
    cases reader with
    | none => exact .done edits result
    | some reader =>
      simp only [Client.passOn]
      split
      · exact .done (edits.trans (.settle _ (own reader rfl) _ result)) _
      · exact .done edits result

end Goes

/-- Once the call that goes on is dropped. -/
theorem Acts.resume (client : Client) {id : CallId} (present : (client.call? id).isSome) (outcome : Except Error Unit)
    (waiting : ∀ task channel rest reader,
      client.call? id = some ⟨task, .resubscribing channel rest (some reader)⟩ → readers reader)
    (asks : ∀ task channel rest reader, client.call? id = some ⟨task, .resubscribing channel rest reader⟩ →
      ∀ id after, id :: after <:+ rest → calls ⟨task, .resubscribing id after reader⟩) :
    Acts readers calls (client.drop id) (client.resume id outcome).1 := by
  unfold Client.resume
  split
  next missing =>
    rw [missing] at present
    contradiction
  next task stage found =>
    dsimp only
    split
    · split
      · exact .edits (.refl _)
      · exact .edits (.rollBack _ _)
    · exact .edits (.refl _)
    · exact .edits (.refl _)
    next channel rest reader =>
      have own : ∀ id, reader = some id → readers id := fun id same => waiting _ _ _ _ (same ▸ found)
      split
      · exact (Goes.passOn (.resubscribe _ task reader rest (asks _ _ _ _ found)) own).acts
      · exact (Goes.passOn (.done (.rollBack _ channel) _) own).acts
    · split
      · exact .edits (.of .opened)
      · exact .edits (.refl _)
    · split
      · exact .edits (.refl _)
      · exact .edits (.closeSocket _ task)
    · exact .edits (.closed _ _)

end
end Client
end Pubsub
