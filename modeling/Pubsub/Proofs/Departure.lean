import Mathlib.Data.List.TakeDrop
import Pubsub.Proofs.Journal
import Pubsub.Proofs.Plain
import Pubsub.Proofs.Watching

/-! How the program leaves, whatever it has met. Its reader stops and its call is abandoned, its socket is closed, and its channel
ends; none of this can fail. Then the callbacks are made that still wait, and nothing more can come of anything. -/

namespace Pubsub

def Record.internal (record : Record) : Bool :=
  match record.source with
  | .channel | .manager | .connection => true
  | .dispatcher | .program => false

theorem Record.Routine.internal {record : Record} (routine : record.Routine) : record.internal = true := by
  unfold Record.internal
  rcases routine.source with source | source | source <;> rw [source]

namespace Client

def Internal (client : Client) : Prop := ∀ record ∈ client.records, record.internal = true

theorem Writes.internal {before after : Client} (writes : Writes before after) (internal : before.Internal) : after.Internal := by
  obtain ⟨added, grown, routine⟩ := writes
  intro record member
  rw [grown] at member
  exact (List.mem_append.mp member).elim (internal record) fun new => (routine record new).internal

private theorem step_internal {client : Client} (internal : client.Internal) {event : Event} (fine : event ≠ .failure) :
    (client.step event).Internal := by
  rcases step_writes client fine with writes | ⟨_, _, _, _, _, _, _, _, _, _, reported⟩
  · exact writes.internal internal
  · intro record member
    rw [reported] at member
    rcases List.mem_append.mp member with old | new
    · exact internal record old
    · rw [List.mem_singleton.mp new]
      rfl

private theorem run_internal {client : Client} (internal : client.Internal) {events : List Event}
    (fine : .failure ∉ events) :
    (client.run events).Internal := by
  induction events generalizing client with
  | nil => exact internal
  | cons event rest ih =>
    obtain ⟨first, others⟩ := List.ne_and_not_mem_of_not_mem_cons fine
    exact ih (step_internal internal first.symm) others

end Client

namespace Watch
open Client

/-- What is left of giving the connection up, once its socket is being closed. -/
def shut : Client × Progress → Client × Progress
  | (client, .suspended call) => client.resume call (.ok ())
  | done => done

variable {bound channel : Channel} {url : Text} {closing : Option Text} {client : Client}

private theorem tearDown_eq (registered : client.registered = [0]) (channels : client.channels = [channel]) : ∃ records,
    client.tearDown =
      ({ client with channels := [{ channel with phase := .ended }], registered := [], records }, .done (.ok none)) := by
  have found : client.channels[0]? = some channel := by rw [channels, List.getElem?_cons_zero]
  have moved : client.moveTo 0 .ended = _ := moveTo_of_live found (fun _ => rfl) (by decide)
  refine ⟨client.tearDown.1.records, ?_⟩
  simp only [tearDown, endAll, registered, List.foldl_cons, List.foldl_nil, moved, channels, List.set_cons_zero]
  rfl

theorem closed_eq (registered : client.registered = [0]) (channels : client.channels = [channel]) (socket : SocketId) :
    ∃ records, client.closed socket = ({ client.detached with
      channels := [{ channel with phase := .ended }], registered := [], records }, .done (.ok none)) := by
  unfold Client.closed
  dsimp only
  split
  · exact tearDown_eq registered channels
  · exact tearDown_eq registered channels

private theorem shut_closeSocket (calls : client.calls = []) {socket : SocketId}
    (current : client.connection.socket = some socket) :
    shut (client.closeSocket .application) = ({ client with
      sockets := client.sockets.modify socket fun socket => { socket with closes := socket.closes + 1 }
      nextCall := client.nextCall + 1 } : Client).closed socket := by
  simp only [closeSocket, current, shut, suspend, calls, List.nil_append]
  simp [Client.resume, call?, drop]

/-- Where no socket was opened there is nothing to close. -/
theorem disconnect_of_unopened (unread : client.connection.reader = none) (gone : client.connection.socket = none) :
    disconnect client = client.givingUp.tearDown := by
  have reader : client.givingUp.connection.reader = none := unread
  have socket : client.givingUp.connection.socket = none := gone
  simp only [disconnect, Client.disconnect, reader, closeSocket, socket]
  rfl

def halted (client : Client) (outcome : Outcome) (nextCall : CallId) : Client :=
  { client.givingUp with readers := [{ reading := .finished outcome }], calls := [], nextCall }

/-- The reader that goes on is told to stop, and its call is abandoned. -/
theorem disconnect_of_attended {latest : Latest} {reading : Reading} (engaged : Engaged client)
    (attended : client.link.Attended latest [] reading) :
    disconnect client = shut ((halted client .cancelled (client.nextCall + 1)).closeSocket .application) := by
  have readers : client.readers = [{ reading }] := attended.readers
  let told : Client := { client.givingUp with readers := [{ reading, cancelling := true }] }
  let waits := (told.suspend .application (.disconnecting (some 0))).1
  let left : Client := { client.givingUp with
    readers := [{ reading := .finished .cancelled }]
    calls := [(client.nextCall, ⟨.application, .disconnecting (some 0)⟩)], nextCall := client.nextCall + 1 }
  have calls : waits.calls.filter (·.2.task ≠ Task.reader 0) = left.calls := by
    change (client.calls ++ [(client.nextCall, _)]).filter _ = _
    cases engaged with
    | free none => simp [none, left]
    | sending only busy => simp [only, left]
  have unwound : waits.unwind 0 = left := by
    have sparing : waits.isClosing (.reader 0) = false := by
      change (client.calls ++ [(client.nextCall, _)]).any _ = false
      cases engaged with
      | free none => simp [none]
      | sending only busy => simp [only]
    have abandoned : waits.abandon 0 = { waits with calls := left.calls, readers := [{ reading }] } := by
      simp only [abandon, calls, sparing]
      rfl
    unfold unwind
    rw [abandoned]
    cases reading <;> rfl
  have held : left.call? client.nextCall = some ⟨.application, .disconnecting (some 0)⟩ := by simp [call?, left]
  have dropped : left.drop client.nextCall = { left with calls := [] } := by simp [drop, left]
  have resumed : left.resume client.nextCall (.ok ()) =
      (halted client .cancelled (client.nextCall + 1)).closeSocket .application := by
    simp only [Client.resume, held, dropped]
    rfl
  have cancelling : waits.isCancelling (.reader 0) = true := rfl
  simp only [disconnect, Client.disconnect_of_attended attended, readers, List.length_singleton, Nat.sub_self]
  change shut (if waits.isCancelling (.reader 0) then (waits.unwind 0).resume client.nextCall (.ok ()) else _) = _
  rw [if_pos cancelling, unwound, resumed]

/-- A reader that has stopped already is not waited for. -/
theorem disconnect_of_finished {outcome : Outcome} (readers : client.readers = [{ reading := .finished outcome }])
    (calls : client.calls = []) {socket : SocketId} (current : client.connection.socket = some socket) :
    disconnect client = shut ((halted client outcome client.nextCall).closeSocket .application) := by
  have rest : ∀ reader ∈ client.link.readers, reader.AtRest := by
    intro reader member
    exact ⟨outcome, List.mem_singleton.mp (readers ▸ member)⟩
  have socket : client.givingUp.connection.socket = some socket := current
  obtain ⟨waits, call, closes, same⟩ : ∃ waits call, client.givingUp.closeSocket .application = (waits, .suspended call) ∧
      waits.readers = client.readers := by
    simp only [closeSocket, socket]
    exact ⟨_, _, rfl, rfl⟩
  have going : waits.isCancelling (.reader 0) = false := by simp [isCancelling, same, readers]
  have given : halted client outcome client.nextCall = client.givingUp := by
    rw [halted, ← readers, ← calls]
    rfl
  rw [given, closes]
  simp only [disconnect, disconnect_of_rest rest, closes, readers, List.length_singleton, Nat.sub_self, going]
  rfl

private theorem Watches.halts (watches : Watches bound url closing client) :
    ∃ outcome nextCall, Watch.disconnect client = shut ((halted client outcome nextCall).closeSocket .application) := by
  rcases watches.stands with ⟨outcome, readers⟩ | ⟨latest, reading, attended⟩
  · have calls : client.calls = [] := by
      cases watches.engaged with
      | free none => exact none
      | sending only busy => simp [readers] at busy
    exact ⟨outcome, client.nextCall, disconnect_of_finished readers calls watches.connection.2.1⟩
  · exact ⟨.cancelled, client.nextCall + 1, disconnect_of_attended watches.engaged attended⟩

/-- What is left of a client when its connection is given up. -/
structure Departs (closes : List Nat) (before after : Client) : Prop where
  down : after.connection.established = false
  received : after.connection.received = before.connection.received
  finished : ∀ reader ∈ after.readers, reader.AtRest
  closes : after.sockets.map (·.closes) = closes
  calls : after.calls = []
  registered : after.registered = []
  phases : after.channels.map (·.phase) = [.ended]
  waiting : after.waiting = before.waiting
  writes : Writes before after

private theorem givingUp_writes (client : Client) : Writes client client.givingUp :=
  (Writes.log client (.connection (by decide +kernel))).trans (.of_same rfl)

theorem Watches.disconnect (watches : Watches bound url closing client) :
    ∃ after, Watch.disconnect client = (after, .done (.ok none)) ∧ Departs [1] client after := by
  obtain ⟨incoming, sockets⟩ := watches.socket
  obtain ⟨channel, channels, _⟩ := watches.channel
  obtain ⟨outcome, nextCall, halts⟩ := watches.halts
  have current : (halted client outcome nextCall).connection.socket = some 0 := watches.connection.2.1
  have none : (halted client outcome nextCall).calls = [] := rfl
  rw [halts, shut_closeSocket none current]
  generalize late : ({ halted client outcome nextCall with sockets := _, nextCall := _ } : Client) = closes
  have registered : closes.registered = [0] := late ▸ watches.registered
  have only : closes.channels = [channel] := late ▸ channels
  have given : Writes client closes := (givingUp_writes client).trans (.of_same (late ▸ rfl))
  have writes := given.trans (.closed closes 0)
  obtain ⟨records, closed⟩ := closed_eq registered only 0
  rw [closed] at writes
  refine ⟨_, closed, ?_⟩
  rw [← late] at writes ⊢
  exact {
    down := rfl
    received := rfl
    finished := fun reader member => ⟨outcome, List.mem_singleton.mp member⟩
    closes := by simp [halted, givingUp, log, sockets, detached]
    calls := rfl
    registered := rfl
    phases := rfl
    waiting := rfl
    writes }

def unopened (channel : Text) (events : List Text) (url reason : Text) : Client :=
  (connect (subscribe channel events url).1 (some reason)).1

private theorem unopened_disconnect {name : Text} {events : List Text}
    (subscribed : subscribe name events url = ((fresh url).register bound, .done (.ok (some 0)))) (reason : Text) :
    ∃ after, disconnect (unopened name events url reason) = (after, .done (.ok none)) ∧
      Departs [] (unopened name events url reason) after := by
  have same : unopened name events url reason = { (fresh url).register bound with
      nextCall := 1, records := (unopened name events url reason).records } := by
    rw [unopened, subscribed]
    rfl
  generalize unopened name events url reason = client at same
  have writes := (givingUp_writes client).trans (.tearDown client.givingUp)
  have registered : client.givingUp.registered = [0] := by rw [same]; rfl
  have channels : client.givingUp.channels = [bound] := by rw [same]; rfl
  obtain ⟨records, torn⟩ := tearDown_eq registered channels
  rw [torn] at writes
  refine ⟨_, (disconnect_of_unopened (by rw [same]; rfl) (by rw [same]; rfl)).trans torn, ?_⟩
  have readers : client.readers = [] := by rw [same]; rfl
  have sockets : client.sockets = [] := by rw [same]; rfl
  have calls : client.calls = [] := by rw [same]; rfl
  exact {
    down := rfl
    received := rfl
    finished := fun reader member => absurd (readers ▸ member : reader ∈ []) List.not_mem_nil
    closes := congrArg (List.map (·.closes)) sockets
    calls := calls
    registered := rfl
    phases := rfl
    waiting := rfl
    writes }

def reports (callbacks : List Callback) : List Record := callbacks.map fun callback => Reporter.record callback.notice

/-- What the program writes last: that its queue is shut down, after a warning if callbacks were left in it, and the
statistics. -/
def lastWords (client : Client) (clock : Text) (left : List Callback) : List Record :=
  (if left.isEmpty then [] else [⟨.program, .warning, "Event queue did not drain before shutdown", []⟩]) ++
    [⟨.dispatcher, .debug, "EventQueue shut down", []⟩,
      ⟨.program, .info, "Stats: " ++ (client.statistics.json clock).shown, []⟩]

private theorem task_plain (stalls : Nat → Callback → Bool) (number : Nat) (callback : Callback) :
    (task stalls number callback).Plain :=
  ⟨Reporter.failure callback.notice, rfl⟩

private theorem queue_eq (stalls : Nat → Callback → Bool) (callbacks : List Callback) :
    queue stalls callbacks = { waiting := (callbacks.mapIdx (task stalls)).map .work } :=
  Queue.submits_open (Queue.sound_new []) rfl rfl _

private theorem labels_ran (works : List (Work Callback)) :
    Work.Mark.labels (works.map (.ran ·.label)) = works.map Work.label := by
  simp only [Work.Mark.labels, List.filterMap_map]
  exact congrFun (List.filterMap_eq_map (f := Work.label)) works

private theorem labels_tasks (stalls : Nat → Callback → Bool) (callbacks : List Callback) :
    (callbacks.mapIdx (task stalls)).map Work.label = callbacks := by
  apply List.ext_getElem?
  intro number
  simp only [List.getElem?_map, List.getElem?_mapIdx, Option.map_map]
  exact congrFun Option.map_id _

/-- The first task whose gate does not let it pass is one that the listener does not come back from. -/
theorem stalls_of_left {stalls : Nat → Callback → Bool} {callbacks later : List Callback} {callback : Callback}
    (left : ((callbacks.mapIdx (task stalls)).dropWhile (Work.passes [])).map Work.label = callback :: later) :
    stalls ((callbacks.mapIdx (task stalls)).takeWhile (Work.passes [])).length callback = true := by
  obtain ⟨work, works, held, rfl, -⟩ := List.map_eq_cons_iff.mp left
  have split := List.takeWhile_append_dropWhile (p := Work.passes []) (l := callbacks.mapIdx (task stalls))
  have closed := List.head?_dropWhile_not (Work.passes []) (callbacks.mapIdx (task stalls))
  rw [held] at split closed
  generalize ((callbacks.mapIdx (task stalls)).takeWhile (Work.passes [])) = before at split ⊢
  have found : (callbacks.mapIdx (task stalls))[before.length]? = some work := by
    rw [← split, List.getElem?_append_right (Nat.le_refl _), Nat.sub_self, List.getElem?_cons_zero]
  rw [List.getElem?_mapIdx, Option.map_eq_some_iff] at found
  obtain ⟨callback, -, rfl⟩ := found
  change stalls before.length callback = true
  by_contra goes
  simp [Work.passes, task, Work.gate, goes] at closed

/-- How the program leaves a queue that was drained, with the callbacks made that its listener came back from. -/
theorem settle_of_drained {client : Client} {world : World} {error : Option Error} {drained : Queue Callback}
    {made left : List Callback} (sound : drained.Sound) (lock : drained.lock = .free) (live : drained.closed = false)
    (did : (queue world.stalls client.waiting).drain true = (drained, .now left.isEmpty))
    (before : Work.Mark.labels drained.marks = made)
    (after : Work.Mark.labels (Queue.release { drained with closed := true, down := true, halting := false } gate).settle.marks =
      made ++ left) :
    settle client world error = ⟨{ client with
      waiting := [], accepting := false
      records := client.records ++ reports made ++ lastWords client world.clock left ++ reports left }, error, false⟩ := by
  have shut := Queue.shutdown_open sound lock live false
  simp only [Bool.false_eq_true, if_false] at shut
  simp only [settle, did, shut, before, after, List.drop_left, lastWords, reports]
  cases left with
  | nil => simp [make, log]; rfl
  | cons first rest => simp [make, log]; rfl

/-- The program leaves its queue with all callbacks made that come before the first one its listener does not come back
from, and the others follow. -/
theorem settle_eq (client : Client) (world : World) (error : Option Error) : ∃ made left, made ++ left = client.waiting ∧
    (∀ callback later, left = callback :: later → world.stalls made.length callback = true) ∧
    settle client world error = ⟨{ client with
      waiting := [], accepting := false
      records := client.records ++ reports made ++ lastWords client world.clock left ++ reports left }, error, false⟩ := by
  let works := client.waiting.mapIdx (task world.stalls)
  have labels : works.map Work.label = client.waiting := labels_tasks world.stalls client.waiting
  have plain : ∀ work ∈ works, work.Plain := by
    intro work member
    obtain ⟨number, bound, rfl⟩ := List.mem_mapIdx.mp member
    exact task_plain world.stalls number _
  have passes : ∀ work ∈ works, work.passes [gate] = true := by
    intro work member
    obtain ⟨number, bound, rfl⟩ := List.mem_mapIdx.mp member
    simp only [task, Work.passes, Work.gate]
    split <;> rfl
  obtain ⟨logged, kept, same⟩ := Queue.drain_line { waiting := works.map .work }
    (Queue.sound_new _) rfl rfl rfl works plain rfl
  have drained := (congrArg (Queue.drain · true) (queue_eq world.stalls client.waiting)).trans same
  have split : works.takeWhile (Work.passes []) ++ works.dropWhile (Work.passes []) = works :=
    List.takeWhile_append_dropWhile
  refine ⟨(works.takeWhile (Work.passes [])).map Work.label, (works.dropWhile (Work.passes [])).map Work.label, ?_, ?_, ?_⟩
  · rw [← List.map_append, split, labels]
  · intro callback later left
    rw [List.length_map]
    exact stalls_of_left left
  · cases held : works.dropWhile (Work.passes []) with
    | nil =>
      rw [held] at split drained
      rw [List.append_nil] at split
      refine settle_of_drained (Queue.sound_of_free rfl rfl rfl) rfl rfl drained ?_ ?_
      · rw [split]
        exact labels_ran works
      · rw [split, Queue.settle_of_rests rfl, List.map_nil, List.append_nil]
        exact labels_ran works
    | cons work left =>
      rw [held] at split drained
      refine settle_of_drained (Queue.sound_of_free rfl rfl rfl) rfl rfl drained (labels_ran _) ?_
      have members : ∀ {other}, other ∈ work :: left → other ∈ works := fun member =>
        split ▸ List.mem_append_right _ member
      rw [Queue.settle_rest (fun other member => plain other (members member))
        (fun other member => passes other (members member)) rfl rfl]
      change Work.Mark.labels ((works.takeWhile (Work.passes [])).map (.ran ·.label) ++ (work :: left).map (.ran ·.label)) = _
      rw [← List.map_append, ← List.map_append]
      exact labels_ran _

def consumed (channel : Text) (events : List Text) (url : Text) (world : World) : List Frame :=
  if world.opening.isSome then [] else taken (opened channel events url world.closing) world.happenings

def called (channel : Text) (events : List Text) (url : Text) (world : World) : List Callback :=
  if world.opening.isSome then [] else submitted (opened channel events url world.closing) world.happenings

private theorem failure_not_mem_course (client : Client) (happenings : List Happening) :
    .failure ∉ course client happenings := by
  induction happenings generalizing client with
  | nil => exact List.not_mem_nil
  | cons happening rest ih =>
    have first : .failure ∉ happens client happening := by
      apply happens_cases (motive := (.failure ∉ ·)) client happening <;> simp
    exact fun member => (List.mem_append.mp member).elim first (ih _)

private theorem leave_of_disconnect {after : Client} (disconnected : disconnect client = (after, .done (.ok none)))
    (world : World)
    (error : Option Error) : leave client world error = settle after world error := by
  simp only [leave, disconnected]

section
variable {name : Text} {events : List Text}
  (subscribed : subscribe name events url = ((fresh url).register bound, .done (.ok (some 0))))
include subscribed

private theorem unopened_internal (reason : Text) : (unopened name events url reason).Internal := by
  have writes : Writes (fresh url) (unopened name events url reason) := by
    rw [unopened, subscribed]
    exact ((Writes.register _ bound).trans (.connect _ .application)).trans (.resume _ _ _)
  exact writes.internal fun _ member => absurd member List.not_mem_nil

private theorem stopped_internal (world : World) : (stopped name events url world).Internal := by
  obtain ⟨_, same⟩ := stopped_watches subscribed world
  have begun : (opened name events url world.closing).Internal := by
    rw [opened_run subscribed]
    apply run_internal fun _ member => absurd member List.not_mem_nil
    cases world.closing <;> simp [beginning]
  rw [same]
  exact run_internal begun (failure_not_mem_course _ _)

/-- However a run of the program ends, its client has departed before the rest is settled. -/
theorem run_departs (world : World) :
    ∃ client after, client.Internal ∧ Departs (if world.opening.isSome then [] else [1]) client after ∧
      run name events url world = settle after world (world.opening.map (.cannotConnect · url)) ∧
      client.connection.received = (consumed name events url world).length ∧ client.waiting = called name events url world := by
  cases opening : world.opening with
  | some reason =>
    obtain ⟨after, disconnected, departs⟩ := unopened_disconnect subscribed reason
    have left : run name events url world = leave (unopened name events url reason) world (some (.cannotConnect reason url)) := by
      simp only [run, unopened, subscribed, opening]
      rfl
    have ran := left.trans (leave_of_disconnect disconnected world _)
    refine ⟨_, after, unopened_internal subscribed reason, departs, ran, ?_, ?_⟩
    · rw [unopened, subscribed, consumed, opening]
      rfl
    · rw [unopened, subscribed, called, opening]
      rfl
  | none =>
    obtain ⟨watches, _⟩ := stopped_watches subscribed world
    obtain ⟨after, disconnected, departs⟩ := watches.disconnect
    have left : run name events url world = leave (stopped name events url world) world none := by
      simp only [run, stopped, opened, subscribed, opening]
      rfl
    have watched := opened_watches subscribed world.closing
    obtain ⟨records, begun⟩ := opened_eq subscribed world.closing
    have ran := left.trans (leave_of_disconnect disconnected world none)
    refine ⟨_, after, stopped_internal subscribed world, departs, ran, ?_, ?_⟩
    · rw [stopped, watched.received, consumed, opening, begun]
      exact Nat.zero_add _
    · rw [stopped, watched.waiting, called, opening, begun]
      rfl

/-- The callbacks that were submitted are all that is written beside what the client writes itself, and what comes last. -/
theorem run_records (world : World) :
    ∃ earlier made left, (∀ record ∈ earlier, record.internal = true) ∧ made ++ left = called name events url world ∧
      (∀ callback later, left = callback :: later → world.stalls made.length callback = true) ∧
      (run name events url world).client.records = earlier ++ reports made ++ lastWords (run name events url world).client world.clock left ++ reports left := by
  obtain ⟨before, after, internal, departs, ran, _, waiting⟩ := run_departs subscribed world
  obtain ⟨made, left, split, stalls, settled⟩ := settle_eq after world (world.opening.map (.cannotConnect · url))
  have all : made ++ left = called name events url world := split.trans (departs.waiting.trans waiting)
  refine ⟨after.records, made, left, departs.writes.internal internal, all, stalls, ?_⟩
  rw [ran, settled]
  rfl

end

def arrives (members : Members) : Happening := .arrival (.frame (.text (Json.object members).compact))

/-- The connection is confirmed, and the program is stopped while its request is being sent, before it reads an event.
Its socket cannot be closed. -/
def interrupted : World where
  happenings := [.turn, arrives [("event", .text "pusher:connection_established")], .turn,
    arrives [("event", .text "price"), ("channel", .text "feed")], .turn]
  closing := some "reset"
  clock := "noon"

end Watch
end Pubsub
