import Pubsub.Proofs.Closings
import Pubsub.Proofs.Dealings
import Pubsub.Proofs.Latest
import Pubsub.Proofs.Namesakes
import Pubsub.Proofs.Resubscription

/-! Giving the connection up, whatever has become of it and whatever happens meanwhile. The call tells the reader that
was started last to stop and waits for that, closes the socket that is current then, and ends every channel. -/

namespace Pubsub

namespace Link
variable {link after : Link} {event : Event} {task : Task} {progress : Progress}

structure Outside (link : Link) (task : Task) : Prop where
  unopened : link.Unopened
  settled : link.Settled
  apart : ∀ reader, task = .reader reader → link.reader ≠ some reader
  going : ∀ reader state, task = .reader reader → link.readers[reader]? = some state → state.cancelling = false

theorem Next.outside (next : link.Next event after) (outside : link.Outside task) (unasked : ∀ task, event ≠ .connect task) :
    after.Outside task where
  unopened := next.unopened outside.unopened unasked
  settled := next.settled outside.settled
  apart := fun reader same => (next.last outside.unopened).1 ▸ outside.apart reader same
  going := by
    intro reader later same found
    rcases next.later found with ⟨state, before, goes⟩ | ⟨rfl, _⟩
    · exact goes.going (outside.apart reader same) (outside.going reader state same before)
    · rfl

def Rests (link : Link) : Prop :=
  ∀ (reader : ReaderId) (state : Reader), link.reader = some reader → link.readers[reader]? = some state → state.done = true

theorem Next.rests (next : link.Next event after) (outside : link.Outside task) (rests : link.Rests) : after.Rests := by
  intro reader later last found
  rw [(next.last outside.unopened).1] at last
  rcases next.later found with ⟨state, before, goes⟩ | ⟨_, opened⟩
  · have done := rests reader state last before
    exact goes.done (outside.settled reader state before) done ▸ done
  · exact absurd outside.unopened opened

def Stops (link : Link) (reader : ReaderId) : Prop := ∃ state, link.readers[reader]? = some state ∧ state.Obeys

private theorem Next.still_stops (next : link.Next event after) (given : link.closing = true) {reader : ReaderId}
    (stops : link.Stops reader) : after.Stops reader := by
  obtain ⟨state, found, obeys⟩ := stops
  obtain ⟨later, here, goes⟩ := next.reader found
  exact ⟨later, here, goes.obeys given obeys⟩

/-- Where a call of a task stands that gives the connection up, by the steps that are left of it. -/
inductive Leaves (link : Link) (task : Task) : Nat → Progress → Prop where
  | waits {call : CallId} {reader : ReaderId} (held : (call, ⟨task, .disconnecting (some reader)⟩) ∈ link.dealings)
      (last : link.reader = some reader) (stops : link.Stops reader) : Leaves link task 2 (.suspended call)
  | closes {call : CallId} {socket : SocketId} (held : (call, ⟨task, .closing socket⟩) ∈ link.dealings)
      (rests : link.Rests) : Leaves link task 1 (.suspended call)
  | returned (rests : link.Rests) (detached : link.socket = none) : Leaves link task 0 (.done (.ok none))

/-- Whatever happens meanwhile, the call stands where it stood. -/
theorem Next.leaves (next : link.Next event after) (outside : link.Outside task) (given : link.closing = true) {left : Nat}
    (leaves : link.Leaves task left progress)
    (aside : ∀ call, progress = .suspended call → ∀ outcome, event ≠ .resume call outcome) :
    after.Leaves task left progress := by
  cases leaves with
  | @waits call reader held last stops =>
    exact .waits (next.keeps held (aside call rfl) outside.going) ((next.last outside.unopened).1.trans last)
      (next.still_stops given stops)
  | @closes call socket held rests =>
    exact .closes (next.keeps held (aside call rfl) outside.going) (next.rests outside rests)
  | returned rests detached =>
    refine .returned (next.rests outside rests) ?_
    rcases (next.last outside.unopened).2 with same | ⟨gone, _⟩
    · exact same.trans detached
    · exact gone

end Link

namespace Client
variable {client : Client} {task : Task} {progress : Progress}

/-- How often each socket has been closed when the current one has been closed once more. -/
def closedOnce (client : Client) : List Nat :=
  match client.connection.socket with
  | none => client.closings
  | some socket => client.closings.modify socket (· + 1)

/-- No call gives the connection up but one, as long as that is not over. -/
def Alone (client : Client) (progress : Progress) : Prop :=
  ∀ entry ∈ client.link.dealings, entry.2.stage.givesUp = true → progress = .suspended entry.1

/-- A step of a call hands nothing over, and neither submits anything nor changes channels but by moving them. When the
call returns then, no channel is left that is registered. -/
structure Clears (before : Client) (result : Client × Progress) : Prop where
  sent : result.1.sent = before.sent
  moves : Moves before result.1
  cleared : ∀ outcome, result.2 = .done outcome → result.1.registered = []

theorem Clears.of_same {before middle : Client} {result : Client × Progress} (clears : Clears middle result)
    (sent : middle.sent = before.sent) (channels : middle.channels = before.channels)
    (waiting : middle.waiting = before.waiting) (accepting : middle.accepting = before.accepting) :
    Clears before result := by
  have same : Moves before middle := ⟨by rw [channels], waiting, accepting⟩
  exact ⟨clears.sent.trans sent, same.trans clears.moves, clears.cleared⟩

structure Advance (before : Client) (task : Task) (left : Nat) (result : Client × Progress) : Prop where
  leaves : result.1.link.Leaves task left result.2
  clears : Clears before result
  alone : before.Alone (.done (.ok none)) → result.1.Alone result.2

/-- An advance of a client is one of any that differs from it in nothing that matters. -/
theorem Advance.of_same {before middle : Client} {left : Nat} {result : Client × Progress} (advance : Advance middle task left result)
    (sent : middle.sent = before.sent) (channels : middle.channels = before.channels)
    (waiting : middle.waiting = before.waiting) (accepting : middle.accepting = before.accepting)
    (alone : before.Alone (.done (.ok none)) → middle.Alone (.done (.ok none))) : Advance before task left result where
  leaves := advance.leaves
  clears := advance.clears.of_same sent channels waiting accepting
  alone := fun none => advance.alone (alone none)

private theorem tearDown_advance (rests : client.link.Rests) (detached : client.connection.socket = none) :
    Advance client task 0 client.tearDown where
  leaves := by
    rw [tearDown_link]
    exact .returned rests detached
  clears := by
    refine ⟨?_, (Edits.tearDown client).moves, fun _ _ => rfl⟩
    obtain ⟨_, _, _, same⟩ := endEach_quiet client client.registered
    simp only [tearDown, endAll, same]
    rfl
  alone := fun alone => by
    rw [Alone, tearDown_link]
    exact alone

private theorem tearDown_closings (client : Client) : client.tearDown.1.closings = client.closings :=
  closings_of_sockets (endAll_sockets client)

private theorem suspend_advance {stage : Stage} (deals : stage.deals = true) {left : Nat}
    (leaves : (client.suspend task stage).1.link.Leaves task left (.suspended client.nextCall)) :
    Advance client task left ((client.suspend task stage).1, .suspended client.nextCall) where
  leaves := leaves
  clears := ⟨rfl, ⟨rfl, rfl, rfl⟩, nofun⟩
  alone := by
    intro alone entry member gives
    rw [suspend_link_of_deals client task deals] at member
    rcases List.mem_append.mp member with before | last
    · exact absurd (alone entry before gives) nofun
    · rw [List.mem_singleton.mp last]

private theorem closeSocket_advance (rests : client.link.Rests) (task : Task) :
    ∃ left, left < 2 ∧ Advance client task left (client.closeSocket task) := by
  unfold closeSocket
  split
  next detached => exact ⟨0, by decide, tearDown_advance rests detached⟩
  next socket current =>
    let closed := client.changeSocket socket fun socket => { socket with closes := socket.closes + 1 }
    have leaves : (closed.suspend task (.closing socket)).1.link.Leaves task 1 (.suspended closed.nextCall) := by
      rw [suspend_link_of_deals closed task rfl]
      exact .closes (List.mem_append_right _ (List.mem_singleton_self _)) rests
    exact ⟨1, by decide, (suspend_advance rfl leaves).of_same rfl rfl rfl rfl id⟩

private theorem closeSocket_closings (client : Client) (task : Task) :
    (client.closeSocket task).1.closings = client.closedOnce := by
  cases found : client.connection.socket with
  | none =>
    simp only [closeSocket, closedOnce, found]
    exact tearDown_closings client
  | some socket =>
    simp only [closeSocket, closedOnce, found]
    exact changeSocket_closings client socket fun _ => rfl

theorem closed_eq (client : Client) (socket : SocketId) :
    ∃ records, client.closed socket = ({ client.detached with records } : Client).tearDown := by
  unfold closed
  dsimp only
  split
  · exact ⟨client.records, rfl⟩
  · exact ⟨_, rfl⟩

private theorem closed_advance (rests : client.link.Rests) (task : Task) (socket : SocketId) :
    Advance client task 0 (client.closed socket) := by
  obtain ⟨records, same⟩ := closed_eq client socket
  have idle : ({ client.detached with records } : Client).link.Rests := rests
  rw [same]
  exact (tearDown_advance idle rfl).of_same rfl rfl rfl rfl id

private theorem closed_closings (client : Client) (socket : SocketId) :
    (client.closed socket).1.closings = client.closings := by
  obtain ⟨records, same⟩ := closed_eq client socket
  rw [same]
  exact tearDown_closings _

/-- A reader that spares the connection is told to stop when it is given up. -/
theorem cancel_of_spares {reader : ReaderId} (spares : client.link.Spares reader) : client.cancel reader =
    { client with readers := client.readers.modify reader fun reader => { reader with cancelling := true } } := by
  have waits : client.waitsForReader reader = false := by
    refine List.any_eq_false.mpr ?_
    rintro ⟨number, task, stage⟩ member waits
    cases stage with
    | disconnecting other =>
      have held : (number, (⟨task, .disconnecting other⟩ : Call)) ∈ client.link.dealings := List.mem_filter.mpr ⟨member, rfl⟩
      exact spares.calls _ held rfl (of_decide_eq_true waits)
    | _ => contradiction
  rw [cancel, if_neg (by rw [waits]; decide)]

private theorem isDone_of_rests (rests : client.link.Rests) {reader : ReaderId}
    (last : client.connection.reader = some reader) :
    client.isDone reader = true := by
  unfold isDone
  cases found : client.readers[reader]? with
  | none => rfl
  | some state => exact rests reader state last found

/-- A call closes the socket if the last reader has finished, and else tells it to stop first. -/
theorem disconnect_advance (spares : ∀ reader, client.connection.reader = some reader →
      task ≠ .reader reader ∧ (client.isDone reader = false → client.link.Spares reader)) :
    ∃ left, Advance client task left (client.disconnect task) ∧ (left = 2 ∨ client.link.Rests) ∧
      (client.disconnect task).1.closings = if left = 2 then client.closings else client.closedOnce := by
  by_cases rests : client.link.Rests
  · have idle : client.givingUp.link.Rests := rests
    obtain ⟨left, few, advance⟩ := closeSocket_advance idle task
    rw [disconnect_of_done fun _ => isDone_of_rests rests]
    refine ⟨left, advance.of_same rfl rfl rfl rfl id, .inr rests, ?_⟩
    rw [if_neg (Nat.ne_of_lt few)]
    exact closeSocket_closings client.givingUp task
  · obtain ⟨reader, state, last, found, going⟩ : ∃ reader state, client.connection.reader = some reader ∧
        client.readers[reader]? = some state ∧ state.done = false := by
      simpa [Link.Rests, link] using rests
    have current : client.givingUp.connection.reader = some reader := last
    have undone : client.isDone reader = false := by simp [isDone, found, going]
    -- Nobody else waits for that reader, so it is this call that has it told to stop.
    obtain ⟨apart, spares⟩ := spares reader last
    have spares := spares undone
    have undone : client.givingUp.isDone reader = false := undone
    have unbarred : client.givingUp.connection.barred = false := spares.unbarred last
    let told : Client := { client.givingUp with
      readers := client.readers.modify reader fun reader => { reader with cancelling := true } }
    have cancelled : client.givingUp.cancel reader = told :=
      cancel_of_spares (show client.givingUp.link.Spares reader from ⟨spares.calls, spares.unbarred⟩)
    have comes : client.disconnect task = ((told.suspend task (.disconnecting (some reader))).1, .suspended told.nextCall) := by
      simp only [disconnect, current, undone, unbarred, Bool.false_eq_true, if_false, if_neg apart, cancelled]
      rfl
    have leaves : (told.suspend task (.disconnecting (some reader))).1.link.Leaves task 2 (.suspended told.nextCall) := by
      rw [suspend_link_of_deals told task rfl]
      have now : told.readers[reader]? = some { state with cancelling := true } := by simp [told, found]
      exact .waits (List.mem_append_right _ (List.mem_singleton_self _)) last ⟨_, now, .inl ⟨rfl, going⟩⟩
    rw [comes]
    exact ⟨2, (suspend_advance rfl leaves).of_same rfl rfl rfl rfl id, .inl rfl, rfl⟩

/-- Once a call that gives the connection up is dropped, none is left if there was no other. -/
theorem drop_alone {own : CallId} (alone : client.Alone (.suspended own)) : (client.drop own).Alone (.done (.ok none)) := by
  intro entry member gives
  rw [drop_link] at member
  obtain ⟨before, apart⟩ := List.mem_filter.mp member
  cases alone entry before gives
  simp at apart

/-- The call goes on once the reader that it waits for has stopped, or the socket is closed. -/
theorem resume_advance (tidy : client.Tidy) {left : Nat} {own : CallId} (leaves : client.link.Leaves task left (.suspended own))
    (can : client.canResume own = true) (outcome : Except Error Unit) :
    client.goOn own outcome = client.resume own outcome ∧
      (∃ after, after < left ∧ after < 2 ∧ Advance (client.drop own) task after (client.resume own outcome)) ∧
      (client.resume own outcome).1.closings = if left = 2 then client.closedOnce else client.closings := by
  cases leaves with
  | @waits _ reader held last stops =>
    obtain ⟨state, found, obeys⟩ := stops
    have held := tidy.ordered.call?_of_mem (List.mem_filter.mp held).1
    have found : client.readers[reader]? = some state := found
    have done : state.done = true := by
      simp only [canResume, held, isDone, found, Option.all_some, Bool.and_eq_true] at can
      exact can.2
    obtain rfl : state = { reading := .finished .cancelled } := by
      rcases obeys with ⟨_, undone⟩ | stopped
      · exact absurd (undone.symm.trans done) (by decide)
      · exact stopped
    have closes : client.resume own outcome = (client.drop own).closeSocket task := by
      have reads : (client.drop own).reading? reader = some (.finished .cancelled) := by
        rw [reading?, drop, found, Option.map_some]
      simp only [resume, held, Option.bind_some, reads]
    have rests : (client.drop own).link.Rests := by
      intro other there same here
      obtain rfl := Option.some.inj (last.symm.trans same)
      exact Option.some.inj (found.symm.trans here) ▸ done
    obtain ⟨after, few, advance⟩ := closeSocket_advance rests task
    refine ⟨by simp only [goOn, held], ⟨after, few, few, closes ▸ advance⟩, ?_⟩
    rw [closes]
    exact closeSocket_closings (client.drop own) task
  | @closes _ socket held rests =>
    have held := tidy.ordered.call?_of_mem (List.mem_filter.mp held).1
    have closes : client.resume own outcome = (client.drop own).closed socket := by simp only [resume, held]
    have rests : (client.drop own).link.Rests := rests
    refine ⟨by simp only [goOn, held], ⟨0, by decide, by decide, closes ▸ closed_advance rests task socket⟩, ?_⟩
    rw [closes]
    exact closed_closings (client.drop own) socket

def comesTo : Progress → Client → List Event → Progress
  | .suspended own, client, event :: rest =>
    match client.goesOn own event with
    | none => comesTo (.suspended own) (client.step event) rest
    | some outcome => comesTo (client.goOn own outcome).2 (client.step event) rest
  | progress, _, _ => progress

private theorem comesTo_of_done (result : Except Error (Option ChannelId)) (client : Client) (events : List Event) :
    comesTo (.done result) client events = .done result := by
  cases events <;> rfl

/-- What a call has come to is what it was, or came with one of its steps. -/
theorem comesTo_mem (progress : Progress) (client : Client) (events : List Event) :
    comesTo progress client events = progress ∨
      ∃ moment ∈ moments progress client events, moment.after.2 = comesTo progress client events := by
  induction events generalizing client progress with
  | nil => cases progress <;> exact .inl rfl
  | cons event rest ih =>
    cases progress with
    | done => exact .inl rfl
    | suspended own =>
      simp only [comesTo, moments]
      cases client.goesOn own event with
      | none => exact ih (.suspended own) (client.step event)
      | some outcome =>
        rcases ih (client.goOn own outcome).2 (client.step event) with same | ⟨moment, member, comes⟩
        · exact .inr ⟨_, List.mem_cons_self, same.symm⟩
        · exact .inr ⟨moment, List.mem_cons_of_mem _ member, comes⟩

private theorem step_of_goesOn {own : CallId} {event : Event} {outcome : Except Error Unit}
    (goes : client.goesOn own event = some outcome) : client.step event = (client.resume own outcome).1 := by
  obtain ⟨rfl, can⟩ := goesOn_eq_some goes
  have possible : client.possible (.resume own outcome) = true := can
  rw [step, if_pos possible, perform]

/-- An event that does not have a call go on does not resume it. -/
theorem step_of_not_goesOn {own : CallId} {event : Event} (stays : client.goesOn own event = none) :
    (∀ outcome, event ≠ .resume own outcome) ∨ client.step event = client := by
  by_cases resumes : ∃ outcome, event = .resume own outcome
  · obtain ⟨outcome, rfl⟩ := resumes
    have stuck : ¬client.canResume own = true := by simpa [goesOn] using stays
    exact .inr (if_neg stuck)
  · exact .inl fun outcome same => resumes ⟨outcome, same⟩

private theorem unasked_cons {ask : Task → Event} {event : Event} {rest : List Event}
    (unasked : ∀ task, ask task ∉ event :: rest) :
    (∀ task, event ≠ ask task) ∧ ∀ task, ask task ∉ rest :=
  ⟨fun task same => unasked task (same ▸ List.mem_cons_self), fun task member => unasked task (List.mem_cons_of_mem _ member)⟩

private theorem unasked_front {ask : Task → Event} {events front back : List Event}
    (unasked : ∀ task, ask task ∉ events)
    (split : events = front ++ back) : ∀ task, ask task ∉ front :=
  fun task member => unasked task (split ▸ List.mem_append_left back member)

structure GivenUp (client : Client) (task : Task) : Prop where
  tidy : client.Tidy
  outside : client.link.Outside task
  given : client.link.closing = true

structure Departing (client : Client) (task : Task) (left : Nat) (progress : Progress) : Prop extends GivenUp client task where
  leaves : client.link.Leaves task left progress

namespace GivenUp
variable (givenUp : GivenUp client task)
include givenUp

theorem going : client.isCancelling task = false := by
  cases task with
  | application => rfl
  | reader reader =>
    cases found : client.readers[reader]? with
    | none => simp [isCancelling, found]
    | some state => simpa [isCancelling, found] using givenUp.outside.going reader state rfl found

theorem step {event : Event} (unasked : ∀ task, event ≠ .connect task) : GivenUp (client.step event) task := by
  have next := step_next givenUp.tidy event
  exact ⟨step_tidy event givenUp.tidy, next.outside givenUp.outside unasked, next.closing givenUp.given unasked⟩

/-- What becomes of the last reader and of the current socket. -/
theorem run {events : List Event} (unasked : ∀ task, .connect task ∉ events) :
    GivenUp (client.run events) task ∧ (client.run events).link.reader = client.link.reader ∧
      ((client.run events).link.socket = client.link.socket ∨ (client.run events).link.socket = none) ∧
      ∀ reader, client.link.Stops reader → (client.run events).link.Stops reader := by
  induction events generalizing client with
  | nil => exact ⟨givenUp, rfl, .inl rfl, fun _ stops => stops⟩
  | cons event rest ih =>
    obtain ⟨first, others⟩ := unasked_cons unasked
    have next := step_next givenUp.tidy event
    obtain ⟨last, current⟩ := next.last givenUp.outside.unopened
    obtain ⟨later, still, socket, stops⟩ := ih (givenUp.step first) others
    refine ⟨later, still.trans last, ?_, fun reader before => stops reader (next.still_stops givenUp.given before)⟩
    rcases socket with same | gone
    · exact current.imp same.trans fun gone => same.trans gone.1
    · exact .inr gone

/-- A reader that is told to stop does no more to channels than to let go of them. -/
theorem unwind (reader : ReaderId) : (client.step (.unwind reader)).channels = client.channels ∧
    (client.step (.unwind reader)).waiting = client.waiting := by
  have given : client.connection.closing = true := givenUp.given
  refine step_induction (motive := fun after => after.channels = client.channels ∧ after.waiting = client.waiting) ⟨rfl, rfl⟩ ?_
  intro _
  have closing : (client.abandon reader).lost.connection.closing = true := given
  simp only [perform, Client.unwind]
  split
  · exact ⟨rfl, rfl⟩
  · simp only [finish, closing, if_true]
    exact ⟨rfl, rfl⟩

end GivenUp

namespace Departing
variable {left : Nat}

theorem step (departing : Departing client task left progress) {event : Event} (unasked : ∀ task, event ≠ .connect task)
    (stays : ∀ own, progress = .suspended own → client.goesOn own event = none) :
    Departing (client.step event) task left progress := by
  refine ⟨departing.toGivenUp.step unasked, ?_⟩
  have aside (aside : ∀ call, progress = .suspended call → ∀ outcome, event ≠ .resume call outcome) :
      (client.step event).link.Leaves task left progress :=
    (step_next departing.tidy event).leaves departing.outside departing.given departing.leaves aside
  cases progress with
  | done => exact aside nofun
  | suspended own =>
    rcases step_of_not_goesOn (stays own rfl) with other | same
    · refine aside fun call same => ?_
      cases same
      exact other
    · rw [same]
      exact departing.leaves

/-- When the call goes on, it closes the current socket if it has waited for the last reader, and else none. -/
theorem goesOn {own : CallId} (departing : Departing client task left (.suspended own)) {event : Event}
    {outcome : Except Error Unit} (goes : client.goesOn own event = some outcome) :
    client.step event = (client.goOn own outcome).1 ∧ Clears client (client.goOn own outcome) ∧
      (∃ after, after < left ∧ after < 2 ∧ Departing (client.step event) task after (client.goOn own outcome).2) ∧
      (client.Alone (.suspended own) → (client.step event).Alone (client.goOn own outcome).2) ∧
      (client.goOn own outcome).1.closings = if left = 2 then client.closedOnce else client.closings := by
  obtain ⟨rfl, can⟩ := goesOn_eq_some goes
  obtain ⟨same, ⟨after, fewer, few, advance⟩, closings⟩ := resume_advance departing.tidy departing.leaves can outcome
  have stepped := step_of_goesOn goes
  have givenUp : GivenUp (client.step (.resume own outcome)) task := departing.toGivenUp.step nofun
  rw [same]
  rw [stepped] at givenUp ⊢
  exact ⟨rfl, advance.clears.of_same rfl rfl rfl rfl, ⟨after, fewer, few, givenUp, advance.leaves⟩,
    fun alone => advance.alone (drop_alone alone), closings⟩

/-- The call is never stuck. -/
theorem canResume {own : CallId} (departing : Departing client task left (.suspended own)) : client.canResume own = true ∨
    ∃ reader, client.connection.reader = some reader ∧ client.possible (.unwind reader) = true ∧
      (client.step (.unwind reader)).canResume own = true := by
  have ready {client : Client} (givenUp : GivenUp client task) {reader : ReaderId}
      (held : (own, ⟨task, .disconnecting (some reader)⟩) ∈ client.link.dealings) (done : client.isDone reader = true) :
      client.canResume own = true := by
    have held := givenUp.tidy.ordered.call?_of_mem (List.mem_filter.mp held).1
    simp [Client.canResume, held, givenUp.going, done]
  cases departing.leaves with
  | @waits _ reader held last stops =>
    obtain ⟨state, found, obeys⟩ := stops
    have found : client.readers[reader]? = some state := found
    rcases obeys with ⟨told, _⟩ | rfl
    · have possible : client.possible (.unwind reader) = true := by simp [possible, isCancelling, found, told]
      have unasked : ∀ other, Event.unwind reader ≠ .connect other := by
        intro other same
        cases same
      have aside : ∀ outcome, Event.unwind reader ≠ .resume own outcome := by
        intro outcome same
        cases same
      have later : GivenUp (client.step (.unwind reader)) task := departing.toGivenUp.step unasked
      have kept := (step_next departing.tidy (.unwind reader)).keeps held aside departing.outside.going
      have done : (client.step (.unwind reader)).isDone reader = true := by
        rw [Client.step, if_pos possible]
        exact unwind_isDone client reader
      exact .inr ⟨reader, last, possible, ready later kept done⟩
    · exact .inl (ready departing.toGivenUp held (by simp [isDone, found, Reader.done]))
  | @closes _ socket held rests =>
    have held := departing.tidy.ordered.call?_of_mem (List.mem_filter.mp held).1
    exact .inl (by simp [Client.canResume, held, departing.going])

end Departing

/-- As long as the call waits for the socket to be closed, it does not come to its end, for its task is not told to stop. -/
theorem Departing.not_quits {left : Nat} {own : CallId} (departing : Departing client task left (.suspended own))
    {closer : Task} {socket : SocketId} (held : (own, ⟨closer, .closing socket⟩) ∈ client.link.dealings) {event : Event}
    (aside : ∀ outcome, event ≠ .resume own outcome) : ¬client.link.Quits event own closer := by
  rintro (⟨outcome, resumed⟩ | ⟨reader, state, _, rfl, found, told⟩)
  · exact aside outcome resumed
  · have found? := departing.tidy.ordered.call?_of_mem (List.mem_filter.mp held).1
    have same : task = .reader reader := by
      have known (stage : Stage) (own : (own, ⟨task, stage⟩) ∈ client.link.dealings) : task = .reader reader := by
        cases found?.symm.trans (departing.tidy.ordered.call?_of_mem (List.mem_filter.mp own).1)
        rfl
      cases departing.leaves with
      | waits own | closes own => exact known _ own
    exact absurd ((departing.outside.going reader state same found).symm.trans told) (by decide)

/-- How often each socket will have been closed when a call returns that has so many steps left, if no other call closes
any. -/
def closingsDue (client : Client) (left : Nat) : List Nat := if left = 2 then client.closedOnce else client.closings

theorem Departing.undisturbed {left : Nat} (departing : Departing client task left progress) (alone : client.Alone progress)
    {event : Event} (unasked : ∀ task, event ≠ .connect task) (undisturbed : ∀ task, event ≠ .disconnect task)
    (stays : ∀ own, progress = .suspended own → client.goesOn own event = none) :
    (client.step event).Alone progress ∧ (client.step event).closingsDue left = client.closingsDue left := by
  by_cases same : client.step event = client
  · rw [same]
    exact ⟨alone, rfl⟩
  -- What goes on is no call that deals with the connection: the only one is this, and it stays.
  have apart : ∀ call outcome, event = .resume call outcome → progress ≠ .suspended call := by
    rintro call outcome rfl waits
    rcases step_of_not_goesOn (stays call waits) with other | stuck
    · exact other outcome rfl
    · exact same stuck
  have next := step_next departing.tidy event
  have closings : (client.step event).closings = client.closings := by
    refine step_closings client undisturbed ?_
    intro call outcome held resumed found
    refine Bool.eq_false_iff.mpr fun deals => ?_
    have member := dealings_mem found deals
    obtain ⟨task, stage⟩ := held
    cases stage with
    | connecting => exact departing.outside.unopened _ member rfl
    | disconnecting | closing => exact apart call outcome resumed (alone _ member rfl)
    | _ => contradiction
  have socket : (client.step event).connection.socket = client.connection.socket := by
    rcases (next.last departing.outside.unopened).2 with same | ⟨_, call, _, _, held, quits⟩
    · exact same
    · obtain rfl := alone _ held rfl
      exact absurd quits (departing.not_quits held fun outcome resumed => apart call outcome resumed rfl)
  refine ⟨?_, by simp only [closingsDue, closedOnce, closings, socket]⟩
  rintro ⟨call, held⟩ member gives
  cases next.origin member with
  | before member => exact alone _ member gives
  | opens asked => exact absurd asked (unasked _)
  | givesUp asked => exact absurd asked (undisturbed _)
  | @closes earlier outcome _ _ resumed waits => exact absurd (alone _ waits rfl) (apart earlier outcome resumed)

/-- One step of a call closes the socket that is current then, if there is one, and no other closes any. -/
def ShutsOnce (moments : List Moment) : Prop :=
  ∃ front moment back, moments = front ++ moment :: back ∧ moment.after.1.closings = moment.before.closedOnce ∧
    ∀ other ∈ front ++ back, other.after.1.closings = other.before.closings

theorem ShutsOnce.cons {moments : List Moment} (shuts : ShutsOnce moments) {first : Moment}
    (keeps : first.after.1.closings = first.before.closings) : ShutsOnce (first :: moments) := by
  obtain ⟨front, moment, back, rfl, once, others⟩ := shuts
  exact ⟨first :: front, moment, back, rfl, once, List.forall_mem_cons.mpr ⟨keeps, others⟩⟩

theorem ShutsOnce.head {first : Moment} {moments : List Moment} (once : first.after.1.closings = first.before.closedOnce)
    (others : ∀ moment ∈ moments, moment.after.1.closings = moment.before.closings) : ShutsOnce (first :: moments) :=
  ⟨[], first, moments, rfl, once, others⟩

/-- The steps that a call takes in a run, with so many left at its start and in its end. -/
structure Course (client : Client) (progress : Progress) (events : List Event) (left after : Nat) (moments : List Moment) :
    Prop where
  few : moments.length + after ≤ left
  clears : ∀ moment ∈ moments, Clears moment.before moment.after
  reached : ∀ moment ∈ moments, ∃ front event back, events = front ++ event :: back ∧
    moment.before = client.run front ∧ moment.after.1 = client.run (front ++ [event])
  shuts : left = 2 → after < 2 → ShutsOnce moments
  keeps : left < 2 → ∀ moment ∈ moments, moment.after.1.closings = moment.before.closings
  total : client.Alone progress → (∀ task, .disconnect task ∉ events) →
    (client.run events).closingsDue after = client.closingsDue left

theorem Course.nil (client : Client) (progress : Progress) (left : Nat) : Course client progress [] left left [] where
  few := Nat.le_of_eq (Nat.zero_add left)
  clears := List.forall_mem_nil _
  reached := List.forall_mem_nil _
  shuts := fun two few => absurd two (Nat.ne_of_lt few)
  keeps := fun _ => List.forall_mem_nil _
  total := fun _ _ => rfl

private theorem reached_later {event : Event} {rest : List Event} {moment : Moment}
    (reached : ∃ front next back, rest = front ++ next :: back ∧ moment.before = (client.step event).run front ∧
      moment.after.1 = (client.step event).run (front ++ [next])) :
    ∃ front next back, event :: rest = front ++ next :: back ∧ moment.before = client.run front ∧
      moment.after.1 = client.run (front ++ [next]) := by
  obtain ⟨front, next, back, rfl, before, after⟩ := reached
  exact ⟨event :: front, next, back, rfl, before, after⟩

theorem Course.later {event : Event} {rest : List Event} {left after : Nat} {moments : List Moment}
    (course : Course (client.step event) progress rest left after moments)
    (aside : client.Alone progress → (∀ task, event ≠ .disconnect task) →
      (client.step event).Alone progress ∧ (client.step event).closingsDue left = client.closingsDue left) :
    Course client progress (event :: rest) left after moments :=
  { course with
    reached := fun moment member => reached_later (course.reached moment member)
    total := fun alone undisturbed => by
      obtain ⟨quiet, undisturbed⟩ := unasked_cons undisturbed
      obtain ⟨alone, same⟩ := aside alone quiet
      exact (course.total alone undisturbed).trans same }

theorem Departing.run {client : Client} {left : Nat} {progress : Progress} (departing : Departing client task left progress)
    {events : List Event} (unasked : ∀ task, .connect task ∉ events) :
    ∃ after, Departing (client.run events) task after (comesTo progress client events) ∧
      Course client progress events left after (moments progress client events) := by
  induction events generalizing client left progress with
  | nil => cases progress <;> exact ⟨left, departing, .nil client _ left⟩
  | cons event rest ih =>
    obtain ⟨first, others⟩ := unasked_cons unasked
    -- The call lets an event pass that does not have it go on, so the rest of the run is a course of the same call.
    have aside (stays : ∀ own, progress = .suspended own → client.goesOn own event = none) :
        ∃ after, Departing ((client.step event).run rest) task after (comesTo progress (client.step event) rest) ∧
          Course client progress (event :: rest) left after (moments progress (client.step event) rest) := by
      obtain ⟨after, later, course⟩ := ih (departing.step first stays) others
      exact ⟨after, later, course.later fun alone quiet => departing.undisturbed alone first quiet stays⟩
    cases progress with
    | done result =>
      have later := aside nofun
      rw [comesTo_of_done, moments_of_done] at later ⊢
      exact later
    | suspended own =>
      simp only [comesTo, moments]
      cases goes : client.goesOn own event with
      | none =>
        refine aside fun other same => ?_
        cases same
        exact goes
      | some outcome =>
        obtain ⟨stepped, clears, ⟨middle, fewer, few, next⟩, lone, closings⟩ := departing.goesOn goes
        obtain ⟨after, later, course⟩ := ih next others
        refine ⟨after, later, ?_, ?_, ?_, ?_, ?_, ?_⟩
        · have rest := course.few
          rw [List.length_cons]
          omega
        · exact List.forall_mem_cons.mpr ⟨clears, course.clears⟩
        · exact List.forall_mem_cons.mpr ⟨⟨[], event, rest, rfl, rfl, stepped.symm⟩,
            fun moment member => reached_later (course.reached moment member)⟩
        · intro two _
          rw [if_pos two] at closings
          exact .head closings (course.keeps few)
        · intro less
          rw [if_neg (Nat.ne_of_lt less)] at closings
          exact List.forall_mem_cons.mpr ⟨closings, course.keeps few⟩
        · intro alone undisturbed
          have same := course.total (lone alone) (unasked_cons undisturbed).2
          rw [run_cons, same, closingsDue, if_neg (Nat.ne_of_lt few), stepped]
          exact closings

private theorem run_settled (url : Text) (events : List Event) : ((fresh url).run events).link.Settled := by
  refine (run_induction (motive := fun client => client.Tidy ∧ client.link.Settled) ?_ ⟨fresh_tidy url, nofun⟩ events).2
  exact fun client event kept => ⟨step_tidy event kept.1, (step_next kept.1 event).settled kept.2⟩

private theorem run_spares (tidy : client.Tidy) {reader : ReaderId} (spares : client.link.Spares reader)
    {events : List Event}
    (apart : .disconnect (.reader reader) ∉ events) : (client.run events).link.Spares reader := by
  induction events generalizing client with
  | nil => exact spares
  | cons event rest ih =>
    have first : event ≠ .disconnect (.reader reader) := fun same => apart (same ▸ List.mem_cons_self)
    exact ih (step_tidy event tidy) ((step_next tidy event).spares spares first) fun member => apart (List.mem_cons_of_mem _ member)

namespace Departing
variable {left : Nat} {result : Except Error (Option ChannelId)}

theorem returned (departing : Departing client task left (.done result)) :
    left = 0 ∧ result = .ok none ∧ client.link.Rests ∧ client.connection.socket = none := by
  cases departing.leaves with
  | returned rests detached => exact ⟨rfl, rfl, rests, detached⟩

theorem down (departing : Departing client task left (.done result)) :
    client.connection.socket = none ∧ client.isConnected = false := by
  obtain ⟨_, _, _, detached⟩ := departing.returned
  exact ⟨detached, by rw [isConnected, detached, Option.isSome_none, Bool.and_false]⟩

/-- To give up a connection that is given up already is to end what has been registered since. -/
theorem again (departing : Departing client task left (.done result)) (other : Task) :
    (client.disconnect other).2 = .done (.ok none) ∧ (client.disconnect other).1.sent = client.sent ∧
      (client.disconnect other).1.closings = client.closings ∧
      (client.registered = [] → ∃ connection records, connection.socket = none ∧
        (client.disconnect other).1 = { client with connection, records }) := by
  obtain ⟨_, _, rests, detached⟩ := departing.returned
  have missing : client.givingUp.connection.socket = none := detached
  have idle : client.givingUp.link.Rests := rests
  have same : client.disconnect other = client.givingUp.tearDown := by
    rw [disconnect_of_done fun _ => isDone_of_rests rests, closeSocket, missing]
  have advance : Advance client.givingUp other 0 client.givingUp.tearDown := tearDown_advance idle missing
  rw [same]
  refine ⟨rfl, advance.clears.sent, tearDown_closings client.givingUp, fun none => ?_⟩
  have none : client.givingUp.registered = [] := none
  refine ⟨client.givingUp.connection, client.givingUp.tearDown.1.records, detached, ?_⟩
  simp only [tearDown, endAll, none, List.foldl_nil]
  rw [← none]
  rfl

end Departing

private theorem disconnect_givenUp (tidy : client.Tidy) (outside : client.link.Outside task) :
    GivenUp (client.disconnect task).1 task := by
  have next : client.link.Next (.disconnect task) (client.disconnect task).1.link := .gives (disconnect_gives client task)
  refine ⟨step_tidy (.disconnect task) tidy, next.outside outside nofun, ?_⟩
  obtain ⟨_, _, _, same, _⟩ := (disconnect_gives client task).frame
  rw [same]
  rfl

def teardown (before : Client) (task : Task) (later : List Event) : List Moment :=
  ⟨before, .ok (), before.disconnect task⟩ :: moments (before.disconnect task).2 (before.disconnect task).1 later

structure Parting (before : Client) (task : Task) (left : Nat) : Prop where
  tidy : before.Tidy
  outside : before.link.Outside task
  advance : Advance before task left (before.disconnect task)
  rested : left = 2 ∨ before.link.Rests
  closings : (before.disconnect task).1.closings = if left = 2 then before.closings else before.closedOnce

namespace Parting
variable {before : Client} {left : Nat} (parting : Parting before task left)
include parting

private theorem departing : Departing (before.disconnect task).1 task left (before.disconnect task).2 :=
  ⟨disconnect_givenUp parting.tidy parting.outside, parting.advance.leaves⟩

theorem few : left ≤ 2 := by
  have leaves := parting.advance.leaves
  generalize (before.disconnect task).2 = progress at leaves
  cases leaves <;> decide

/-- The last reader stays the last, and the socket is not forgotten at once. -/
theorem last : (before.disconnect task).1.link.reader = before.link.reader ∧
    (before.disconnect task).1.connection.socket = before.connection.socket := by
  have next : before.link.Next (.disconnect task) (before.disconnect task).1.link := .gives (disconnect_gives before task)
  obtain ⟨reader, socket⟩ := next.last parting.outside.unopened
  exact ⟨reader, socket.resolve_right nofun⟩

/-- A reader that has not finished when the call is made is told to stop. -/
theorem tells {reader : ReaderId} (last : before.connection.reader = some reader) (undone : before.isDone reader = false) :
    (before.disconnect task).1.link.Stops reader := by
  have waits : left = 2 := parting.rested.resolve_right fun rests => by
    rw [isDone_of_rests rests last] at undone
    contradiction
  have kept := parting.last.1.trans last
  have leaves := parting.advance.leaves
  rw [waits] at leaves
  generalize before.disconnect task = result at leaves kept
  obtain ⟨after, progress⟩ := result
  cases leaves with
  | waits _ current stops =>
    obtain rfl := Option.some.inj (current.symm.trans kept)
    exact stops

variable {later : List Event} (unasked : ∀ task, .connect task ∉ later)
include unasked

private theorem clears : ∀ moment ∈ before.teardown task later, Clears moment.before moment.after := by
  obtain ⟨_, _, course⟩ := parting.departing.run unasked
  exact List.forall_mem_cons.mpr ⟨parting.advance.clears, course.clears⟩

theorem reached : ∀ moment ∈ before.teardown task later, ∃ front event,
    moment.before = before.run front ∧ moment.after.1 = before.run (front ++ [event]) := by
  obtain ⟨_, _, course⟩ := parting.departing.run unasked
  refine List.forall_mem_cons.mpr ⟨⟨[], .disconnect task, rfl, rfl⟩, fun moment member => ?_⟩
  obtain ⟨front, event, _, _, first, second⟩ := course.reached moment member
  exact ⟨.disconnect task :: front, event, first, second⟩

/-- When the call returns, each channel that was registered at its start, or is just before, has ended. -/
theorem ended {moment : Moment} (member : moment ∈ before.teardown task later) {result : Except Error (Option ChannelId)}
    (returns : moment.after.2 = .done result) {id : ChannelId}
    (registered : id ∈ before.registered ∨ id ∈ moment.before.registered) : moment.after.1.phase? id = some .ended := by
  have cleared := (parting.clears unasked moment member).cleared result returns
  obtain ⟨front, event, first, second⟩ := parting.reached unasked moment member
  have still : id ∈ moment.after.1.registered ∨ moment.after.1.phase? id = some .ended := by
    rw [second]
    rcases registered with earlier | now
    · exact run_registered parting.tidy (front ++ [event]) earlier
    · rw [run_append, ← first]
      exact run_registered (first ▸ parting.tidy.run front) [event] now
  rw [cleared] at still
  exact still.resolve_left List.not_mem_nil

theorem current : ∀ moment ∈ before.teardown task later,
    moment.before.connection.socket = before.connection.socket ∨ moment.before.connection.socket = none := by
  obtain ⟨_, _, course⟩ := parting.departing.run unasked
  refine List.forall_mem_cons.mpr ⟨.inl rfl, fun moment member => ?_⟩
  obtain ⟨front, event, back, split, first, _⟩ := course.reached moment member
  obtain ⟨_, _, still, _⟩ := parting.departing.toGivenUp.run (unasked_front unasked split)
  rw [first, ← parting.last.2]
  exact still

theorem shuts (isOver : comesTo (before.disconnect task).2 (before.disconnect task).1 later = .done (.ok none)) :
    ShutsOnce (before.teardown task later) := by
  obtain ⟨after, final, course⟩ := parting.departing.run unasked
  rw [isOver] at final
  obtain ⟨rfl, _⟩ := final.returned
  have closings := parting.closings
  by_cases waits : left = 2
  · rw [if_pos waits] at closings
    exact (course.shuts waits (by decide)).cons closings
  · rw [if_neg waits] at closings
    exact .head closings (course.keeps (Nat.lt_of_le_of_ne parting.few waits))

theorem once (isOver : comesTo (before.disconnect task).2 (before.disconnect task).1 later = .done (.ok none))
    (free : ∀ entry ∈ before.calls, entry.2.stage.givesUp = false) (undisturbed : ∀ other, .disconnect other ∉ later) :
    ((before.disconnect task).1.run later).closings = before.closedOnce := by
  have alone : before.Alone (.done (.ok none)) := by
    intro entry member gives
    rw [free entry (List.mem_filter.mp member).1] at gives
    contradiction
  obtain ⟨after, final, course⟩ := parting.departing.run unasked
  have same := course.total (parting.advance.alone alone) undisturbed
  rw [isOver] at final
  obtain ⟨rfl, _⟩ := final.returned
  have counted : (before.disconnect task).1.closingsDue left = before.closedOnce := by
    have closings := parting.closings
    by_cases waits : left = 2
    · rw [if_pos waits] at closings
      simp only [closingsDue, if_pos waits, closedOnce, parting.last.2, closings]
    · rw [if_neg waits] at closings
      rw [closingsDue, if_neg waits, closings]
  exact same.trans counted

theorem succeeds {result : Except Error (Option ChannelId)}
    (isOver : comesTo (before.disconnect task).2 (before.disconnect task).1 later = .done result) :
    result = .ok none ∧ ∃ moment ∈ before.teardown task later, moment.after.2 = .done (.ok none) := by
  obtain ⟨_, final, _⟩ := parting.departing.run unasked
  rw [isOver] at final
  obtain ⟨_, rfl, _⟩ := final.returned
  refine ⟨rfl, ?_⟩
  rcases comesTo_mem (before.disconnect task).2 (before.disconnect task).1 later with same | ⟨moment, member, comes⟩
  · exact ⟨_, List.mem_cons_self, same.symm.trans isOver⟩
  · exact ⟨moment, List.mem_cons_of_mem _ member, comes.trans isOver⟩

/-- No reader that stops meanwhile tells its channels of a loss. -/
theorem silent {front back : List Event} {reader : ReaderId} (split : later = front ++ .unwind reader :: back) :
    let meanwhile := (before.disconnect task).1.run front
    (meanwhile.step (.unwind reader)).channels = meanwhile.channels ∧
      (meanwhile.step (.unwind reader)).waiting = meanwhile.waiting := by
  exact (parting.departing.toGivenUp.run (unasked_front unasked split)).1.unwind reader

theorem stopped (isOver : comesTo (before.disconnect task).2 (before.disconnect task).1 later = .done (.ok none))
    {reader : ReaderId} (latest : before.connection.reader = some reader) :
    let now := (before.disconnect task).1.run later
    now.isDone reader = true ∧ (before.isDone reader = false → now.reading? reader = some (.finished .cancelled)) := by
  intro now
  obtain ⟨_, final, _⟩ := parting.departing.run unasked
  rw [isOver] at final
  obtain ⟨_, _, rests, _⟩ := final.returned
  obtain ⟨_, last, _, stops⟩ := parting.departing.toGivenUp.run unasked
  have done : now.isDone reader = true := isDone_of_rests rests (last.trans (parting.last.1.trans latest))
  refine ⟨done, fun undone => ?_⟩
  obtain ⟨state, found, obeys⟩ := stops reader (parting.tells latest undone)
  have found : now.readers[reader]? = some state := found
  rw [reading?, found, Option.map_some]
  rcases obeys with ⟨_, going⟩ | rfl
  · simp [isDone, found, going] at done
  · rfl

end Parting

/-- What comes of a call that gives the connection up, in a run from its start on. -/
structure TearsDown (before : Client) (task : Task) (later : List Event) (moments : List Moment) (progress : Progress)
    (now : Client) : Prop where
  clears : ∀ moment ∈ moments, Clears moment.before moment.after
  few : moments.length ≤ 3
  /-- It can go on, at once or when the reader that was started last has stopped as it was told. -/
  goes : ∀ own, progress = .suspended own → now.canResume own = true ∨
    ∃ reader, now.connection.reader = some reader ∧ now.possible (.unwind reader) = true ∧
      (now.step (.unwind reader)).canResume own = true
  succeeds : ∀ result, progress = .done result →
    result = .ok none ∧ ∃ moment ∈ moments, moment.after.2 = .done (.ok none)
  ended : ∀ moment ∈ moments, ∀ result, moment.after.2 = .done result → ∀ id,
    id ∈ before.registered ∨ id ∈ moment.before.registered → moment.after.1.phase? id = some .ended
  silent : ∀ front reader back, later = front ++ .unwind reader :: back →
    let meanwhile := (before.disconnect task).1.run front
    (meanwhile.step (.unwind reader)).channels = meanwhile.channels ∧
      (meanwhile.step (.unwind reader)).waiting = meanwhile.waiting
  stopped : progress = .done (.ok none) → ∀ reader, before.connection.reader = some reader →
    now.isDone reader = true ∧ (before.isDone reader = false → now.reading? reader = some (.finished .cancelled))
  current : ∀ moment ∈ moments,
    moment.before.connection.socket = before.connection.socket ∨ moment.before.connection.socket = none
  shuts : progress = .done (.ok none) → ShutsOnce moments
  /-- No other call gives the connection up meanwhile, so the socket is closed once in all. -/
  once : progress = .done (.ok none) → (∀ entry ∈ before.calls, entry.2.stage.givesUp = false) →
    (∀ other, .disconnect other ∉ later) → now.closings = before.closedOnce
  down : progress = .done (.ok none) → now.connection.socket = none ∧ now.isConnected = false
  /-- To give the connection up once more changes no more than has come since. -/
  again : progress = .done (.ok none) → ∀ other, (now.disconnect other).2 = .done (.ok none) ∧
    (now.disconnect other).1.sent = now.sent ∧ (now.disconnect other).1.closings = now.closings ∧
    (now.registered = [] → ∃ connection records, connection.socket = none ∧
      (now.disconnect other).1 = { now with connection, records })

private theorem Parting.tearsDown {before : Client} {left : Nat} (parting : Parting before task left)
    {later : List Event}
    (unasked : ∀ other, .connect other ∉ later) :
    TearsDown before task later (before.teardown task later)
      (comesTo (before.disconnect task).2 (before.disconnect task).1 later) ((before.disconnect task).1.run later) := by
  obtain ⟨after, final, course⟩ := parting.departing.run unasked
  have steps : (before.teardown task later).length ≤ 3 := by
    have others := course.few
    have first := parting.few
    rw [teardown, List.length_cons]
    omega
  exact {
    clears := parting.clears unasked
    few := steps
    goes := fun own waits => by
      rw [waits] at final
      exact final.canResume
    succeeds := fun result => parting.succeeds unasked
    ended := fun moment member result returns id => parting.ended unasked member returns
    silent := fun front reader back => parting.silent unasked
    stopped := fun isOver reader => parting.stopped unasked isOver
    current := parting.current unasked
    shuts := parting.shuts unasked
    once := parting.once unasked
    down := fun isOver => by
      rw [isOver] at final
      exact final.down
    again := fun isOver => by
      rw [isOver] at final
      exact final.again }

private theorem fresh_spares (url : Text) (reader : ReaderId) : (fresh url).link.Spares reader := ⟨nofun, nofun⟩

/-- Whatever has happened, a call from outside can give the connection up. -/
theorem run_parting (url : Text) (past : List Event)
    (unopening : ∀ entry ∈ ((fresh url).run past).calls, entry.2.stage ≠ .connecting)
    (apart : ∀ reader, ((fresh url).run past).connection.reader = some reader →
      task ≠ .reader reader ∧ (.disconnect (.reader reader) ∈ past → ((fresh url).run past).isDone reader = true))
    (going : ((fresh url).run past).isCancelling task = false) : ∃ left, Parting ((fresh url).run past) task left := by
  have outside : ((fresh url).run past).link.Outside task := by
    refine ⟨?_, run_settled url past, ?_, ?_⟩
    · exact fun entry member => unopening entry (List.mem_filter.mp member).1
    · exact fun reader same last => (apart reader last).1 same
    · intro reader state same found
      have found : ((fresh url).run past).readers[reader]? = some state := found
      have going : ((fresh url).run past).isCancelling (.reader reader) = false := same ▸ going
      simpa [isCancelling, found] using going
  have spares (reader : ReaderId) (last : ((fresh url).run past).connection.reader = some reader) :
      task ≠ .reader reader ∧
        (((fresh url).run past).isDone reader = false → ((fresh url).run past).link.Spares reader) := by
    obtain ⟨other, finished⟩ := apart reader last
    refine ⟨other, fun undone => run_spares (fresh_tidy url) (fresh_spares url reader) fun member => ?_⟩
    rw [finished member] at undone
    contradiction
  obtain ⟨left, advance, rested, closings⟩ := disconnect_advance spares
  exact ⟨left, run_tidy url past, outside, advance, rested, closings⟩

/-- A call that gives the connection up, made by another task than the last reader's, which is not told to stop, tears
everything down whatever has become of the connection, unless that reader goes on after it has given it up itself, and as
long as no call opens it. The call never fails, it can always go on, and with its last step it ends every channel. -/
theorem disconnect_tears_down (url : Text) (past : List Event) (task : Task)
    (unopening : ∀ entry ∈ ((fresh url).run past).calls, entry.2.stage ≠ .connecting)
    (apart : ∀ reader, ((fresh url).run past).connection.reader = some reader →
      task ≠ .reader reader ∧ (.disconnect (.reader reader) ∈ past → ((fresh url).run past).isDone reader = true))
    (going : ((fresh url).run past).isCancelling task = false) {later : List Event}
    (unasked : ∀ other, .connect other ∉ later) :
    let before := (fresh url).run past
    let start := before.disconnect task
    TearsDown before task later (before.teardown task later) (comesTo start.2 start.1 later) (start.1.run later) := by
  obtain ⟨left, parting⟩ := run_parting url past unopening apart going
  exact parting.tearsDown unasked

def requesting : List Event :=
  [.subscribe .application (some "feed") none [], .connect .application, .resume 0 (.ok ()), .turn 0] ++
    Event.arrival [("event", .text "pusher:connection_established")]

def stopping : List Event := [.unwind 0, .jam 0 "broken", .resume 2 (.ok ()), .resume 3 (.ok ())]

/-- The socket is closed once, and the channel ends without a word. -/
theorem disconnect_tears_down_requesting :
    let before := (fresh "url").run requesting
    let now := (before.disconnect .application).1.run stopping
    now.closings = [1] ∧ now.isConnected = false ∧
      now.reading? 0 = some (.finished .cancelled) ∧ (now.disconnect .application).2 = .done (.ok none) := by
  intro before now
  have apart : ∀ reader, before.connection.reader = some reader → Task.application ≠ .reader reader ∧
      (.disconnect (.reader reader) ∈ requesting → before.isDone reader = true) :=
    fun _ _ => ⟨nofun, by simp [requesting, Event.arrival]⟩
  have torn := disconnect_tears_down "url" requesting .application (by decide +kernel) apart rfl
    (by simp [stopping] : ∀ other, .connect other ∉ stopping)
  have isOver : comesTo (before.disconnect .application).2 (before.disconnect .application).1 stopping = .done (.ok none) := by
    have ends : (comesTo (before.disconnect .application).2 (before.disconnect .application).1 stopping).isOver = true := by
      decide +kernel
    cases comes : comesTo (before.disconnect .application).2 (before.disconnect .application).1 stopping with
    | done result => rw [(torn.succeeds result comes).1]
    | suspended call =>
      rw [comes] at ends
      contradiction
  have once := torn.once isOver (by decide +kernel) (by simp [stopping])
  exact ⟨once.trans (by decide +kernel), (torn.down isOver).2,
    (torn.stopped isOver 0 (by decide +kernel)).2 (by decide +kernel), (torn.again isOver .application).1⟩

/-- A reader that is stopped while it closes its own socket leaves nothing to be closed. -/
example :
    let before := (fresh "url").run (requesting ++
      [.disconnect (.reader 0), .resume 2 (.ok ()), .disconnect .application, .unwind 0])
    before.connection.socket = none ∧ before.closings = [1] ∧ (before.disconnect .application).1.closings = [1] := by
  decide +kernel

/-- The reader gives the connection up itself while its request is being sent, and goes on. -/
def selfInflicted : List Event :=
  requesting ++ [.disconnect (.reader 0), .resume 2 (.ok ()), .resume 3 (.ok ()), .resume 1 (.ok ())]

private theorem disconnect_of_barred {reader : ReaderId} (last : client.connection.reader = some reader)
    (undone : client.isDone reader = false) (barred : client.connection.barred = true) :
    (client.disconnect task).2 = .done (.error .barredReader) := by
  have last : client.givingUp.connection.reader = some reader := last
  have undone : client.givingUp.isDone reader = false := undone
  have barred : client.givingUp.connection.barred = true := barred
  simp only [disconnect, last, undone, barred, Bool.false_eq_true, if_false, if_true]

/-- Two calls wait for the same reader to stop, and close its socket. -/
def closingTwice : List Event :=
  [.disconnect .application, .unwind 0, .resume 1 (.ok ()), .resume 2 (.ok ()), .resume 3 (.ok ())]

/-- Nobody can wait any more for a reader that has given the connection up itself, so that fails from then on. And a socket
is closed once by each call that comes to it before another has forgotten it. -/
theorem disconnect_fails_or_closes_twice :
    (let before := (fresh "url").run selfInflicted;
      (∀ entry ∈ before.calls, entry.2.stage ≠ .connecting) ∧ before.connection.reader = some 0 ∧
        before.isCancelling .application = false ∧
        (before.disconnect .application).2 = .done (.error .barredReader)) ∧
    (let before := (fresh "url").run [.connect .application, .resume 0 (.ok ())];
      (∀ entry ∈ before.calls, entry.2.stage ≠ .connecting) ∧ before.connection.reader = some 0 ∧
        (comesTo (before.disconnect .application).2 (before.disconnect .application).1 closingTwice).isOver = true ∧
        before.closedOnce = [1] ∧ ((before.disconnect .application).1.run closingTwice).closings = [2]) :=
  ⟨⟨by decide +kernel, by decide +kernel, rfl,
      disconnect_of_barred (by decide +kernel) (by decide +kernel : Client.isDone _ 0 = false) (by decide +kernel)⟩,
    by decide +kernel, by decide +kernel, by decide +kernel, by decide +kernel, by decide +kernel⟩

end Client
end Pubsub
