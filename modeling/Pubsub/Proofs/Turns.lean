import Pubsub.Proofs.Link

/-! A connection that is used in turns: it is opened only when no reader is left, and opening and giving it up do not
overlap. Then no more than one reader goes on at a time, the one that was started last, and it reads the socket that
was opened last. -/

namespace Pubsub
namespace Client

/-- Whether an event leaves the connection to be used in turns. -/
def inTurn (client : Client) : Event → Bool
  | .connect task => task = .application && client.link.dealings.isEmpty && client.readers.all Reader.done
  | .disconnect task => task = .application && client.link.dealings.isEmpty
  | _ => true

def opens (client : Client) : Event → Bool
  | .resume call (.ok ()) => client.canResume call && (client.call? call).any (·.stage = .connecting)
  | _ => false

end Client

def Event.givesUp : Event → Bool
  | .disconnect _ => true
  | _ => false

/-- Whether an event has the socket that was opened last hand over a frame that confirms the connection. -/
def Client.confirms (client : Client) : Event → Bool
  | .turn reader =>
    match client.reading? reader, client.next reader with
    | some (.idle socket), some (.frame frame) => socket + 1 = client.sockets.length && frame.confirms
    | _, _ => false
  | _ => false

/-- What has happened since a socket was opened last: whether it has handed over a frame that confirms the connection,
and whether the connection has been given up. -/
structure Latest where
  confirmed : Bool := false
  givenUp : Bool := false

def Latest.next (latest : Latest) (client : Client) (event : Event) : Latest :=
  if client.opens event then {}
  else {
    confirmed := latest.confirmed || client.confirms event
    givenUp := latest.givenUp || event.givesUp }

def Latest.after (latest : Latest) : Client → List Event → Latest
  | _, [] => latest
  | client, event :: rest => (latest.next client event).after (client.step event) rest

def Reader.AtRest (reader : Reader) : Prop := ∃ outcome, reader = { reading := .finished outcome }

/-- What the reader that goes on may be about. Before it has read anything the connection is not established. -/
def Reading.Attends (socket : SocketId) (established : Bool) : Reading → Prop
  | .starting => established = false
  | .idle current => current = socket
  | .busy current => current = socket ∧ established = true
  | .finished _ => False

def Reading.socket? : Reading → Option SocketId
  | .idle socket | .busy socket => some socket
  | _ => none

namespace Link

structure Attended (link : Link) (latest : Latest) (former : List Reader) (reading : Reading) : Prop where
  dealings : link.dealings = []
  readers : link.readers = former ++ [({ reading } : Reader)]
  rest : ∀ reader ∈ former, reader.AtRest
  reader : link.reader = some former.length
  socket : link.socket = some former.length
  attends : reading.Attends former.length link.established
  kept : link.closing = false
  unbarred : link.barred = false
  told : link.established = latest.confirmed ∧ latest.givenUp = false

structure Stopping (link : Link) (latest : Latest) (call : CallId) (former : List Reader) (reader : Reader) : Prop where
  dealings : link.dealings = [(call, ⟨.application, .disconnecting (some former.length)⟩)]
  readers : link.readers = former ++ [reader]
  rest : ∀ reader ∈ former, reader.AtRest
  stops : reader.cancelling = true ∧ reader.done = false ∨ reader = { reading := .finished .cancelled }
  reads : ∀ socket, reader.reading.socket? = some socket → socket = former.length
  down : link.established = false
  given : link.closing = true
  told : reader.done = false → latest.givenUp = true

inductive Place (link : Link) (latest : Latest) : Prop where
  | resting (dealings : link.dealings = []) (rest : ∀ reader ∈ link.readers, reader.AtRest)
      (down : link.established = false)
  | opening {call : CallId} (dealings : link.dealings = [(call, ⟨.application, .connecting⟩)])
      (rest : ∀ reader ∈ link.readers, reader.AtRest) (down : link.established = false) (kept : link.closing = false)
  | attended {former : List Reader} {reading : Reading} (attended : link.Attended latest former reading)
  | stopping {call : CallId} {former : List Reader} {reader : Reader} (stopping : link.Stopping latest call former reader)
  | closing {call : CallId} {socket : SocketId} (dealings : link.dealings = [(call, ⟨.application, .closing socket⟩)])
      (rest : ∀ reader ∈ link.readers, reader.AtRest) (down : link.established = false) (given : link.closing = true)

private theorem modify_last {former : List Reader} {reader : Reader} (update : Reader → Reader) :
    (former ++ [reader]).modify former.length update = former ++ [update reader] := by
  induction former with
  | nil => rfl
  | cons first rest ih => exact congrArg (first :: ·) ih

end Link

namespace Client

theorem fresh_place (url : Text) : (fresh url).link.Place {} := .resting rfl nofun rfl

end Client

namespace Link
variable {link : Link} {latest : Latest}

theorem isDone_of_atRest {reader : Reader} (rest : reader.AtRest) : reader.done = true ∧ reader.cancelling = false := by
  obtain ⟨outcome, rfl⟩ := rest
  exact ⟨rfl, rfl⟩

/-- Only the reader that was started last can be going on, or told to stop. -/
theorem last_of_append {former : List Reader} {last state : Reader} (rest : ∀ reader ∈ former, reader.AtRest)
    {reader : ReaderId} (found : (former ++ [last])[reader]? = some state) (unrest : ¬state.AtRest) :
    reader = former.length ∧ state = last := by
  by_cases inside : reader < former.length
  · rw [List.getElem?_append_left inside] at found
    exact absurd (rest state (List.mem_of_getElem? found)) unrest
  · obtain ⟨bound, _⟩ := List.getElem?_eq_some_iff.mp found
    rw [List.length_append, List.length_singleton] at bound
    have same : reader = former.length := Nat.le_antisymm (Nat.le_of_lt_succ bound) (Nat.le_of_not_lt inside)
    subst same
    rw [List.getElem?_concat_length] at found
    exact ⟨rfl, (Option.some.inj found).symm⟩

theorem Attended.ends {former : List Reader} {reading : Reading} (attended : link.Attended latest former reading) {after : Link}
    (ends : link.Ends former.length after) (later : Latest) : after.Place later := by
  obtain ⟨outcome, rfl⟩ := ends
  refine .resting attended.dealings ?_ rfl
  rw [set, attended.readers, modify_last]
  intro reader member
  rcases List.mem_append.mp member with old | last
  · exact attended.rest reader old
  · exact ⟨outcome, List.mem_singleton.mp last⟩

theorem Attended.reads {former : List Reader} {reading next : Reading} (attended : link.Attended latest former reading)
    {established : Bool} (attends : next.Attends former.length established) {later : Latest}
    (told : established = later.confirmed ∧ later.givenUp = false) :
    ({ link with established }.set former.length next).Attended later former next where
  dealings := attended.dealings
  readers := by rw [set, attended.readers, modify_last]
  rest := attended.rest
  reader := attended.reader
  socket := attended.socket
  attends := attends
  kept := attended.kept
  unbarred := attended.unbarred
  told := told

/-- A reader that goes on attends the connection. -/
theorem Place.going (place : link.Place latest) {reader : ReaderId} {state : Reader} (found : link.readers[reader]? = some state)
    (undone : state.done = false) (going : state.cancelling = false) :
    ∃ former reading, reader = former.length ∧ state = { reading } ∧ link.Attended latest former reading := by
  have unrest : ¬state.AtRest := fun rest => by simp [(isDone_of_atRest rest).1] at undone
  cases place with
  | resting _ rest | opening _ rest | closing _ rest => exact absurd (rest state (List.mem_of_getElem? found)) unrest
  | attended attended =>
    obtain ⟨rfl, rfl⟩ := last_of_append attended.rest (attended.readers ▸ found) unrest
    exact ⟨_, _, rfl, rfl, attended⟩
  | stopping stopping =>
    obtain ⟨rfl, rfl⟩ := last_of_append stopping.rest (stopping.readers ▸ found) unrest
    rcases stopping.stops with ⟨cancelling, _⟩ | rfl
    · rw [going] at cancelling
      contradiction
    · exact absurd ⟨_, rfl⟩ unrest

/-- A reader that is told to stop is waited for. -/
theorem Place.told (place : link.Place latest) {reader : ReaderId} {state : Reader} (found : link.readers[reader]? = some state)
    (told : state.cancelling = true) :
    ∃ call former, reader = former.length ∧ link.Stopping latest call former state ∧ state.done = false := by
  have unrest : ¬state.AtRest := fun rest => by simp [(isDone_of_atRest rest).2] at told
  cases place with
  | resting _ rest | opening _ rest | closing _ rest => exact absurd (rest state (List.mem_of_getElem? found)) unrest
  | attended attended =>
    obtain ⟨rfl, rfl⟩ := last_of_append attended.rest (attended.readers ▸ found) unrest
    contradiction
  | stopping stopping =>
    obtain ⟨rfl, rfl⟩ := last_of_append stopping.rest (stopping.readers ▸ found) unrest
    rcases stopping.stops with ⟨_, undone⟩ | rfl
    · exact ⟨_, _, rfl, stopping, undone⟩
    · contradiction

/-- Where no call opens the connection or gives it up, it rests or is attended. -/
theorem Place.free (place : link.Place latest) (none : link.dealings = []) :
    ((∀ reader ∈ link.readers, reader.AtRest) ∧ link.established = false) ∨
      ∃ former reading, link.Attended latest former reading := by
  cases place with
  | resting _ rest down => exact .inl ⟨rest, down⟩
  | attended attended => exact .inr ⟨_, _, attended⟩
  | opening dealings | closing dealings =>
    rw [none] at dealings
    contradiction
  | stopping stopping =>
    have dealings := stopping.dealings
    rw [none] at dealings
    contradiction

theorem Attended.reading {former : List Reader} {reading : Reading} (attended : link.Attended latest former reading)
    {socket : SocketId} (reads : reading.socket? = some socket) : socket = former.length := by
  have attends := attended.attends
  cases reading with
  | idle current =>
    cases reads
    exact attends
  | busy current =>
    cases reads
    exact attends.1
  | _ => contradiction

theorem Attended.undone {former : List Reader} {reading : Reading} (attended : link.Attended latest former reading) :
    ({ reading } : Reader).done = false := by
  have attends := attended.attends
  cases reading with
  | finished => exact attends.elim
  | _ => rfl

end Link

namespace Client
variable {client : Client} {latest : Latest}

theorem undone_found {reader : ReaderId} (undone : client.isDone reader = false) :
    ∃ state, client.readers[reader]? = some state ∧ state.done = false := by
  unfold isDone at undone
  cases found : client.readers[reader]? with
  | none => simp [found] at undone
  | some state => exact ⟨state, rfl, by simpa [found] using undone⟩

/-- A reader that is neither done nor told to stop is the one that attends the connection. -/
theorem attended_of_undone (place : client.link.Place latest) {reader : ReaderId} (undone : client.isDone reader = false)
    (going : client.isCancelling (.reader reader) = false) :
    ∃ former reading, reader = List.length former ∧ client.reading? reader = some reading ∧
      client.link.Attended latest former reading := by
  obtain ⟨state, found, unfinished⟩ := undone_found undone
  have uncancelled : state.cancelling = false := by simpa [isCancelling, found] using going
  obtain ⟨former, reading, rfl, rfl, attended⟩ := place.going found unfinished uncancelled
  exact ⟨former, reading, rfl, by rw [reading?, found, Option.map_some], attended⟩

/-- The reader that goes on was started for the socket that was opened last. -/
theorem sockets_of_readers (paired : client.Paired) {former : List Reader} {reader : Reader}
    (readers : client.readers = former ++ [reader]) : client.sockets.length = former.length + 1 := by
  rw [show client.sockets.length = client.readers.length from paired, readers, List.length_append, List.length_singleton]

theorem told_found {reader : ReaderId} (told : client.isCancelling (.reader reader) = true) :
    ∃ state, client.readers[reader]? = some state ∧ state.cancelling = true := by
  simpa [isCancelling, Option.any_eq_true] using told

private theorem confirms_of_unread {reader : ReaderId}
    (unread : ∀ socket, client.reading? reader ≠ some (.idle socket)) :
    client.confirms (.turn reader) = false := by
  simp only [Client.confirms]
  split
  next socket _ idle _ => exact absurd idle (unread socket)
  · rfl

theorem turn_of_unread {reader : ReaderId} {socket : SocketId} (idle : client.reading? reader = some (.idle socket))
    (going : client.isCancelling (.reader reader) = false) (unread : client.next reader = none) :
    (client.turn reader).1 = client := by
  simp only [turn, idle]
  split
  next arrival rest arrived =>
    obtain ⟨state, found, waiting⟩ := Option.map_eq_some_iff.mp arrived
    simp [Client.next, going, idle, found, waiting] at unread
  · rfl

/-- A turn of the reader of the socket that was opened last. -/
theorem turn_link_of_idle {reader : ReaderId} {socket : SocketId} (idle : client.reading? reader = some (.idle socket))
    (going : client.isCancelling (.reader reader) = false) (last : socket + 1 = client.sockets.length) :
    ((client.turn reader).1.link = client.link ∧ client.confirms (.turn reader) = false) ∨
      (client.link.Confirms reader socket (client.turn reader).1.link ∧ client.confirms (.turn reader) = true) ∨
      client.link.Ends reader (client.turn reader).1.link := by
  cases next : client.next reader with
  | none =>
    have nothing := turn_of_unread idle going next
    exact .inl ⟨congrArg Client.link nothing, by simp [Client.confirms, idle, next]⟩
  | some arrival =>
    obtain ⟨current, rest, reads, _, turned⟩ := turn_of_next next
    obtain rfl : socket = current := by simpa [idle] using reads
    have left := leave_link client socket rest
    rw [turned, ← left]
    cases arrival with
    | ending ending => exact .inr (.inr (take_ends _ reader socket ending))
    | frame frame =>
      have told : client.confirms (.turn reader) = frame.confirms := by simp [Client.confirms, idle, next, last]
      rw [told]
      cases confirms : frame.confirms with
      | true => exact .inr ((handle_link_of_confirms _ confirms reader socket).imp_left (⟨·, rfl⟩))
      | false => exact (handle_link_of_other _ confirms reader socket).imp (⟨·, rfl⟩) .inr

private theorem turn_place (paired : client.Paired) (place : client.link.Place latest) {reader : ReaderId}
    (going : client.isCancelling (.reader reader) = false) :
    (client.turn reader).1.link.Place
      { latest with confirmed := latest.confirmed || client.confirms (.turn reader) } := by
  have unread (none : ∀ socket, client.reading? reader ≠ some (.idle socket)) {link : Link} (same : link.Place latest) :
      link.Place { latest with confirmed := latest.confirmed || client.confirms (.turn reader) } := by
    rw [confirms_of_unread none, Bool.or_false]
    exact same
  cases done : client.isDone reader with
  | true =>
    rw [turn_of_done client done]
    refine unread ?_ place
    intro socket idle
    obtain ⟨state, found, reads⟩ := Option.map_eq_some_iff.mp idle
    simp [isDone, found, Reader.done, reads] at done
  | false =>
    obtain ⟨former, reading, rfl, reads, attended⟩ := attended_of_undone place done going
    cases reading with
    | starting =>
      refine unread (by simp [reads]) ?_
      have socket : client.connection.socket = some former.length := attended.socket
      simp only [turn, reads, socket]
      have idle : Reading.Attends former.length client.link.established (.idle former.length) := rfl
      exact .attended (attended.reads idle attended.told)
    | idle current =>
      obtain rfl : current = former.length := attended.attends
      have readers : client.readers = former ++ [({ reading := .idle former.length } : Reader)] := attended.readers
      have last := (sockets_of_readers paired readers).symm
      rcases turn_link_of_idle reads going last with ⟨same, silent⟩ | ⟨⟨next, either, confirmed⟩, told⟩ | ends
      · rw [silent, Bool.or_false]
        exact same ▸ place
      · have up : true = (latest.confirmed || true) ∧ latest.givenUp = false :=
          ⟨(Bool.or_true _).symm, attended.told.2⟩
        rw [confirmed, told]
        rcases either with rfl | rfl
        · have reads : Reading.Attends former.length true (.idle former.length) := rfl
          exact .attended (attended.reads reads up)
        · have reads : Reading.Attends former.length true (.busy former.length) := ⟨rfl, rfl⟩
          exact .attended (attended.reads reads up)
      · exact attended.ends ends _
    | busy current =>
      refine unread (by simp [reads]) ?_
      simp only [turn, reads]
      exact place
    | finished outcome => exact attended.attends.elim

private theorem filter_task_of_application {call : CallId} {stage : Stage} (reader : ReaderId) :
    [(call, (⟨.application, stage⟩ : Call))].filter (·.2.task ≠ Task.reader reader) =
      [(call, ⟨.application, stage⟩)] := by
  simp

private theorem unwind_place (place : client.link.Place latest) {reader : ReaderId}
    (told : client.isCancelling (.reader reader) = true) :
    (client.unwind reader).link.Place latest := by
  obtain ⟨state, found, cancelling⟩ := told_found told
  obtain ⟨call, former, rfl, stopping, undone⟩ := place.told found cancelling
  obtain ⟨socket, left, _⟩ := abandon_link client former.length
  rw [stopping.readers, Link.modify_last, stopping.dealings, filter_task_of_application, ← stopping.dealings] at left
  have finished : (client.unwind former.length).link = { client.link with
      socket, established := false, readers := former ++ [({ reading := .finished .cancelled } : Reader)] } := by
    unfold unwind
    dsimp only
    split
    · have same : client.link.established = false := stopping.down
      change (client.abandon former.length).link.set former.length (.finished .cancelled) = _
      rw [left, Link.set, Link.modify_last, ← same]
    · obtain ⟨final, ended, kept⟩ := finish_link (client.abandon former.length) former.length .cancelled
      rw [left] at ended kept
      rw [ended, kept stopping.given, Link.set, Link.modify_last]
  rw [finished]
  exact .stopping ⟨stopping.dealings, rfl, stopping.rest, .inr rfl, (fun _ attached => by cases attached), rfl,
    stopping.given, (fun undone => by cases undone)⟩

private theorem closeSocket_place (none : client.link.dealings = [])
    (rest : ∀ reader ∈ client.link.readers, reader.AtRest)
    (down : client.link.established = false) (given : client.link.closing = true) :
    (client.closeSocket .application).1.link.Place latest := by
  unfold closeSocket
  split
  · exact .resting ((tearDown_link client).symm ▸ none) ((tearDown_link client).symm ▸ rest)
      ((tearDown_link client).symm ▸ down)
  next socket found =>
    let closed : Client := { client with
      sockets := client.sockets.modify socket fun socket => { socket with closes := socket.closes + 1 } }
    have same : closed.link = client.link := by simp [closed, link]
    have suspended := suspend_link_of_deals closed .application (rfl : (Stage.closing socket).deals = true)
    rw [same] at suspended
    change (closed.suspend .application (.closing socket)).1.link.Place latest
    rw [suspended]
    exact .closing (by rw [none]; rfl) rest down given

private theorem connect_place (place : client.link.Place latest) {task : Task}
    (inTurn : client.inTurn (.connect task) = true) :
    (client.connect task).1.link.Place latest := by
  simp only [Client.inTurn, Bool.and_eq_true, decide_eq_true_eq, List.isEmpty_iff, List.all_eq_true] at inTurn
  obtain ⟨⟨rfl, none⟩, done⟩ := inTurn
  rw [connect_link]
  rcases place.free none with ⟨rest, down⟩ | ⟨former, reading, attended⟩
  · exact .opening (by rw [none]; rfl) rest down rfl
  · have readers : client.readers = former ++ [({ reading } : Reader)] := attended.readers
    have last := done { reading } (readers ▸ List.mem_append_right former (List.mem_singleton_self _))
    rw [attended.undone] at last
    contradiction

private theorem waitsForReader_of_free (none : client.link.dealings = []) (reader : ReaderId) :
    client.waitsForReader reader = false := by
  refine List.any_eq_false.mpr ?_
  rintro ⟨number, task, stage⟩ member waits
  have aside : ¬stage.deals = true := List.filter_eq_nil_iff.mp none _ member
  cases stage <;> simp [Stage.deals] at aside waits

/-- There is nobody to wait for if the reader that was started last has finished. -/
theorem disconnect_of_done (done : ∀ reader, client.connection.reader = some reader → client.isDone reader = true)
    (task : Task) : client.disconnect task = client.givingUp.closeSocket task := by
  unfold disconnect
  dsimp only
  split
  · rfl
  next reader found =>
    have stopped : client.givingUp.isDone reader = true := done reader found
    rw [if_pos stopped]

theorem disconnect_of_rest (rest : ∀ reader ∈ client.link.readers, reader.AtRest) (task : Task) :
    client.disconnect task = client.givingUp.closeSocket task := by
  refine disconnect_of_done (fun reader _ => ?_) task
  unfold isDone
  cases here : client.readers[reader]? with
  | none => rfl
  | some state => exact (Link.isDone_of_atRest (rest state (List.mem_of_getElem? here))).1

/-- A reader that attends the connection is told to stop, and waited for. -/
theorem disconnect_of_attended {former : List Reader} {reading : Reading}
    (attended : client.link.Attended latest former reading) :
    client.disconnect .application =
      (({ client.givingUp with readers := former ++ [({ reading, cancelling := true } : Reader)] }.suspend .application
        (.disconnecting (some former.length))).1, .suspended client.nextCall) := by
  have current : client.givingUp.connection.reader = some former.length := attended.reader
  have readers : client.givingUp.readers = former ++ [({ reading } : Reader)] := attended.readers
  have undone : client.givingUp.isDone former.length = false := by
    rw [isDone, readers, List.getElem?_concat_length, Option.all_some, attended.undone]
  have unbarred : client.givingUp.connection.barred = false := attended.unbarred
  have waits : client.givingUp.waitsForReader former.length = false := waitsForReader_of_free attended.dealings _
  have cancelled : client.givingUp.cancel former.length = { client.givingUp with
      readers := former ++ [({ reading, cancelling := true } : Reader)] } := by
    simp only [cancel, waits, Bool.false_eq_true, if_false]
    rw [readers, Link.modify_last]
  simp only [disconnect, current, undone, unbarred, Bool.false_eq_true, if_false, reduceCtorEq, cancelled]
  rfl

private theorem disconnect_link_of_attended {former : List Reader} {reading : Reading}
    (attended : client.link.Attended latest former reading) :
    (client.disconnect .application).1.link = { client.link with
      closing := true, established := false
      readers := former ++ [({ reading, cancelling := true } : Reader)]
      dealings := [(client.nextCall, ⟨.application, .disconnecting (some former.length)⟩)] } := by
  have none : ({ client.givingUp with
      readers := former ++ [({ reading, cancelling := true } : Reader)] } : Client).link.dealings = [] := attended.dealings
  rw [disconnect_of_attended attended, suspend_link_of_deals _ .application rfl, none]
  rfl

private theorem disconnect_place (place : client.link.Place latest) {task : Task}
    (inTurn : client.inTurn (.disconnect task) = true) :
    (client.disconnect task).1.link.Place { latest with givenUp := true } := by
  simp only [Client.inTurn, Bool.and_eq_true, decide_eq_true_eq, List.isEmpty_iff] at inTurn
  obtain ⟨rfl, none⟩ := inTurn
  rcases place.free none with ⟨rest, _⟩ | ⟨former, reading, attended⟩
  · rw [disconnect_of_rest rest]
    exact closeSocket_place none rest rfl rfl
  · rw [disconnect_link_of_attended attended]
    exact .stopping ⟨rfl, rfl, attended.rest, .inl ⟨rfl, attended.undone⟩, fun _ => attended.reading, rfl, rfl, fun _ => rfl⟩

theorem drop_link_of_aside (ordered : client.Ordered) {call : CallId} {held : Call}
    (found : client.call? call = some held) (aside : held.stage.deals = false) :
    (client.drop call).link = client.link := by
  have kept : client.link.dealings.filter (·.1 != call) = client.link.dealings := by
    refine List.filter_eq_self.mpr ?_
    intro entry member
    obtain ⟨inside, deals⟩ := List.mem_filter.mp member
    refine bne_iff_ne.mpr ?_
    intro same
    rw [ordered.unique inside (call?_mem found) same, aside] at deals
    contradiction
  rw [drop_link, kept]

private theorem held_of_deals {call number : CallId} {held only : Call} (found : client.call? call = some held)
    (deals : held.stage.deals = true) (dealings : client.link.dealings = [(number, only)]) :
    call = number ∧ held = only := by
  have member : (call, held) ∈ client.link.dealings := List.mem_filter.mpr ⟨call?_mem found, deals⟩
  rw [dealings] at member
  exact Prod.mk.inj (List.mem_singleton.mp member)

end Client

/-- The one call that can open the connection or give it up, and where the connection stands then. -/
inductive Link.Dealing (link : Link) (latest : Latest) (call : CallId) : Call → Prop where
  | opening (dealings : link.dealings = [(call, ⟨.application, .connecting⟩)])
      (rest : ∀ reader ∈ link.readers, reader.AtRest) (down : link.established = false) (kept : link.closing = false) :
      Dealing link latest call ⟨.application, .connecting⟩
  | stopping {former : List Reader} {reader : Reader} (stopping : link.Stopping latest call former reader) :
      Dealing link latest call ⟨.application, .disconnecting (some former.length)⟩
  | closing {socket : SocketId} (dealings : link.dealings = [(call, ⟨.application, .closing socket⟩)])
      (rest : ∀ reader ∈ link.readers, reader.AtRest) (down : link.established = false) (given : link.closing = true) :
      Dealing link latest call ⟨.application, .closing socket⟩

namespace Client
variable {client : Client} {latest : Latest}

theorem dealing_of_held (place : client.link.Place latest) {call : CallId} {held : Call}
    (found : client.call? call = some held) (deals : held.stage.deals = true) : client.link.Dealing latest call held := by
  have busy : client.link.dealings ≠ [] :=
    List.ne_nil_of_mem (List.mem_filter.mpr ⟨call?_mem found, deals⟩)
  cases place with
  | resting none => exact absurd none busy
  | attended attended => exact absurd attended.dealings busy
  | opening dealings rest down kept =>
    obtain ⟨rfl, rfl⟩ := held_of_deals found deals dealings
    exact .opening dealings rest down kept
  | stopping stopping =>
    obtain ⟨rfl, rfl⟩ := held_of_deals found deals stopping.dealings
    exact .stopping stopping
  | closing dealings rest down given =>
    obtain ⟨rfl, rfl⟩ := held_of_deals found deals dealings
    exact .closing dealings rest down given

private theorem drop_link_of_only {call : CallId} {only : Call} (dealings : client.link.dealings = [(call, only)]) :
    (client.drop call).link = { client.link with dealings := [] } := by
  rw [drop_link, dealings]
  simp

/-- Once the reader that is told to stop has stopped, the socket is closed. -/
theorem resume_of_stopping {call : CallId} {former : List Reader} {last : Reader}
    (stopping : client.link.Stopping latest call former last)
    (held : client.call? call = some ⟨.application, .disconnecting (some former.length)⟩)
    (ready : client.isDone former.length = true) (outcome : Except Error Unit) :
    client.resume call outcome = (client.drop call).closeSocket .application ∧
      ∀ reader ∈ client.link.readers, reader.AtRest := by
  have readers : client.readers = former ++ [last] := stopping.readers
  have stopped : last = { reading := .finished .cancelled } := by
    rcases stopping.stops with ⟨_, undone⟩ | stopped
    · simp [isDone, readers, undone] at ready
    · exact stopped
  have reads : (client.drop call).reading? former.length = some (.finished .cancelled) := by
    change client.reading? former.length = _
    simp [reading?, readers, stopped]
  refine ⟨by simp only [resume, held, Option.bind_some, reads], ?_⟩
  intro reader member
  rcases List.mem_append.mp (stopping.readers ▸ member) with old | last
  · exact stopping.rest reader old
  · exact ⟨.cancelled, (List.mem_singleton.mp last).trans stopped⟩

private theorem passOn_place (place : client.link.Place latest) {result : Client × Progress}
    (same : result.1.link = client.link)
    {reader : Option ReaderId} (going : ∀ waiting, reader = some waiting → client.isCancelling (.reader waiting) = false) :
    (passOn reader result).1.link.Place latest := by
  rcases passOn_link reader result with unchanged | ⟨waiting, socket, rfl, busy, settled⟩
  · exact (unchanged.trans same).symm ▸ place
  · have readers : result.1.readers = client.readers := congrArg Link.readers same
    obtain ⟨state, found, reads⟩ := Option.map_eq_some_iff.mp busy
    rw [readers] at found
    have undone : state.done = false := by rw [Reader.done, reads]
    have uncancelled : state.cancelling = false := by simpa [isCancelling, found] using going waiting rfl
    obtain ⟨former, reading, rfl, rfl, attended⟩ := place.going found undone uncancelled
    obtain rfl : reading = .busy socket := reads
    obtain ⟨rfl, _⟩ := attended.attends
    rw [same] at settled
    rcases settled with idle | ends
    · have reads : Reading.Attends former.length client.link.established (.idle former.length) := rfl
      exact idle ▸ .attended (attended.reads reads attended.told)
    · exact attended.ends ends latest

private theorem resume_place (tidy : client.Tidy) (place : client.link.Place latest) {call : CallId}
    {outcome : Except Error Unit}
    (possible : client.possible (.resume call outcome) = true) : (client.resume call outcome).1.link.Place
      (if client.opens (.resume call outcome) then {} else latest) := by
  obtain ⟨⟨task, stage⟩, held⟩ := Option.isSome_iff_exists.mp (present_of_possible possible)
  have aside (none : stage.deals = false) : (client.drop call).link = client.link :=
    drop_link_of_aside tidy.ordered held none
  have goes : client.canResume call = true := possible
  have kept (other : stage ≠ .connecting) {link : Link} (place : link.Place latest) :
      link.Place (if client.opens (.resume call outcome) then {} else latest) := by
    have unopened : client.opens (.resume call outcome) = false := by
      cases outcome <;> simp [Client.opens, held, other]
    rw [unopened]
    exact place
  simp only [Client.possible, canResume, held, Bool.and_eq_true, Bool.not_eq_true'] at possible
  obtain ⟨going, ready⟩ := possible
  cases stage with
  | subscribing channel =>
    refine kept (by simp) ?_
    simp only [resume, held]
    cases outcome with
    | ok => exact (aside rfl).symm ▸ place
    | error error => exact ((Quiet.rollBack _ channel).link.trans (aside rfl)).symm ▸ place
  | unsubscribing | messaging =>
    simp only [resume, held]
    exact kept (by simp) ((aside rfl).symm ▸ place)
  | resubscribing channel rest reader =>
    refine kept (by simp) ?_
    obtain ⟨_, own⟩ := tidy.proper _ (call?_mem held)
    have waits (waiting : ReaderId) (same : reader = some waiting) : client.isCancelling (.reader waiting) = false :=
      own waiting same ▸ going
    simp only [resume, held]
    cases outcome with
    | ok => exact passOn_place place ((resubscribe_link _ task reader rest).trans (aside rfl)) waits
    | error error => exact passOn_place place ((Quiet.rollBack _ channel).link.trans (aside rfl)) waits
  | connecting =>
    obtain ⟨dealings, rest, down, unclosed⟩ := dealing_of_held place held rfl
    have dropped := drop_link_of_only dealings
    simp only [resume, held]
    cases outcome with
    | ok =>
      have opened : client.opens (.resume call (.ok ())) = true := by simp [Client.opens, goes, held]
      rw [opened_link, dropped, if_pos opened]
      exact .attended ⟨rfl, rfl, rest, rfl, congrArg some tidy.paired, down, unclosed, rfl, down, rfl⟩
    | error error => exact dropped ▸ .resting rfl rest down
  | disconnecting reader =>
    refine kept (by simp) ?_
    obtain _ | stopping := dealing_of_held place held rfl
    obtain ⟨closes, rest⟩ := resume_of_stopping stopping held ready outcome
    have dropped := drop_link_of_only stopping.dealings
    rw [closes]
    exact closeSocket_place (by rw [dropped]) (by rw [dropped]; exact rest) (by rw [dropped]; exact stopping.down)
      (by rw [dropped]; exact stopping.given)
  | closing socket =>
    refine kept (by simp) ?_
    obtain _ | _ | ⟨dealings, rest, down⟩ := dealing_of_held place held rfl
    simp only [resume, held]
    rw [closed_link, drop_link_of_only dealings]
    exact .resting rfl rest down

private theorem next_of_other {event : Event} (unopened : client.opens event = false)
    (silent : client.confirms event = false)
    (kept : event.givesUp = false) : latest.next client event = latest := by
  rw [Latest.next, if_neg (by simp [unopened]), silent, kept, Bool.or_false, Bool.or_false]

private theorem next_of_impossible {event : Event} (impossible : ¬client.possible event = true) :
    latest.next client event = latest := by
  apply next_of_other
  · cases event with
    | resume call outcome =>
      have stuck : client.canResume call = false := by simpa [Client.possible] using impossible
      cases outcome <;> simp [Client.opens, stuck]
    | _ => rfl
  · cases event with
    | turn reader =>
      have told : client.isCancelling (.reader reader) = true := by simpa [Client.possible] using impossible
      simp [Client.confirms, Client.next, told]
    | _ => rfl
  · cases event with
    | disconnect task => exact absurd rfl impossible
    | _ => rfl

/-- An event that leaves the connection to be used in turns leaves it in one of the places. -/
theorem step_place {event : Event} (tidy : client.Tidy) (place : client.link.Place latest)
    (inTurn : client.inTurn event = true) : (client.step event).link.Place (latest.next client event) := by
  by_cases possible : client.possible event = true
  · cases offline : event.offline with
    | true =>
      have same : latest.next client event = latest := by
        apply next_of_other <;> cases event <;> first | rfl | contradiction
      rw [step_link_of_offline client offline, same]
      exact place
    | false =>
      rw [step, if_pos possible]
      cases event with
      | connect task =>
        rw [next_of_other rfl rfl rfl]
        exact connect_place place inTurn
      | disconnect task =>
        have given : latest.next client (.disconnect task) = { latest with givenUp := true } := by
          simp [Latest.next, Client.opens, Client.confirms, Event.givesUp]
        rw [given]
        exact disconnect_place place inTurn
      | resume call outcome =>
        have same : latest.next client (.resume call outcome) =
            if client.opens (.resume call outcome) then {} else latest := by
          simp [Latest.next, Client.confirms, Event.givesUp]
        rw [same]
        exact resume_place tidy place possible
      | turn reader =>
        have told : latest.next client (.turn reader) =
            { latest with confirmed := latest.confirmed || client.confirms (.turn reader) } := by
          simp [Latest.next, Client.opens, Event.givesUp]
        rw [told]
        exact turn_place tidy.paired place (by simpa [Client.possible] using possible)
      | unwind reader =>
        rw [next_of_other rfl rfl rfl]
        exact unwind_place place possible
      | _ => contradiction
  · rw [step, if_neg possible, next_of_impossible possible]
    exact place

theorem run_place {client : Client} {latest : Latest} (tidy : client.Tidy) (place : client.link.Place latest)
    {events : List Event} (turns : Follows Client.inTurn client events = true) :
    (client.run events).link.Place (latest.after client events) := by
  induction events generalizing client latest with
  | nil => exact place
  | cons event rest ih =>
    obtain ⟨first, later⟩ := Bool.and_eq_true_iff.mp turns
    exact ih (step_tidy event tidy) (step_place tidy place first) later

end Client
end Pubsub
