import Pubsub.Proofs.Turns

/-! Of all sockets, the latest counts, as long as the connection is used in turns. If it is opened while a reader goes
on, that reader and the new one share all that the client knows of its connection, and either can establish or lose it
for both. -/

namespace Pubsub

def Progress.isOver : Progress → Bool
  | .done _ => true
  | .suspended _ => false

namespace Client

def returns (client : Client) : Event → Bool
  | .disconnect task => (client.disconnect task).2.isOver
  | .resume call outcome =>
    client.canResume call && (client.call? call).any (·.stage.givesUp) && (client.resume call outcome).2.isOver
  | _ => false

variable {client : Client} {latest : Latest}

def goes (client : Client) : Bool := client.readers.getLast?.any (!·.done)

private theorem goes_of_rest (rest : ∀ reader ∈ client.readers, reader.AtRest) : client.goes = false := by
  unfold goes
  cases last : client.readers.getLast? with
  | none => rfl
  | some reader =>
    have done := (Link.isDone_of_atRest (rest reader (List.mem_of_getLast? last))).1
    simp [done]

private theorem goes_of_last {former : List Reader} {reader : Reader} (readers : client.readers = former ++ [reader]) :
    client.goes = !reader.done := by
  simp [goes, readers]

private theorem connected_iff (place : client.link.Place latest) :
    client.isConnected = true ↔ latest.confirmed = true ∧ latest.givenUp = false ∧ client.goes = true := by
  have lost (down : client.link.established = false) : client.isConnected = false := by
    have down : client.connection.established = false := down
    simp [isConnected, down]
  cases place with
  | resting _ rest down | opening _ rest down | closing _ rest down => simp [lost down, goes_of_rest rest]
  | attended attended =>
    have socket : client.connection.socket = some _ := attended.socket
    have established : client.connection.established = latest.confirmed := attended.told.1
    simp [isConnected, socket, established, attended.told.2, goes_of_last attended.readers, attended.undone]
  | stopping stopping =>
    have given := stopping.told
    rw [lost stopping.down, goes_of_last stopping.readers]
    refine ⟨nofun, ?_⟩
    rintro ⟨_, kept, undone⟩
    rw [given (by simpa using undone)] at kept
    contradiction

/-- Only the socket that was opened last is read. -/
theorem read_last (paired : client.Paired) (place : client.link.Place latest) {reader : ReaderId} {reading : Reading}
    (found : client.reading? reader = some reading) {socket : SocketId} (reads : reading.socket? = some socket) :
    socket + 1 = client.sockets.length := by
  obtain ⟨state, here, rfl⟩ := Option.map_eq_some_iff.mp found
  have undone : state.done = false := by
    unfold Reader.done
    split
    next finished => simp [finished, Reading.socket?] at reads
    · rfl
  have last {former : List Reader} {last : Reader} (readers : client.readers = former ++ [last])
      (same : socket = former.length) : socket + 1 = client.sockets.length := by
    rw [sockets_of_readers paired readers, same]
  cases told : state.cancelling with
  | false =>
    obtain ⟨former, _, rfl, rfl, attended⟩ := place.going here undone told
    exact last attended.readers (attended.reading reads)
  | true =>
    obtain ⟨_, former, rfl, stopping, _⟩ := place.told here told
    exact last stopping.readers (stopping.reads socket reads)

/-- Only the reader that was started last is not done. -/
theorem done_of_former (place : client.link.Place latest) {reader : ReaderId}
    (former : reader + 1 < client.readers.length) : client.isDone reader = true := by
  cases done : client.isDone reader with
  | true => rfl
  | false =>
    obtain ⟨state, found, undone⟩ := undone_found done
    have last {others : List Reader} {last : Reader} (readers : client.readers = others ++ [last]) :
        others.length + 1 = client.readers.length := by rw [readers, List.length_append, List.length_singleton]
    cases told : state.cancelling with
    | false =>
      obtain ⟨others, _, rfl, _, attended⟩ := place.going found undone told
      exact absurd (last attended.readers) (Nat.ne_of_lt former)
    | true =>
      obtain ⟨_, others, rfl, stopping, _⟩ := place.told found told
      exact absurd (last stopping.readers) (Nat.ne_of_lt former)

private theorem closeSocket_link_of_over {task : Task} (finished : (client.closeSocket task).2.isOver = true) :
    (client.closeSocket task).1.link = client.link := by
  unfold closeSocket at finished ⊢
  cases found : client.connection.socket with
  | none => exact tearDown_link client
  | some socket =>
    simp only [found] at finished
    contradiction

private theorem disconnect_rest (place : client.link.Place latest) {task : Task}
    (inTurn : client.inTurn (.disconnect task) = true)
    (finished : (client.disconnect task).2.isOver = true) : ∀ reader ∈ (client.disconnect task).1.readers, reader.AtRest := by
  simp only [Client.inTurn, Bool.and_eq_true, decide_eq_true_eq, List.isEmpty_iff] at inTurn
  obtain ⟨rfl, none⟩ := inTurn
  rcases place.free none with ⟨rest, _⟩ | ⟨former, reading, attended⟩
  · rw [disconnect_of_rest rest] at finished ⊢
    have same : (client.givingUp.closeSocket .application).1.readers = client.readers :=
      congrArg Link.readers (closeSocket_link_of_over finished)
    exact same ▸ rest
  · rw [disconnect_of_attended attended] at finished
    contradiction

private theorem resume_rest (place : client.link.Place latest) {call : CallId} {outcome : Except Error Unit}
    (returns : client.returns (.resume call outcome) = true) :
    ∀ reader ∈ (client.resume call outcome).1.readers, reader.AtRest := by
  simp only [Client.returns, Bool.and_eq_true, Option.any_eq_true] at returns
  obtain ⟨⟨goes, ⟨task, stage⟩, held, gives⟩, finished⟩ := returns
  simp only [canResume, held, Bool.and_eq_true] at goes
  have deals : stage.deals = true := by cases stage <;> first | rfl | contradiction
  cases dealing_of_held place held deals with
  | opening => contradiction
  | stopping stopping =>
    obtain ⟨closes, rest⟩ := resume_of_stopping stopping held goes.2 outcome
    rw [closes] at finished ⊢
    have same : ((client.drop call).closeSocket .application).1.readers = client.readers :=
      congrArg Link.readers (closeSocket_link_of_over finished)
    exact same ▸ rest
  | @closing socket _ rest =>
    simp only [resume, held]
    have same : ((client.drop call).closed socket).1.readers = client.readers :=
      congrArg Link.readers (closed_link (client.drop call) socket)
    exact same ▸ rest

/-- In every run of a connection that is used in turns, it is established exactly if the socket that was opened last
has handed over a frame that confirms it, the reader of that socket goes on, and it was not given up since. Sockets
that were opened before are not read any more, so whatever arrives on them changes nothing. When a call that gives the
connection up returns, no reader is left. -/
theorem latest_socket_counts (url : Text) (events : List Event) (turns : Follows inTurn (fresh url) events = true) :
    let client := (fresh url).run events
    let latest := Latest.after {} (fresh url) events
    (client.isConnected = true ↔ latest.confirmed = true ∧ latest.givenUp = false ∧ client.goes = true) ∧
    (∀ socket, socket + 1 < client.sockets.length →
      (∀ reader, (client.reading? reader).bind Reading.socket? ≠ some socket) ∧
        ∀ arrival, (client.step (.arrive socket arrival)).connection = client.connection ∧
          (client.step (.arrive socket arrival)).channels = client.channels) ∧
    (∀ reader, reader + 1 < client.readers.length → client.step (.turn reader) = client) ∧
    (∀ event, client.inTurn event = true → client.returns event = true →
      ∀ reader ∈ (client.step event).readers, reader.done = true) := by
  intro client latest
  have tidy : client.Tidy := run_tidy url events
  have place : client.link.Place latest := run_place (fresh_tidy url) (fresh_place url) turns
  refine ⟨connected_iff place, ?_, ?_, ?_⟩
  · intro socket former
    refine ⟨?_, fun arrival => ⟨rfl, rfl⟩⟩
    intro reader reads
    obtain ⟨reading, found, same⟩ := Option.bind_eq_some_iff.mp reads
    exact absurd (read_last tidy.paired place found same) (Nat.ne_of_lt former)
  · intro reader former
    refine step_induction (motive := (· = client)) rfl ?_
    intro _
    exact turn_of_done client (done_of_former place former)
  · intro event turn returns reader member
    refine (Link.isDone_of_atRest ?_).1
    cases event with
    | disconnect task => exact disconnect_rest place turn returns reader member
    | resume call outcome =>
      have goes : client.possible (.resume call outcome) = true := by
        simp only [Client.returns, Bool.and_eq_true] at returns
        exact returns.1.1
      rw [step, if_pos goes] at member
      exact resume_rest place returns reader member
    | _ => contradiction

def confirmation (socket : SocketId) : Event :=
  .arrive socket (.frame (.text (Json.object [("event", .text "pusher:connection_established")]).compact))

def reopened : List Event :=
  [.connect .application, .resume 0 (.ok ()), .turn 0, confirmation 0, .turn 0, .arrive 0 (.ending .finished), .turn 0,
    .connect .application, .resume 1 (.ok ()), .turn 1]

/-- It is established when the second socket has confirmed it. -/
theorem latest_socket_counts_reopened :
    ((fresh "url").run reopened).isConnected = false ∧
      ((fresh "url").run (reopened ++ [confirmation 1, .turn 1])).isConnected = true := by
  have first := latest_socket_counts "url" reopened (by decide +kernel)
  have second := latest_socket_counts "url" (reopened ++ [confirmation 1, .turn 1]) (by decide +kernel)
  refine ⟨?_, second.1.mpr (by decide +kernel)⟩
  rw [Bool.eq_false_iff]
  intro connected
  exact absurd (first.1.mp connected).1 (by decide +kernel)

/-- The connection is opened while the reader of an earlier socket goes on. -/
def overlapping : List Event :=
  [.connect .application, .resume 0 (.ok ()), .turn 0, .connect .application, .resume 1 (.ok ()), .turn 1]

/-- The connection is opened while the socket that was given up is being closed. -/
def reopenedEarly : List Event :=
  [.connect .application, .resume 0 (.ok ()), .turn 0, .disconnect .application, .unwind 0, .resume 1 (.ok ()),
    .connect .application, .resume 3 (.ok ()), .turn 1, .resume 2 (.ok ())]

/-- The earlier socket establishes the connection before the later one has handed over anything; its end loses the
connection that the later one has confirmed; its reader is left when the connection has been given up; and the later
one is forgotten, though its reader goes on, once the earlier one is closed. -/
theorem earlier_socket_counts :
    (let events := overlapping ++ [confirmation 0, .turn 0];
      ((fresh "url").run events).isConnected = true ∧ (Latest.after {} (fresh "url") events).confirmed = false) ∧
    (let events := overlapping ++ [confirmation 1, .turn 1, .arrive 0 (.ending .finished), .turn 0];
      ((fresh "url").run events).isConnected = false ∧ (Latest.after {} (fresh "url") events).confirmed = true ∧
        (Latest.after {} (fresh "url") events).givenUp = false ∧ ((fresh "url").run events).goes = true) ∧
    (let events := overlapping ++ [.disconnect .application, .unwind 1, .resume 2 (.ok ())];
      ((fresh "url").run events).returns (.resume 3 (.ok ())) = true ∧
        ((fresh "url").run (events ++ [.resume 3 (.ok ())])).isDone 0 = false) ∧
    (let events := reopenedEarly ++ [confirmation 1, .turn 1];
      ((fresh "url").run events).isConnected = false ∧ (Latest.after {} (fresh "url") events).confirmed = true ∧
        (Latest.after {} (fresh "url") events).givenUp = false ∧ ((fresh "url").run events).goes = true) := by
  decide +kernel

end Client
end Pubsub
