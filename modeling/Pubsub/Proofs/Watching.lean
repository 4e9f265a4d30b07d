import Pubsub.Program.Watch
import Pubsub.Proofs.Independence
import Pubsub.Proofs.Outline
import Pubsub.Proofs.Tolerance
import Pubsub.Proofs.Turns

/-! The program while it waits to be stopped. Its client is run like any other, and serves one channel through one
socket. Whatever happens, all that changes is what the reader of that socket changes. -/

namespace Pubsub.Watch
open Client

/-- What the program begins with, until its socket is open. -/
def beginning (channel : Text) (events : List Text) (closing : Option Text) : List Event :=
  [.subscribe .application (some channel) (some listener) (events.map some), .connect .application, .resume 0 (.ok ())] ++
    closing.toList.map (.jam 0)

def happens (client : Client) : Happening → List Event
  | .arrival arrival => [.arrive 0 arrival]
  | .turn => [.turn 0]
  | .sent outcome => client.calls.head?.toList.map fun (call, _) => .resume call outcome

def course : Client → List Happening → List Event
  | _, [] => []
  | client, happening :: rest => happens client happening ++ course (meet client happening) rest

def opened (channel : Text) (events : List Text) (url : Text) (closing : Option Text) : Client :=
  breakClosing (connect (subscribe channel events url).1 none).1 closing

def stopped (channel : Text) (events : List Text) (url : Text) (world : World) : Client :=
  world.happenings.foldl meet (opened channel events url world.closing)

def outset (bound : Channel) (url : Text) (closing : Option Text) : Client :=
  { fresh url with
    channels := [bound], registered := [0], connection := { url, socket := some 0, reader := some 0 }
    sockets := [{ closeError := closing }], readers := [{}], nextCall := 1 }

section
variable {channel : Text} {events : List Text} {url : Text} {bound : Channel}

private theorem subscribe_cases (channel : Text) (events : List Text) (url : Text) :
    (∃ error, subscribe channel events url = (fresh url, .done (.error error))) ∨
      ∃ bound, (fresh url).newChannel (some channel) (some listener) (events.map some) = .ok bound ∧
        subscribe channel events url = ((fresh url).register bound, .done (.ok (some 0))) := by
  cases made : (fresh url).newChannel (some channel) (some listener) (events.map some) with
  | error error => exact .inl ⟨error, subscribe_of_refused .application made⟩
  | ok bound =>
    have unsent : ((fresh url).register bound).canSend = false := rfl
    refine .inr ⟨bound, rfl, ?_⟩
    change (fresh url).subscribe .application (some channel) (some listener) (events.map some) = _
    simp only [Client.subscribe, made, unsent, Bool.false_eq_true, if_false]
    rfl

theorem subscribed_of_accepted (accepted : ∀ error, (subscribe channel events url).2 ≠ .done (.error error)) :
    ∃ bound, (fresh url).newChannel (some channel) (some listener) (events.map some) = .ok bound ∧
      subscribe channel events url = ((fresh url).register bound, .done (.ok (some 0))) := by
  rcases subscribe_cases channel events url with ⟨error, refused⟩ | subscribed
  · exact absurd (congrArg Prod.snd refused) (accepted error)
  · exact subscribed

theorem opened_eq (subscribed : subscribe channel events url = ((fresh url).register bound, .done (.ok (some 0))))
    (closing : Option Text) : ∃ records, opened channel events url closing = { outset bound url closing with records } := by
  refine ⟨(opened channel events url closing).records, ?_⟩
  rw [opened, subscribed]
  rfl

theorem opened_run (subscribed : subscribe channel events url = ((fresh url).register bound, .done (.ok (some 0))))
    (closing : Option Text) : opened channel events url closing = (fresh url).run (beginning channel events closing) := by
  have begun : (fresh url).step (.subscribe .application (some channel) (some listener) (events.map some)) =
      (fresh url).register bound := congrArg Prod.fst subscribed
  rw [opened, subscribed, beginning, run_append, run_cons, begun]
  cases closing <;> rfl

end

/-- No call is left, or it is one of the reader's own, which waits for its request to be sent. -/
inductive Engaged (client : Client) : Prop where
  | free (none : client.calls = [])
  | sending {call : CallId} {id : ChannelId} {rest : List ChannelId} {socket : SocketId}
      (only : client.calls = [(call, ⟨.reader 0, .resubscribing id rest (some 0)⟩)])
      (busy : client.readers[0]? = some { reading := .busy socket })

structure Unshaken (bound : Channel) (url : Text) (closing : Option Text) (client : Client) : Prop where
  kept : ∃ sent nextCall, client.outline = { (outset bound url closing).outline with sent, nextCall, calls := client.calls }
  engaged : Engaged client

structure Watches (bound : Channel) (url : Text) (closing : Option Text) (client : Client) : Prop
    extends Unshaken bound url closing client where
  tidy : client.Tidy
  place : ∃ latest, client.link.Place latest

variable {bound : Channel} {url : Text} {closing : Option Text} {client : Client}

theorem Unshaken.socket (unshaken : Unshaken bound url closing client) :
    ∃ incoming, client.sockets = [{ incoming, closeError := closing }] := by
  obtain ⟨_, _, kept⟩ := unshaken.kept
  have sockets : client.sockets.map Socket.outline = [{ closeError := closing }] := congrArg Client.sockets kept
  obtain ⟨socket, only, same⟩ := List.map_eq_singleton_iff.mp sockets
  have closes : socket.closes = 0 := congrArg Socket.closes same
  have closeError : socket.closeError = closing := congrArg Socket.closeError same
  exact ⟨socket.incoming, by rw [only, ← closes, ← closeError]⟩

theorem Unshaken.channel (unshaken : Unshaken bound url closing client) :
    ∃ channel, client.channels = [channel] ∧ channel.outline = bound.outline := by
  obtain ⟨_, _, kept⟩ := unshaken.kept
  have channels : client.channels.map Channel.outline = [bound.outline] := congrArg Client.channels kept
  exact List.map_eq_singleton_iff.mp channels

theorem Unshaken.registered (unshaken : Unshaken bound url closing client) : client.registered = [0] := by
  obtain ⟨_, _, kept⟩ := unshaken.kept
  exact congrArg Client.registered kept

theorem Unshaken.accepting (unshaken : Unshaken bound url closing client) : client.accepting = true := by
  obtain ⟨_, _, kept⟩ := unshaken.kept
  exact congrArg Client.accepting kept

theorem Unshaken.connection (unshaken : Unshaken bound url closing client) :
    client.connection.url = url ∧ client.connection.socket = some 0 ∧ client.connection.reader = some 0 := by
  obtain ⟨_, _, kept⟩ := unshaken.kept
  have connection : client.connection.outline = { url, socket := some 0, reader := some 0 } :=
    congrArg Client.connection kept
  exact ⟨congrArg Connection.url connection, congrArg Connection.socket connection, congrArg Connection.reader connection⟩

theorem Engaged.dealings (engaged : Engaged client) : client.link.dealings = [] := by
  cases engaged with
  | free none =>
    rw [link, none]
    rfl
  | sending only =>
    rw [link, only]
    rfl

/-- Its one reader attends its one socket, or is at rest. -/
theorem Watches.stands (watches : Watches bound url closing client) :
    (∃ outcome, client.readers = [{ reading := .finished outcome }]) ∨
      ∃ latest reading, client.link.Attended latest [] reading := by
  obtain ⟨latest, place⟩ := watches.place
  obtain ⟨incoming, sockets⟩ := watches.socket
  have paired : client.sockets.length = client.readers.length := watches.tidy.paired
  rw [sockets] at paired
  rcases place.free watches.engaged.dealings with ⟨rest, _⟩ | ⟨former, reading, attended⟩
  · obtain ⟨reader, only⟩ := List.length_eq_one_iff.mp paired.symm
    have member : reader ∈ client.readers := only ▸ List.mem_singleton_self reader
    obtain ⟨outcome, rfl⟩ := rest reader member
    exact .inl ⟨outcome, only⟩
  · have last := sockets_of_readers watches.tidy.paired attended.readers
    rw [sockets] at last
    obtain rfl : former = [] := List.length_eq_zero_iff.mp (Nat.succ.inj last).symm
    exact .inr ⟨latest, reading, attended⟩

theorem Watches.reader (watches : Watches bound url closing client) : ∃ reading, client.readers = [{ reading }] := by
  rcases watches.stands with ⟨outcome, readers⟩ | ⟨_, reading, attended⟩
  · exact ⟨.finished outcome, readers⟩
  · exact ⟨reading, attended.readers⟩

private theorem Unshaken.of_still {after : Client} (unshaken : Unshaken bound url closing client)
    (outline : after.outline = client.outline) (readers : after.readers = client.readers) :
    Unshaken bound url closing after := by
  obtain ⟨sent, nextCall, kept⟩ := unshaken.kept
  have calls := calls_of_outline outline
  refine ⟨⟨sent, nextCall, ?_⟩, ?_⟩
  · rw [outline, calls]
    exact kept
  · cases unshaken.engaged with
    | free none => exact .free (calls.trans none)
    | sending only busy => exact .sending (calls.trans only) (readers ▸ busy)

/-- A reader that does something when no call is left either leaves none, or waits for the one that it leaves. -/
theorem Unshaken.of_doing {after : Client} {sent : List Sent} {nextCall : CallId}
    (kept : client.outline = { (outset bound url closing).outline with sent, nextCall, calls := [] })
    (doing : Doing client 0 after) : Unshaken bound url closing after := by
  cases doing with
  | done same =>
    have calls : after.calls = [] := congrArg Client.calls (same.trans kept)
    refine ⟨⟨sent, nextCall, ?_⟩, .free calls⟩
    rw [calls]
    exact same.trans kept
  | @asks middle same socket busy id rest channel wire =>
    let after := middle.asking (.reader 0) (.resubscribing id rest (some 0)) id channel wire
    have none : middle.calls = [] := congrArg Client.calls (same.trans kept)
    obtain ⟨handed, outlined⟩ := asking_outline middle (.reader 0) (.resubscribing id rest (some 0)) id channel wire
    have only : after.calls = [(middle.nextCall, ⟨.reader 0, .resubscribing id rest (some 0)⟩)] := by
      rw [(asking_calls middle _ _ id channel wire).1, none, List.nil_append]
    have still : after.readers[0]? = some { reading := .busy socket } := by
      obtain ⟨_, _, _, moved⟩ := Quiet.moveTo middle id .requested
      simp only [after, asking, moved]
      exact busy
    refine ⟨⟨handed, middle.nextCall + 1, ?_⟩, .sending only still⟩
    rw [only, outlined, none, same, kept]
    rfl

theorem Watches.turn (watches : Watches bound url closing client) : Unshaken bound url closing (client.turn 0).1 := by
  obtain ⟨reading, readers⟩ := watches.reader
  cases watches.engaged with
  | free none =>
    obtain ⟨sent, nextCall, kept⟩ := watches.kept
    rw [none] at kept
    have found : client.readers[0]? = some { reading := reading } := by rw [readers, List.getElem?_cons_zero]
    exact .of_doing kept (turn_doing found)
  | @sending _ _ _ socket _ busy =>
    have reads : client.reading? 0 = some (.busy socket) := by rw [reading?, busy, Option.map_some]
    simp only [Client.turn, reads]
    exact watches.toUnshaken

/-- The one call goes on. -/
theorem Unshaken.resume (unshaken : Unshaken bound url closing client) {call : CallId} {id : ChannelId} {rest : List ChannelId}
    {socket : SocketId} (only : client.calls = [(call, ⟨.reader 0, .resubscribing id rest (some 0)⟩)])
    (busy : client.readers[0]? = some { reading := .busy socket }) (outcome : Except Error Unit) :
    Unshaken bound url closing (client.resume call outcome).1 := by
  let dropped := client.drop call
  have held : client.call? call = some ⟨.reader 0, .resubscribing id rest (some 0)⟩ := by simp [call?, only]
  have here : dropped.readers[0]? = some { reading := .busy socket } := busy
  have kept : ∃ sent nextCall, dropped.outline = { (outset bound url closing).outline with sent, nextCall, calls := [] } := by
    obtain ⟨sent, nextCall, kept⟩ := unshaken.kept
    have none : dropped.calls = [] := by simp [dropped, drop, only]
    have outlined : dropped.outline = { client.outline with calls := dropped.calls } := rfl
    exact ⟨sent, nextCall, by rw [outlined, kept, none]⟩
  obtain ⟨sent, nextCall, kept⟩ := kept
  apply Unshaken.of_doing kept
  simp only [Client.resume, held]
  cases outcome with
  | ok =>
    have spares : Spares (fun _ => True) (fun _ => True) dropped (resubscribe (.reader 0) (some 0) rest dropped).1 :=
      .resubscribe dropped _ _ _
    change Doing dropped 0 (passOn (some 0) (resubscribe (.reader 0) (some 0) rest dropped)).1
    rw [passOn_of_busy (spares.reader 0 _ trivial here)]
    exact settled_doing here rest
  | error error =>
    have still : (dropped.rollBack id).reading? 0 = some (.busy socket) := by
      obtain ⟨_, _, _, quiet⟩ := Quiet.rollBack dropped id
      rw [quiet, reading?, here, Option.map_some]
    change Doing dropped 0 (passOn (some 0) (dropped.rollBack id, .done (.error error))).1
    simp only [passOn, still]
    exact .done ((settle_outline _ 0 socket _).trans (rollBack_outline dropped id))

/-- The program does nothing to its client that is not an event of it. -/
theorem Watches.meet_eq (watches : Watches bound url closing client) (happening : Happening) :
    meet client happening = client.run (happens client happening) := by
  obtain ⟨reading, readers⟩ := watches.reader
  obtain ⟨incoming, sockets⟩ := watches.socket
  have going : client.isCancelling (.reader 0) = false := by simp [isCancelling, readers]
  have last : client.sockets.length - 1 = 0 := by rw [sockets, List.length_singleton]
  have only : client.readers.length - 1 = 0 := by rw [readers, List.length_singleton]
  cases happening with
  | arrival arrival =>
    simp only [meet, last]
    rfl
  | turn =>
    have possible : client.possible (.turn 0) = true := by rw [possible, going, Bool.not_false]
    simp only [meet, only, happens, run_cons, run_nil, step, if_pos possible, perform]
  | sent outcome =>
    simp only [meet, endSend, happens]
    cases watches.engaged with
    | free none =>
      rw [none]
      rfl
    | @sending call _ _ _ only busy =>
      have possible : client.possible (.resume call outcome) = true := by
        simp [possible, canResume, call?, only, going]
      simp only [only, List.head?_cons, Option.toList_some, List.map_cons, List.map_nil, run_cons, run_nil, step, if_pos possible,
        perform]

theorem Watches.meet (watches : Watches bound url closing client) (happening : Happening) :
    Watches bound url closing (meet client happening) := by
  have unshaken : Unshaken bound url closing (Watch.meet client happening) := by
    cases happening with
    | arrival arrival => exact watches.of_still (changeSocket_outline client _ fun _ => rfl) rfl
    | turn =>
      obtain ⟨reading, readers⟩ := watches.reader
      simp only [Watch.meet, readers]
      exact watches.turn
    | sent outcome =>
      simp only [Watch.meet, endSend]
      cases watches.engaged with
      | free none =>
        rw [none]
        exact watches.toUnshaken
      | sending only busy =>
        rw [only]
        exact watches.resume only busy outcome
  obtain ⟨latest, place⟩ := watches.place
  have turns : Follows inTurn client (happens client happening) = true := by
    cases happening with
    | arrival | turn => rfl
    | sent outcome =>
      cases watches.engaged with
      | free none =>
        simp only [happens, none]
        rfl
      | sending only busy =>
        simp only [happens, only]
        rfl
  rw [watches.meet_eq] at unshaken ⊢
  exact { unshaken with tidy := watches.tidy.run _, place := ⟨_, run_place watches.tidy place turns⟩ }

private theorem Watches.meets (watches : Watches bound url closing client) (happenings : List Happening) :
    Watches bound url closing (happenings.foldl Watch.meet client) ∧
      happenings.foldl Watch.meet client = client.run (course client happenings) := by
  induction happenings generalizing client with
  | nil => exact ⟨watches, rfl⟩
  | cons happening rest ih =>
    obtain ⟨later, same⟩ := ih (watches.meet happening)
    refine ⟨later, ?_⟩
    rw [List.foldl_cons, same, course, run_append, watches.meet_eq]

theorem opened_watches {channel : Text} {events : List Text}
    (subscribed : subscribe channel events url = ((fresh url).register bound, .done (.ok (some 0)))) (closing : Option Text) :
    Watches bound url closing (opened channel events url closing) := by
  have tidy : (opened channel events url closing).Tidy := opened_run subscribed closing ▸ run_tidy url _
  obtain ⟨records, same⟩ := opened_eq subscribed closing
  rw [same] at tidy ⊢
  have attended : ({ outset bound url closing with records } : Client).link.Attended {} [] .starting :=
    ⟨rfl, rfl, nofun, rfl, rfl, rfl, rfl, rfl, rfl, rfl⟩
  exact { kept := ⟨[], 1, rfl⟩, engaged := .free rfl, tidy, place := ⟨{}, .attended attended⟩ }

/-- The client of the program is run like any other, until the program is stopped. -/
theorem stopped_watches {channel : Text} {events : List Text}
    (subscribed : subscribe channel events url = ((fresh url).register bound, .done (.ok (some 0)))) (world : World) :
    Watches bound url world.closing (stopped channel events url world) ∧
      stopped channel events url world = (opened channel events url world.closing).run
        (course (opened channel events url world.closing) world.happenings) :=
  (opened_watches subscribed world.closing).meets world.happenings

def taken : Client → List Happening → List Frame
  | _, [] => []
  | client, happening :: rest => (happens client happening).filterMap (client.read 0) ++ taken (meet client happening) rest

def submitted : Client → List Happening → List Callback
  | _, [] => []
  | client, happening :: rest =>
    ((happens client happening).flatMap client.submitted).map (·.2) ++ submitted (meet client happening) rest

/-- A happening is no event at all, or one of three. -/
theorem happens_cases {motive : List Event → Prop} (client : Client) (happening : Happening) (nothing : motive [])
    (arrives : ∀ arrival, motive [.arrive 0 arrival]) (turns : motive [.turn 0])
    (resumes : ∀ call outcome, motive [.resume call outcome]) : motive (happens client happening) := by
  cases happening with
  | arrival arrival => exact arrives arrival
  | turn => exact turns
  | sent outcome =>
    simp only [happens]
    cases client.calls with
    | nil => exact nothing
    | cons entry rest => exact resumes entry.1 outcome

private theorem frames_of_turn (client : Client) (reader : ReaderId) :
    client.frames [.turn reader] = ([.turn reader].filterMap (client.read reader)).length := by
  simp only [frames, takesFrame, List.filterMap_cons, Client.read, List.filterMap_nil, Nat.add_zero, if_true]
  cases client.next reader with
  | none => rfl
  | some arrival => cases arrival <;> rfl

theorem Watches.received (watches : Watches bound url closing client) (happenings : List Happening) :
    (happenings.foldl Watch.meet client).connection.received =
      client.connection.received + (taken client happenings).length := by
  induction happenings generalizing client with
  | nil => rfl
  | cons happening rest ih =>
    have counted : client.frames (happens client happening) = ((happens client happening).filterMap (client.read 0)).length := by
      apply happens_cases (motive := fun events => client.frames events = (events.filterMap (client.read 0)).length)
        client happening
      · rfl
      · exact fun _ => rfl
      · exact frames_of_turn client 0
      · exact fun _ _ => rfl
    rw [List.foldl_cons, ih (watches.meet happening), watches.meet_eq, run_received, counted, ← watches.meet_eq, taken,
      List.length_append, Nat.add_assoc]

theorem Watches.waiting (watches : Watches bound url closing client) (happenings : List Happening) :
    (happenings.foldl Watch.meet client).waiting = client.waiting ++ submitted client happenings := by
  induction happenings generalizing client with
  | nil => exact (List.append_nil _).symm
  | cons happening rest ih =>
    have grown : (Watch.meet client happening).waiting =
        client.waiting ++ ((happens client happening).flatMap client.submitted).map (·.2) := by
      rw [watches.meet_eq]
      have one (event : Event) (making : event ≠ .callback) : (client.run [event]).waiting =
          client.waiting ++ ([event].flatMap client.submitted).map (·.2) := by
        rw [run_cons, run_nil, step_waiting client making, List.flatMap_singleton]
      apply happens_cases (motive := fun events => (client.run events).waiting =
        client.waiting ++ (events.flatMap client.submitted).map (·.2)) client happening
      · exact (List.append_nil _).symm
      · exact fun _ => one _ (by simp)
      · exact one _ (by simp)
      · exact fun _ _ => one _ (by simp)
    rw [List.foldl_cons, ih (watches.meet happening), grown, submitted, List.append_assoc]

end Pubsub.Watch
