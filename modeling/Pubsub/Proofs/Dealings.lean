import Pubsub.Proofs.Turns

/-! What one event can do to the connection, told once. Whatever a run keeps of it is read off from there: who may be
told to stop and who may not, which calls still deal with it, and that it is not opened without being asked for. -/

namespace Pubsub

namespace Link

def suspend (link : Link) (call : CallId) (task : Task) (stage : Stage) : Link :=
  { link with dealings := link.dealings ++ [(call, ⟨task, stage⟩)] }

def forget (link : Link) (call : CallId) : Link :=
  { link with dealings := link.dealings.filter (·.1 != call) }

/-- A call that gives the connection up closes the current socket next, if there is one. -/
def shut (link : Link) (call : CallId) (task : Task) : Link :=
  match link.socket with
  | none => link
  | some socket => link.suspend call task (.closing socket)

def givingUp (link : Link) : Link := { link with closing := true, established := false }

inductive Tells (link : Link) (reader : ReaderId) : Link → Prop where
  | told : Tells link reader
      { link with readers := link.readers.modify reader fun reader => { reader with cancelling := true } }
  | passed : Tells link reader link

def Undone (link : Link) (reader : ReaderId) : Prop := ∃ state, link.readers[reader]? = some state ∧ state.done = false

inductive Gives (link : Link) (task : Task) : Link → Prop where
  | shuts (call : CallId) : Gives link task (link.givingUp.shut call task)
  | refused {reader : ReaderId} (latest : link.reader = some reader) (undone : link.Undone reader) {after : Link}
      (tells : link.givingUp.Tells reader after) : Gives link task after
  | bars {reader : ReaderId} (latest : link.reader = some reader) (same : task = .reader reader) (call : CallId) :
      Gives link task ({ link.givingUp with barred := true }.suspend call task (.disconnecting none))
  | waits {reader : ReaderId} (latest : link.reader = some reader) (undone : link.Undone reader) {after : Link}
      (tells : link.givingUp.Tells reader after) (call : CallId) :
      Gives link task (after.suspend call task (.disconnecting (some reader)))

inductive Next (link : Link) : Event → Link → Prop where
  | still {event : Event} : Next link event link
  /-- A reader that goes on has read something, or has ended. -/
  | reads {event : Event} {reader : ReaderId} {state : Reader} (found : link.readers[reader]? = some state)
      (undone : state.done = false) (going : state.cancelling = false) (established : Bool) (reading : Reading) :
      Next link event ({ link with established }.set reader reading)
  /-- A reader that was told to stop stops, and its calls go with it. One of them may have been closing the socket. -/
  | stops {reader : ReaderId} {state : Reader} (found : link.readers[reader]? = some state)
      (told : state.cancelling = true) (established : Bool) {outcome : Outcome}
      (given : link.closing = true → outcome = .cancelled) {socket : Option SocketId}
      (kept : socket = link.socket ∨ socket = none ∧ link.Closes (.reader reader)) :
      Next link (.unwind reader) { link with
        socket, established
        readers := link.readers.modify reader fun _ => { reading := .finished outcome }
        dealings := link.dealings.filter (·.2.task ≠ Task.reader reader) }
  | connects (task : Task) (call : CallId) :
      Next link (.connect task) ({ link with closing := false }.suspend call task .connecting)
  | gives {task : Task} {after : Link} (gives : link.Gives task after) : Next link (.disconnect task) after
  | opens {call : CallId} {task : Task} (waits : (call, ⟨task, .connecting⟩) ∈ link.dealings) {outcome : Except Error Unit} :
      Next link (.resume call outcome) { link.forget call with
        socket := some link.sockets, reader := some link.readers.length, barred := false
        sockets := link.sockets + 1, readers := link.readers ++ [{}] }
  | forgets {call : CallId} {held : Call} (waits : (call, held) ∈ link.dealings) {outcome : Except Error Unit} :
      Next link (.resume call outcome) (link.forget call)
  | shuts {call : CallId} {task : Task} {reader : Option ReaderId}
      (waits : (call, ⟨task, .disconnecting reader⟩) ∈ link.dealings) {outcome : Except Error Unit} (next : CallId) :
      Next link (.resume call outcome) ((link.forget call).shut next task)
  | detaches {call : CallId} {task : Task} {socket : SocketId}
      (waits : (call, ⟨task, .closing socket⟩) ∈ link.dealings) {outcome : Except Error Unit} :
      Next link (.resume call outcome) { link.forget call with socket := none }

private theorem Next.of_ends {link after : Link} {reader : ReaderId} {state : Reader}
    (found : link.readers[reader]? = some state)
    (undone : state.done = false) (going : state.cancelling = false) {event : Event} (ends : link.Ends reader after) :
    link.Next event after := by
  obtain ⟨outcome, rfl⟩ := ends
  exact .reads found undone going false _

end Link

namespace Client
variable {client : Client}

theorem dealings_mem {call : CallId} {held : Call} (found : client.call? call = some held) (deals : held.stage.deals = true) :
    (call, held) ∈ client.link.dealings := List.mem_filter.mpr ⟨call?_mem found, deals⟩

private theorem closeSocket_link (client : Client) (task : Task) :
    (client.closeSocket task).1.link = client.link.shut client.nextCall task := by
  unfold closeSocket
  cases found : client.connection.socket with
  | none =>
    have same : client.link.socket = none := found
    rw [Link.shut, same]
    exact tearDown_link client
  | some socket =>
    let closed : Client := { client with
      sockets := client.sockets.modify socket fun socket => { socket with closes := socket.closes + 1 } }
    have kept : closed.link = client.link := by simp [closed, link]
    have same : client.link.socket = some socket := found
    have suspended := suspend_link_of_deals closed task (rfl : (Stage.closing socket).deals = true)
    rw [kept] at suspended
    rw [Link.shut, same]
    exact suspended

private theorem cancel_tells (client : Client) (reader : ReaderId) :
    client.link.Tells reader (client.cancel reader).link := by
  unfold cancel
  split
  · exact .passed
  · exact .told

theorem disconnect_gives (client : Client) (task : Task) : client.link.Gives task (client.disconnect task).1.link := by
  have closes : client.link.Gives task (client.givingUp.closeSocket task).1.link := by
    rw [closeSocket_link]
    exact .shuts _
  unfold Client.disconnect
  dsimp only
  split
  · exact closes
  next reader latest =>
    split
    · exact closes
    next undone =>
      have undone : client.link.Undone reader := undone_found (Bool.eq_false_iff.mpr undone)
      have tells := cancel_tells client.givingUp reader
      split
      · exact .refused latest undone tells
      · split
        next same =>
          have suspended := suspend_link_of_deals client.givingUp.bar task (rfl : (Stage.disconnecting none).deals = true)
          rw [suspended]
          exact .bars latest same _
        · have suspended := suspend_link_of_deals (client.givingUp.cancel reader) task
            (rfl : (Stage.disconnecting (some reader)).deals = true)
          rw [suspended]
          exact .waits latest undone tells _

private theorem turn_next {reader : ReaderId} (going : client.isCancelling (.reader reader) = false) :
    client.link.Next (.turn reader) (client.turn reader).1.link := by
  cases done : client.isDone reader with
  | true =>
    rw [turn_of_done client done]
    exact .still
  | false =>
    obtain ⟨state, found, undone⟩ := undone_found done
    have uncancelled : state.cancelling = false := by simpa [isCancelling, found] using going
    have reads : client.reading? reader = some state.reading := by rw [reading?, found, Option.map_some]
    have set (reading : Reading) : client.link.Next (.turn reader) (client.setReading reader reading).link :=
      .reads found undone uncancelled client.link.established reading
    cases reading : state.reading with
    | starting =>
      rw [reading] at reads
      simp only [turn, reads]
      split <;> exact set _
    | idle socket =>
      rw [reading] at reads
      cases next : client.next reader with
      | none =>
        rw [turn_of_unread reads going next]
        exact .still
      | some arrival =>
        obtain ⟨current, rest, _, _, turned⟩ := turn_of_next next
        have left := leave_link client current rest
        have ends {after : Client} (ends : (client.leave current rest).link.Ends reader after.link) :
            client.link.Next (.turn reader) after.link := .of_ends found undone uncancelled (left ▸ ends)
        rw [turned]
        cases arrival with
        | ending ending => exact ends (take_ends _ reader current ending)
        | frame frame =>
          cases confirms : frame.confirms with
          | true =>
            rcases handle_link_of_confirms (client.leave current rest) confirms reader current with ⟨next, _, confirmed⟩ | ended
            · rw [take, confirmed, left]
              exact .reads found undone uncancelled true next
            · exact ends ended
          | false =>
            rcases handle_link_of_other (client.leave current rest) confirms reader current with same | ended
            · rw [take, same, left]
              exact .still
            · exact ends ended
    | busy socket =>
      rw [reading] at reads
      simp only [turn, reads]
      exact .still
    | finished outcome => simp [Reader.done, reading] at undone

/-- A reader that notices that it was told to stop has finished, and lets its calls go. -/
theorem unwind_link (client : Client) (reader : ReaderId) : ∃ socket established outcome,
    (client.unwind reader).link = { client.link with
      socket, established
      readers := client.link.readers.modify reader fun _ => { reading := .finished outcome }
      dealings := client.link.dealings.filter (·.2.task ≠ Task.reader reader) } ∧
      (client.link.closing = true → outcome = .cancelled) ∧
      (socket = client.link.socket ∨ socket = none ∧ client.link.Closes (.reader reader)) := by
  obtain ⟨socket, left, kept⟩ := abandon_link client reader
  have stopped (established : Bool) (outcome : Outcome) :
      { (client.abandon reader).link with established }.set reader (.finished outcome) = { client.link with
        socket, established
        readers := client.link.readers.modify reader fun _ => { reading := .finished outcome }
        dealings := client.link.dealings.filter (·.2.task ≠ Task.reader reader) } := by
    simp only [left, Link.set, List.modify_modify_eq, Function.comp_def]
  unfold unwind
  dsimp only
  split
  · refine ⟨socket, client.link.established, .cancelled, ?_, fun _ => rfl, kept⟩
    rw [← stopped, left]
    exact congrArg (·.set reader (.finished .cancelled)) left
  · obtain ⟨final, finished, given⟩ := finish_link (client.abandon reader) reader .cancelled
    refine ⟨socket, false, final, ?_, fun closing => given (by rw [left]; exact closing), kept⟩
    rw [finished, stopped]

private theorem unwind_next {reader : ReaderId} (told : client.isCancelling (.reader reader) = true) :
    client.link.Next (.unwind reader) (client.unwind reader).link := by
  obtain ⟨state, found, cancelling⟩ := told_found told
  obtain ⟨socket, established, outcome, same, given, kept⟩ := unwind_link client reader
  rw [same]
  exact .stops found cancelling established given kept

theorem unwind_isDone (client : Client) (reader : ReaderId) : (client.unwind reader).isDone reader = true := by
  obtain ⟨socket, established, outcome, same, _⟩ := unwind_link client reader
  have readers : (client.unwind reader).readers = client.readers.modify reader fun _ => { reading := .finished outcome } :=
    congrArg Link.readers same
  rw [isDone, readers, List.getElem?_modify_eq]
  cases client.readers[reader]? <;> rfl

private theorem passOn_next {result : Client × Progress} (same : result.1.link = client.link) {reader : Option ReaderId}
    (going : ∀ waiting, reader = some waiting → client.isCancelling (.reader waiting) = false) {event : Event} :
    client.link.Next event (passOn reader result).1.link := by
  rcases passOn_link reader result with unchanged | ⟨waiting, socket, rfl, busy, settled⟩
  · rw [unchanged, same]
    exact .still
  · have readers : result.1.readers = client.readers := congrArg Link.readers same
    obtain ⟨state, found, reads⟩ := Option.map_eq_some_iff.mp busy
    rw [readers] at found
    have undone : state.done = false := by rw [Reader.done, reads]
    have uncancelled : state.cancelling = false := by simpa [isCancelling, found] using going waiting rfl
    rw [same] at settled
    rcases settled with idle | ends
    · rw [idle]
      exact .reads found undone uncancelled client.link.established _
    · exact .of_ends found undone uncancelled ends

private theorem resume_next (tidy : client.Tidy) {call : CallId} {outcome : Except Error Unit}
    (possible : client.possible (.resume call outcome) = true) :
    client.link.Next (.resume call outcome) (client.resume call outcome).1.link := by
  obtain ⟨⟨task, stage⟩, held⟩ := Option.isSome_iff_exists.mp (present_of_possible possible)
  have aside (none : stage.deals = false) : (client.drop call).link = client.link :=
    drop_link_of_aside tidy.ordered held none
  have dropped : (client.drop call).link = client.link.forget call := drop_link client call
  simp only [Client.possible, canResume, held, Bool.and_eq_true, Bool.not_eq_true'] at possible
  simp only [resume, held]
  cases stage with
  | subscribing channel =>
    cases outcome with
    | ok => exact aside rfl ▸ .still
    | error error => exact (Quiet.rollBack (client.drop call) channel).link.trans (aside rfl) ▸ .still
  | unsubscribing | messaging => exact aside rfl ▸ .still
  | resubscribing channel rest reader =>
    obtain ⟨_, own⟩ := tidy.proper _ (call?_mem held)
    have going (waiting : ReaderId) (same : reader = some waiting) : client.isCancelling (.reader waiting) = false :=
      own waiting same ▸ possible.1
    cases outcome with
    | ok => exact passOn_next ((resubscribe_link _ task reader rest).trans (aside rfl)) going
    | error error => exact passOn_next ((Quiet.rollBack (client.drop call) channel).link.trans (aside rfl)) going
  | connecting =>
    have waits := dealings_mem held rfl
    cases outcome with
    | ok =>
      change client.link.Next _ (client.drop call).opened.link
      rw [opened_link, dropped]
      exact .opens waits
    | error error => exact dropped ▸ .forgets waits
  | disconnecting reader =>
    have waits := dealings_mem held rfl
    dsimp only
    split
    · exact dropped ▸ .forgets waits
    · rw [closeSocket_link, dropped]
      exact .shuts waits _
  | closing socket =>
    have waits := dealings_mem held rfl
    change client.link.Next _ ((client.drop call).closed socket).1.link
    rw [closed_link, dropped]
    exact .detaches waits

theorem step_next (tidy : client.Tidy) (event : Event) : client.link.Next event (client.step event).link := by
  refine step_induction (motive := fun after => client.link.Next event after.link) .still ?_
  intro possible
  cases offline : event.offline with
  | true =>
    have same := step_link_of_offline client offline
    rw [step, if_pos possible] at same
    rw [same]
    exact .still
  | false =>
    cases event with
    | connect task => exact connect_link client task ▸ .connects task client.nextCall
    | disconnect task => exact .gives (disconnect_gives client task)
    | resume call outcome => exact resume_next tidy possible
    | turn reader => exact turn_next (by simpa [Client.possible] using possible)
    | unwind reader => exact unwind_next possible
    | _ => contradiction

end Client

inductive Reader.Goes (latest : Prop) (closing : Bool) (state : Reader) : Reader → Prop where
  | stays : Goes latest closing state state
  | reads (undone : state.done = false) (going : state.cancelling = false) (reading : Reading) :
      Goes latest closing state { state with reading }
  | stops (told : state.cancelling = true) {outcome : Outcome} (given : closing = true → outcome = .cancelled) :
      Goes latest closing state { reading := .finished outcome }
  | told (last : latest) (undone : state.done = false) : Goes latest closing state { state with cancelling := true }

def Reader.Settled (state : Reader) : Prop := state.done = true → state.cancelling = false

def Reader.Obeys (state : Reader) : Prop :=
  state.cancelling = true ∧ state.done = false ∨ state = { reading := .finished .cancelled }

namespace Reader.Goes
variable {latest : Prop} {closing : Bool} {state later : Reader} (goes : state.Goes latest closing later)
include goes

theorem settled (settled : state.Settled) : later.Settled := by
  cases goes with
  | stays => exact settled
  | reads _ going => exact fun _ => going
  | stops => exact fun _ => rfl
  | told _ undone => exact fun done => absurd (undone.symm.trans done) (by decide)

/-- A reader that has finished stays as it is. -/
theorem done (settled : state.Settled) (done : state.done = true) : later = state := by
  cases goes with
  | stays => rfl
  | reads undone | told _ undone => exact absurd (undone.symm.trans done) (by decide)
  | stops told => exact absurd ((settled done).symm.trans told) (by decide)

theorem obeys (given : closing = true) (obeys : state.Obeys) : later.Obeys := by
  rcases obeys with ⟨cancelling, undone⟩ | rfl
  · cases goes with
    | stays => exact .inl ⟨cancelling, undone⟩
    | reads _ going => exact absurd (going.symm.trans cancelling) (by decide)
    | stops _ stopped => exact .inr (by rw [stopped given])
    | told => exact .inl ⟨rfl, undone⟩
  · exact .inr (goes.done (fun _ => rfl) rfl)

theorem going (other : ¬latest) (going : state.cancelling = false) : later.cancelling = false := by
  cases goes with
  | stays | reads => exact going
  | stops => rfl
  | told last => exact absurd last other

end Reader.Goes

namespace Link
variable {link after : Link} {event : Event}

private theorem shut_eq (link : Link) (call : CallId) (task : Task) :
    ∃ dealings, link.shut call task = { link with dealings := link.dealings ++ dealings } ∧
      ∀ entry ∈ dealings, ∃ socket, link.socket = some socket ∧ entry = (call, ⟨task, .closing socket⟩) := by
  unfold shut
  split
  · exact ⟨[], by rw [List.append_nil], nofun⟩
  next socket found => exact ⟨_, rfl, fun entry member => ⟨socket, found, List.mem_singleton.mp member⟩⟩

theorem Tells.reader {reader : ReaderId} (tells : link.Tells reader after) (undone : link.Undone reader)
    (latest : link.reader = some reader) (closing : Bool) {id : ReaderId} {state : Reader}
    (found : link.readers[id]? = some state) :
    ∃ later, after.readers[id]? = some later ∧ state.Goes (link.reader = some id) closing later := by
  cases tells with
  | passed => exact ⟨state, found, .stays⟩
  | told =>
    by_cases same : reader = id
    · subst same
      obtain ⟨first, here, undone⟩ := undone
      obtain rfl : first = state := Option.some.inj (here.symm.trans found)
      exact ⟨{ first with cancelling := true }, by simp [found], .told latest undone⟩
    · exact ⟨state, by simpa [List.getElem?_modify, same] using found, .stays⟩

theorem Gives.reader {task : Task} (gives : link.Gives task after) (closing : Bool) {id : ReaderId} {state : Reader}
    (found : link.readers[id]? = some state) :
    ∃ later, after.readers[id]? = some later ∧ state.Goes (link.reader = some id) closing later := by
  have given : link.givingUp.readers[id]? = some state := found
  cases gives with
  | shuts call =>
    obtain ⟨_, same, _⟩ := shut_eq link.givingUp call task
    exact ⟨state, by rw [same]; exact found, .stays⟩
  | refused latest undone tells => exact tells.reader undone latest closing given
  | bars => exact ⟨state, found, .stays⟩
  | waits latest undone tells => exact tells.reader undone latest closing given

theorem Next.reader (next : link.Next event after) {id : ReaderId} {state : Reader}
    (found : link.readers[id]? = some state) :
    ∃ later, after.readers[id]? = some later ∧ state.Goes (link.reader = some id) link.closing later := by
  have stays {readers : List Reader} (same : readers = link.readers) : ∃ later, readers[id]? = some later ∧
      state.Goes (link.reader = some id) link.closing later := ⟨state, same ▸ found, .stays⟩
  cases next with
  | still | connects | forgets | detaches => exact stays rfl
  | @reads _ reader first here undone going established reading =>
    by_cases same : reader = id
    · subst same
      obtain rfl : first = state := Option.some.inj (here.symm.trans found)
      exact ⟨{ first with reading }, by simp [set, found], .reads undone going reading⟩
    · exact ⟨state, by simpa [set, List.getElem?_modify, same] using found, .stays⟩
  | @stops reader first here told established outcome given _ _ =>
    by_cases same : reader = id
    · subst same
      obtain rfl : first = state := Option.some.inj (here.symm.trans found)
      exact ⟨{ reading := .finished outcome }, by simp [found], .stops told given⟩
    · exact ⟨state, by simpa [List.getElem?_modify, same] using found, .stays⟩
  | gives gives => exact gives.reader link.closing found
  | opens =>
    obtain ⟨inside, _⟩ := List.getElem?_eq_some_iff.mp found
    exact ⟨state, (List.getElem?_append_left inside).trans found, .stays⟩
  | @shuts call task _ _ _ next =>
    obtain ⟨_, same, _⟩ := shut_eq (link.forget call) next task
    exact stays (by rw [same]; rfl)

theorem Tells.frame {reader : ReaderId} (tells : link.Tells reader after) :
    ∃ readers, after = { link with readers } ∧ readers.length = link.readers.length := by
  cases tells with
  | told => exact ⟨_, rfl, List.length_modify _ _ _⟩
  | passed => exact ⟨_, rfl, rfl⟩

/-- To give the connection up changes nothing but readers, and suspends no call but one that gives it up. -/
theorem Gives.frame {task : Task} (gives : link.Gives task after) : ∃ readers barred dealings,
    after = { link.givingUp with readers, barred, dealings := link.dealings ++ dealings } ∧
      readers.length = link.readers.length ∧
      (∀ entry ∈ dealings, entry.2.task = task ∧ entry.2.stage.givesUp = true) ∧
      (barred = link.barred ∨ ∃ reader, link.reader = some reader ∧ task = .reader reader) := by
  have one {call : CallId} {stage : Stage} (stops : stage.givesUp = true) :
      ∀ entry ∈ [(call, (⟨task, stage⟩ : Call))], entry.2.task = task ∧ entry.2.stage.givesUp = true := by
    intro entry member
    rw [List.mem_singleton.mp member]
    exact ⟨rfl, stops⟩
  cases gives with
  | shuts call =>
    obtain ⟨dealings, same, closing⟩ := shut_eq link.givingUp call task
    refine ⟨link.readers, link.barred, dealings, same, rfl, ?_, .inl rfl⟩
    intro entry member
    obtain ⟨_, _, rfl⟩ := closing entry member
    exact ⟨rfl, rfl⟩
  | refused _ _ tells =>
    obtain ⟨readers, rfl, length⟩ := tells.frame
    exact ⟨readers, _, [], by rw [List.append_nil]; rfl, length, nofun, .inl rfl⟩
  | @bars reader latest same call => exact ⟨_, true, _, rfl, rfl, one rfl, .inr ⟨reader, latest, same⟩⟩
  | waits _ _ tells call =>
    obtain ⟨readers, rfl, length⟩ := tells.frame
    exact ⟨readers, _, _, rfl, length, one rfl, .inl rfl⟩

def Unopened (link : Link) : Prop := ∀ entry ∈ link.dealings, entry.2.stage ≠ .connecting

/-- A reader was there before, or a call that opens the connection has just started it. -/
theorem Next.later (next : link.Next event after) {id : ReaderId} {later : Reader} (found : after.readers[id]? = some later) :
    (∃ state, link.readers[id]? = some state ∧ state.Goes (link.reader = some id) link.closing later) ∨
      later = {} ∧ ¬link.Unopened := by
  cases known : link.readers[id]? with
  | some state =>
    obtain ⟨same, here, goes⟩ := next.reader known
    exact .inl ⟨state, rfl, Option.some.inj (here.symm.trans found) ▸ goes⟩
  | none =>
    have beyond := List.getElem?_eq_none_iff.mp known
    have absent (length : after.readers.length = link.readers.length) {conclusion : Prop} : conclusion := by
      rw [List.getElem?_eq_none_iff.mpr (length ▸ beyond)] at found
      contradiction
    cases next with
    | still | connects | forgets | detaches => exact absent rfl
    | reads | stops => exact absent (List.length_modify _ _ _)
    | gives gives =>
      obtain ⟨readers, _, _, rfl, length, _⟩ := gives.frame
      exact absent length
    | opens waits =>
      rw [List.getElem?_append_right beyond] at found
      exact .inr ⟨List.mem_singleton.mp (List.mem_of_getElem? found), fun unopened => unopened _ waits rfl⟩
    | @shuts call task _ _ _ next =>
      obtain ⟨_, same, _⟩ := shut_eq (link.forget call) next task
      exact absent (by rw [same]; rfl)

def Settled (link : Link) : Prop :=
  ∀ (id : ReaderId) (state : Reader), link.readers[id]? = some state → state.Settled

theorem Next.settled (next : link.Next event after) (settled : link.Settled) : after.Settled := by
  intro id later found
  rcases next.later found with ⟨state, before, goes⟩ | ⟨rfl, _⟩
  · exact goes.settled (settled id state before)
  · exact fun done => absurd done (by decide)

inductive Origin (link : Link) (event : Event) (call : CallId) (held : Call) : Prop where
  | before (member : (call, held) ∈ link.dealings)
  | opens (asked : event = .connect held.task) (stage : held.stage = .connecting)
  | givesUp (asked : event = .disconnect held.task) (stage : held.stage.givesUp = true)
  /-- It has waited for a reader, and closes the socket now. -/
  | closes {earlier : CallId} {outcome : Except Error Unit} {reader : Option ReaderId} {socket : SocketId}
      (resumed : event = .resume earlier outcome) (waits : (earlier, ⟨held.task, .disconnecting reader⟩) ∈ link.dealings)
      (stage : held.stage = .closing socket)

theorem Next.origin (next : link.Next event after) {call : CallId} {held : Call}
    (member : (call, held) ∈ after.dealings) : link.Origin event call held := by
  have kept {forgotten : CallId} (member : (call, held) ∈ (link.forget forgotten).dealings) : (call, held) ∈ link.dealings :=
    (List.mem_filter.mp member).1
  cases next with
  | still | reads => exact .before member
  | stops => exact .before (List.mem_filter.mp member).1
  | connects =>
    rcases List.mem_append.mp member with before | new
    · exact .before before
    · obtain ⟨_, rfl⟩ := Prod.mk.inj (List.mem_singleton.mp new)
      exact .opens rfl rfl
  | gives gives =>
    obtain ⟨_, _, _, rfl, _, own, _⟩ := gives.frame
    rcases List.mem_append.mp member with before | new
    · exact .before before
    · obtain ⟨rfl, stage⟩ := own _ new
      exact .givesUp rfl stage
  | opens | forgets | detaches => exact .before (kept member)
  | @shuts earlier task reader waits _ number =>
    obtain ⟨_, same, closing⟩ := shut_eq (link.forget earlier) number task
    rw [same] at member
    rcases List.mem_append.mp member with before | new
    · exact .before (kept before)
    · obtain ⟨_, _, last⟩ := closing _ new
      obtain ⟨_, rfl⟩ := Prod.mk.inj last
      exact .closes rfl waits rfl

/-- A call deals with the connection until it goes on, unless its reader is told to stop. -/
theorem Next.keeps (next : link.Next event after) {call : CallId} {held : Call} (member : (call, held) ∈ link.dealings)
    (waits : ∀ outcome, event ≠ .resume call outcome)
    (going : ∀ reader state, held.task = .reader reader → link.readers[reader]? = some state → state.cancelling = false) :
    (call, held) ∈ after.dealings := by
  have kept {forgotten : CallId} {outcome : Except Error Unit} (same : event = .resume forgotten outcome) :
      (call, held) ∈ (link.forget forgotten).dealings := by
    refine List.mem_filter.mpr ⟨member, bne_iff_ne.mpr ?_⟩
    rintro rfl
    exact waits outcome same
  cases next with
  | still | reads => exact member
  | stops found told =>
    refine List.mem_filter.mpr ⟨member, decide_eq_true fun own => ?_⟩
    exact absurd ((going _ _ own found).symm.trans told) (by decide)
  | connects => exact List.mem_append_left _ member
  | gives gives =>
    obtain ⟨_, _, _, rfl, _⟩ := gives.frame
    exact List.mem_append_left _ member
  | opens | forgets | detaches => exact kept rfl
  | @shuts earlier task _ _ _ number =>
    obtain ⟨_, same, _⟩ := shut_eq (link.forget earlier) number task
    rw [same]
    exact List.mem_append_left _ (kept rfl)

theorem Next.unopened (next : link.Next event after) (unopened : link.Unopened) (kept : ∀ task, event ≠ .connect task) :
    after.Unopened := by
  rintro ⟨call, task, stage⟩ member
  cases next.origin member with
  | before member => exact unopened _ member
  | opens asked => exact absurd asked (kept task)
  | givesUp _ gives =>
    rintro rfl
    contradiction
  | closes _ _ same =>
    obtain rfl : stage = _ := same
    exact nofun

theorem Next.closing (next : link.Next event after) (given : link.closing = true) (kept : ∀ task, event ≠ .connect task) :
    after.closing = true := by
  cases next with
  | connects task => exact absurd rfl (kept task)
  | gives gives =>
    obtain ⟨_, _, _, rfl, _⟩ := gives.frame
    rfl
  | @shuts call task _ _ _ next =>
    obtain ⟨_, same, _⟩ := shut_eq (link.forget call) next task
    rw [same]
    exact given
  | _ => exact given

/-- A call that closes the socket comes to its end: it goes on, or its reader stops as it was told. -/
def Quits (link : Link) (event : Event) (call : CallId) (task : Task) : Prop :=
  (∃ outcome, event = .resume call outcome) ∨
    ∃ reader state, event = .unwind reader ∧ task = .reader reader ∧ link.readers[reader]? = some state ∧
      state.cancelling = true

/-- Unless a call opens the connection, the reader that was started last is still the last, and the socket is current
as long as no call has closed it. -/
theorem Next.last (next : link.Next event after) (unopened : link.Unopened) :
    after.reader = link.reader ∧ (after.socket = link.socket ∨ after.socket = none ∧
      ∃ call task socket, (call, ⟨task, .closing socket⟩) ∈ link.dealings ∧ link.Quits event call task) := by
  cases next with
  | gives gives =>
    obtain ⟨_, _, _, rfl, _⟩ := gives.frame
    exact ⟨rfl, .inl rfl⟩
  | opens waits => exact absurd rfl (unopened _ waits)
  | @shuts call task _ _ _ next =>
    obtain ⟨_, shut, _⟩ := shut_eq (link.forget call) next task
    rw [shut]
    exact ⟨rfl, .inl rfl⟩
  | detaches waits => exact ⟨rfl, .inr ⟨rfl, _, _, _, waits, .inl ⟨_, rfl⟩⟩⟩
  | stops found told _ _ kept =>
    refine ⟨rfl, kept.imp_right fun ⟨gone, call, socket, closes⟩ => ⟨gone, call, _, socket, closes, ?_⟩⟩
    exact .inr ⟨_, _, rfl, rfl, found, told⟩
  | _ => exact ⟨rfl, .inl rfl⟩

/-- A reader does not give the connection up itself, and can be waited for. -/
structure Spares (link : Link) (reader : ReaderId) : Prop where
  calls : ∀ entry ∈ link.dealings, entry.2.stage.givesUp = true → entry.2.task ≠ .reader reader
  unbarred : link.reader = some reader → link.barred = false

theorem Next.spares (next : link.Next event after) {reader : ReaderId} (spares : link.Spares reader)
    (apart : event ≠ .disconnect (.reader reader)) : after.Spares reader := by
  refine ⟨?_, ?_⟩
  · rintro ⟨call, task, stage⟩ member gives same
    obtain rfl : task = .reader reader := same
    cases next.origin member with
    | before member => exact spares.calls _ member gives rfl
    | opens _ opening =>
      obtain rfl : stage = .connecting := opening
      contradiction
    | givesUp asked => exact apart asked
    | closes _ waits => exact spares.calls _ waits rfl rfl
  · have unbarred := spares.unbarred
    cases next with
    | gives gives =>
      obtain ⟨_, _, _, rfl, _, _, rfl | ⟨other, latest, rfl⟩⟩ := gives.frame
      · exact unbarred
      · intro last
        cases latest.symm.trans last
        exact absurd rfl apart
    | opens => exact fun _ => rfl
    | @shuts call task _ _ _ next =>
      obtain ⟨_, shut, _⟩ := shut_eq (link.forget call) next task
      rw [shut]
      exact unbarred
    | _ => exact unbarred

end Link
end Pubsub
