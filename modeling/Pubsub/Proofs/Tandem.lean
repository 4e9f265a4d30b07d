import Pubsub.Proofs.Apart
import Pubsub.Proofs.Callbacks
import Pubsub.Proofs.Labour

/-! A client beside its queue. The client submits what it is asked to submit callback by callback, and the worker makes
callbacks in between, whenever it comes to them. To the client it is all the same: it is as if its callbacks waited in one
line, and the worker took them from there. -/

namespace Pubsub

def Client.made (client : Client) : List Event → List Callback
  | [] => []
  | .callback :: rest => client.waiting.head?.toList ++ (client.step .callback).made rest
  | event :: rest => (client.step event).made rest

private theorem Client.made_append (client : Client) (first second : List Event) :
    client.made (first ++ second) = client.made first ++ (client.run first).made second := by
  induction first generalizing client with
  | nil => rfl
  | cons event rest ih =>
    cases event with
    | callback => simp only [List.cons_append, made, ih, List.append_assoc, run_cons]
    | _ => simp only [List.cons_append, made, ih, run_cons]

def Worker.Silent {α : Type} : Worker α → Prop
  | .idle => True
  | .starting work => work.children = []
  | .running _ left => Deed.submitted left = []
  | .submitting _ _ _ _ _ => False

/-- A client whose callbacks go to a queue. -/
structure Tandem where
  client : Client
  queue : Queue Callback := {}
  /-- The callbacks that the client has still to submit. -/
  left : List Callback := []
  /-- Whether the client has still to shut its queue. -/
  shutting : Bool := false
  /-- The callbacks that were submitted. -/
  handed : Nat := 0

namespace Tandem

/-- What can happen to the two. Others may drain the queue. -/
inductive Move where
  | event (event : Event)
  | submit
  | shutdown
  | drain
  | go
  | halt
  | release (gate : Text)
  | turn

variable (task : Nat → Callback → Work Callback)

/-- What an event leaves the client to do before the next one. To make a callback is not for the client. -/
def act (tandem : Tandem) (event : Event) : Tandem :=
  let client := tandem.client.step event
  { tandem with client := { client with waiting := [] }, left := client.waiting, shutting := event matches .shutDown }

def free (tandem : Tandem) (event : Event) : Bool :=
  tandem.left.isEmpty && !tandem.shutting && !(event matches .callback)

def go (tandem : Tandem) : Tandem :=
  match tandem.queue.happens .go with
  | (queue, [.answered (.submit _) _]) => { tandem with queue, left := tandem.left.tail, handed := tandem.handed + 1 }
  | (queue, [.answered .shutdown _]) => { tandem with queue, shutting := false }
  | (queue, _) => { tandem with queue }

def meet (tandem : Tandem) (event : Queue.Event Callback) : Tandem :=
  { tandem with queue := (tandem.queue.happens event).1 }

def step (tandem : Tandem) : Move → Tandem
  | .event event => if tandem.free event then tandem.act event else tandem
  | .submit =>
    match tandem.left with
    | [] => tandem
    | callback :: _ => tandem.meet (.enter (.submit (task tandem.handed callback)))
  | .shutdown => if tandem.shutting then tandem.meet (.enter .shutdown) else tandem
  | .drain => tandem.meet (.enter .drain)
  | .go => tandem.go
  | .halt => tandem.meet .halt
  | .release gate => tandem.meet (.release gate)
  | .turn => tandem.meet .turn

def calls (tandem : Tandem) : Bool :=
  match tandem.queue.worker with
  | .starting work => work.gate.all tandem.queue.gates.contains
  | _ => false

/-- What a move is for a client on its own. -/
def alone (tandem : Tandem) : Move → List Event
  | .event event => if tandem.free event then [event] else []
  | .turn => if tandem.calls then [.callback] else []
  | _ => []

def run (tandem : Tandem) (moves : List Move) : Tandem := moves.foldl (step task) tandem

def course (tandem : Tandem) : List Move → List Event
  | [] => []
  | move :: rest => tandem.alone move ++ (tandem.step task move).course rest

/-- The callbacks that wait, in the order in which they will be made. -/
def line (tandem : Tandem) : List Callback :=
  tandem.queue.worker.unmarked ++ (Item.works tandem.queue.waiting).map Work.label ++ tandem.left

/-- The two stand for a client on its own. Their flags say the same, unless the queue is being shut down. -/
structure StandsFor (tandem : Tandem) (client : Client) : Prop where
  apart : Client.Apart tandem.line true tandem.client client
  handed : tandem.client.waiting = []
  sound : tandem.queue.Sound
  silent : ∀ work ∈ Item.works tandem.queue.waiting, work.children = []
  worker : tandem.queue.worker.Silent
  submits : ∀ work passed, tandem.queue.lock = .caller (.submit work) passed →
    work.children = [] ∧ tandem.left.head? = some work.label
  shuts : ∀ passed, tandem.queue.lock = .caller .shutdown passed → tandem.shutting = true
  shutting : tandem.shutting = true → tandem.left = [] ∧ tandem.client.accepting = false
  live : tandem.left ≠ [] → tandem.queue.closed = false
  closed : tandem.shutting = false → tandem.queue.closed = !tandem.client.accepting

private theorem standsFor_new {client : Client} (waiting : client.waiting = []) (accepting : client.accepting = true) :
    StandsFor { client } client where
  apart := ⟨client.records, client.connection.received, fun _ => rfl, rfl⟩
  handed := waiting
  sound := Queue.sound_new []
  silent := nofun
  worker := trivial
  submits := nofun
  shuts := nofun
  shutting := nofun
  live := fun some => absurd rfl some
  closed := fun _ => by simp [accepting]

variable {task}
variable {tandem : Tandem} {client : Client}

private theorem free_iff {event : Event} :
    tandem.free event = true ↔ tandem.left = [] ∧ tandem.shutting = false ∧ event ≠ .callback := by
  cases event <;> simp [free]

theorem StandsFor.act (stands : tandem.StandsFor client) {event : Event} (free : tandem.free event = true) :
    (tandem.act event).StandsFor (client.step event) := by
  obtain ⟨left, calm, making⟩ := free_iff.mp free
  have refused (shut : tandem.client.accepting = false) : (tandem.client.step event).waiting = [] := by
    rw [Client.step_waiting _ making, stands.handed, Client.submitted]
    split <;> simp [shut]
  exact {
    apart := by
      obtain ⟨records, received, counts, same⟩ := stands.apart.step making
      refine ⟨records, received, counts, same.trans ?_⟩
      simp [Tandem.act, line, left]
    handed := rfl
    sound := stands.sound
    silent := stands.silent
    worker := stands.worker
    submits := fun work passed lock => by simpa [left] using (stands.submits work passed lock).2
    shuts := fun passed lock => by simpa [calm] using stands.shuts passed lock
    shutting := by
      intro shutting
      cases event with
      | shutDown => exact ⟨stands.handed, rfl⟩
      | _ => contradiction
    live := by
      intro some
      rw [show (tandem.act event).queue.closed = !tandem.client.accepting from stands.closed calm]
      cases accepting : tandem.client.accepting with
      | true => rfl
      | false => exact absurd (refused accepting) some
    closed := by
      intro open_
      have closing : event ≠ .shutDown := by rintro rfl; contradiction
      have kept := ((Client.step_effect tandem.client event).submits making closing).accepting
      exact (stands.closed calm).trans (congrArg (!·) kept.symm) }

private theorem apart_of_line {line other : List Callback} {a b : Client} (apart : Client.Apart line true a b)
    (same : other = line) : Client.Apart other true a b :=
  same ▸ apart

/-- A task begins, ends or goes on, or a marker is passed. -/
theorem StandsFor.still {queue : Queue Callback} (stands : tandem.StandsFor client) (sound : queue.Sound)
    (line : queue.worker.unmarked ++ (Item.works queue.waiting).map Work.label =
      tandem.queue.worker.unmarked ++ (Item.works tandem.queue.waiting).map Work.label)
    (silent : ∀ work ∈ Item.works queue.waiting, work.children = []) (worker : queue.worker.Silent)
    (lock : queue.lock = tandem.queue.lock) (closed : queue.closed = tandem.queue.closed) :
    StandsFor { tandem with queue } client where
  apart := apart_of_line stands.apart (congrArg (· ++ tandem.left) line)
  handed := stands.handed
  sound := sound
  silent := silent
  worker := worker
  submits := fun work passed held => stands.submits work passed (lock ▸ held)
  shuts := fun passed held => stands.shuts passed (lock ▸ held)
  shutting := stands.shutting
  live := fun some => closed.trans (stands.live some)
  closed := fun calm => closed.trans (stands.closed calm)

private theorem calls_iff : tandem.calls = true ↔
    ∃ work, tandem.queue.worker = .starting work ∧ work.gate.all tandem.queue.gates.contains = true := by
  unfold calls
  split
  next work worker => simp [worker]
  next other => exact ⟨nofun, fun ⟨work, worker, _⟩ => absurd worker (other work)⟩

theorem StandsFor.turn (stands : tandem.StandsFor client) :
    (tandem.meet .turn).StandsFor (client.run (tandem.alone .turn)) ∧
      Work.Mark.labels (tandem.meet .turn).queue.marks =
        Work.Mark.labels tandem.queue.marks ++ client.made (tandem.alone .turn) := by
  have next := Queue.sound_change stands.sound (Queue.change_happens stands.sound .turn)
  have silent (worker : Worker Callback) (same : tandem.queue.worker = worker) : worker.Silent := same ▸ stands.worker
  cases calls : tandem.calls with
  | true =>
    obtain ⟨work, worker, admits⟩ := calls_iff.mp calls
    have left : tandem.queue.happens .turn = ({ tandem.queue with
        marks := tandem.queue.marks ++ [.ran work.label], worker := .running work work.deeds }, []) := by
      simp [Queue.happens, Queue.step, worker, admits]
    have own : tandem.line = work.label :: ((Item.works tandem.queue.waiting).map Work.label ++ tandem.left) := by
      simp [line, worker, Worker.unmarked]
    obtain ⟨records, received, counts, same⟩ := stands.apart
    have before := silent _ worker
    simp only [alone, calls, if_true, meet, left] at next ⊢
    refine ⟨?_, ?_⟩
    · exact { stands with
        apart := by
          refine ⟨records, received, counts, ?_⟩
          rw [same, own]
          simp [line, Worker.unmarked, Client.step, Client.possible, Client.perform]
        sound := next
        worker := before }
    · rw [same]
      simp [Client.made, own, Work.Mark.labels]
  | false =>
    have change := Queue.change_happens stands.sound .turn
    simp only [alone, calls, Bool.false_eq_true, if_false, meet, Client.run_nil, Client.made, List.append_nil]
    generalize tandem.queue.happens .turn = after at next change ⊢
    obtain ⟨queue, occurred⟩ := after
    cases change with
    | idle => exact ⟨stands, rfl⟩
    | turn turn =>
      cases turn with
      | skip worker waiting =>
        exact ⟨stands.still next (by simp [waiting, Item.works]) (by simpa [waiting, Item.works] using stands.silent)
          stands.worker rfl rfl, rfl⟩
      | begin worker waiting =>
        have waits := stands.silent
        simp only [waiting, Item.works, List.filterMap_cons, List.forall_mem_cons] at waits
        exact ⟨stands.still next (by simp [worker, waiting, Item.works, Worker.unmarked]) waits.2 waits.1 rfl rfl, rfl⟩
      | leave worker admits =>
        have going := calls_iff.mpr ⟨_, worker, admits⟩
        rw [calls] at going
        contradiction
      | pass worker admits =>
        have left := silent _ worker
        exact ⟨stands.still next (by simp [worker, Worker.unmarked]) stands.silent left rfl rfl, rfl⟩
      | finish worker stops =>
        exact ⟨stands.still next (by simp [worker, Worker.unmarked]) stands.silent trivial rfl rfl, rfl⟩
      | acquire worker lock => exact absurd (silent _ worker) (by simp [Worker.Silent, Deed.submitted])
      | look worker | refuse worker | hand worker => exact (silent _ worker).elim

theorem StandsFor.go (stands : tandem.StandsFor client) :
    tandem.go.StandsFor client ∧ tandem.go.queue.marks = tandem.queue.marks := by
  have next := Queue.sound_change stands.sound (Queue.change_happens stands.sound .go)
  have change := Queue.change_happens stands.sound .go
  unfold Tandem.go
  generalize tandem.queue.happens .go = after at next change ⊢
  obtain ⟨queue, occurred⟩ := after
  cases change with
  | idle => exact ⟨stands, rfl⟩
  | @look operation lock live =>
    refine ⟨{ stands with
      sound := next
      submits := ?_
      shuts := ?_ }, rfl⟩
    · rintro work passed held
      cases held
      exact stands.submits work false lock
    · rintro passed held
      cases held
      exact stands.shuts false lock
  | @decline operation lock shut =>
    cases operation with
    | submit work =>
      have live := stands.live fun none => by simpa [none] using (stands.submits work _ lock).2
      rw [shut] at live
      contradiction
    | drain => exact ⟨{ stands with sound := next, submits := by simp, shuts := by simp }, rfl⟩
    | shutdown =>
      have shutting := stands.shutting (stands.shuts _ lock)
      exact ⟨{ stands with
        sound := next, submits := by simp, shuts := by simp, shutting := by simp
        closed := fun _ => shut.trans (congrArg (!·) shutting.2.symm) }, rfl⟩
  | @act operation lock live =>
    cases operation with
    | submit work =>
      obtain ⟨silent, first⟩ := stands.submits work _ lock
      obtain ⟨rest, left⟩ := List.head?_eq_some_iff.mp first
      refine ⟨{ stands with
        apart := apart_of_line stands.apart (by simp [line, Queue.acted, Item.works, left])
        sound := next
        silent := ?_
        submits := by simp
        shuts := by simp
        shutting := fun shutting => absurd (stands.shutting shutting).1 (by simp [left])
        live := fun _ => live }, rfl⟩
      simpa [Queue.acted, Item.works, or_imp, forall_and, silent] using stands.silent
    | drain =>
      refine ⟨{ stands with
        apart := apart_of_line stands.apart (by simp [line, Queue.acted, Item.works])
        sound := next
        silent := ?_
        submits := by simp
        shuts := by simp }, rfl⟩
      simpa [Queue.acted, Item.works] using stands.silent
    | shutdown =>
      have shutting := stands.shutting (stands.shuts _ lock)
      exact ⟨{ stands with
        sound := next, submits := by simp, shuts := by simp, shutting := by simp
        live := fun some => absurd shutting.1 some
        closed := fun _ => congrArg (!·) shutting.2.symm }, rfl⟩

/-- The lock is asked for, by the client for what it has to do next or by somebody who drains the queue. -/
theorem StandsFor.enter (stands : tandem.StandsFor client) {operation : Operation Callback}
    (submits : ∀ work, operation = .submit work → work.children = [] ∧ tandem.left.head? = some work.label)
    (shuts : operation = .shutdown → tandem.shutting = true) :
    (tandem.meet (.enter operation)).StandsFor client ∧ (tandem.meet (.enter operation)).queue.marks = tandem.queue.marks := by
  have next := Queue.sound_change stands.sound (Queue.change_happens stands.sound (.enter operation))
  have change := Queue.change_happens stands.sound (.enter operation)
  unfold Tandem.meet
  generalize tandem.queue.happens (.enter operation) = after at next change ⊢
  obtain ⟨queue, occurred⟩ := after
  cases change with
  | idle => exact ⟨stands, rfl⟩
  | enter lock =>
    refine ⟨{ stands with
      sound := next
      submits := ?_
      shuts := ?_ }, rfl⟩
    · rintro work passed held
      cases held
      exact submits work rfl
    · rintro passed held
      cases held
      exact shuts rfl

theorem StandsFor.step (labelled : ∀ number callback, (task number callback).label = callback)
    (silent : ∀ number callback, (task number callback).children = []) (stands : tandem.StandsFor client) (move : Move) :
    (tandem.step task move).StandsFor (client.run (tandem.alone move)) ∧
      Work.Mark.labels (tandem.step task move).queue.marks =
        Work.Mark.labels tandem.queue.marks ++ client.made (tandem.alone move) := by
  have quiet {later : Tandem} (kept : later.StandsFor client ∧ later.queue.marks = tandem.queue.marks) :
      later.StandsFor (client.run []) ∧
        Work.Mark.labels later.queue.marks = Work.Mark.labels tandem.queue.marks ++ client.made [] :=
    ⟨kept.1, by rw [kept.2, Client.made, List.append_nil]⟩
  cases move with
  | event event =>
    cases free : tandem.free event with
    | false =>
      simp only [Tandem.step, alone, free, Bool.false_eq_true, if_false]
      exact quiet ⟨stands, rfl⟩
    | true =>
      simp only [Tandem.step, alone, free, if_true]
      have making := (free_iff.mp free).2.2
      have none : client.made [event] = [] := by cases event <;> first | contradiction | rfl
      rw [none, List.append_nil]
      exact ⟨stands.act free, rfl⟩
  | submit =>
    cases left : tandem.left with
    | nil =>
      simp only [Tandem.step, left]
      exact quiet ⟨stands, rfl⟩
    | cons callback rest =>
      simp only [Tandem.step, left]
      refine quiet (stands.enter ?_ nofun)
      rintro work same
      cases same
      exact ⟨silent _ _, by rw [left, List.head?_cons, labelled]⟩
  | shutdown =>
    cases shutting : tandem.shutting with
    | false =>
      simp only [Tandem.step, shutting, Bool.false_eq_true, if_false]
      exact quiet ⟨stands, rfl⟩
    | true =>
      simp only [Tandem.step, shutting, if_true]
      exact quiet (stands.enter nofun fun _ => shutting)
  | drain => exact quiet (stands.enter nofun nofun)
  | go => exact quiet stands.go
  | turn => exact stands.turn
  | halt =>
    have next := Queue.sound_change stands.sound (Queue.change_happens stands.sound .halt)
    have change := Queue.change_happens stands.sound .halt
    simp only [Tandem.step, alone, meet] at next ⊢
    generalize tandem.queue.happens .halt = after at next change ⊢
    obtain ⟨queue, occurred⟩ := after
    cases change with
    | idle => exact quiet ⟨stands, rfl⟩
    | halt => exact quiet ⟨stands.still next rfl stands.silent stands.worker rfl rfl, rfl⟩
  | release gate =>
    have next := Queue.sound_change stands.sound (Queue.change_happens stands.sound (.release gate))
    exact quiet ⟨stands.still next rfl stands.silent stands.worker rfl rfl, rfl⟩

theorem StandsFor.run (labelled : ∀ number callback, (task number callback).label = callback)
    (silent : ∀ number callback, (task number callback).children = []) (stands : tandem.StandsFor client)
    (moves : List Move) :
    (tandem.run task moves).StandsFor (client.run (tandem.course task moves)) ∧
      Work.Mark.labels (tandem.run task moves).queue.marks =
        Work.Mark.labels tandem.queue.marks ++ client.made (tandem.course task moves) := by
  induction moves generalizing tandem client with
  | nil => exact ⟨stands, (List.append_nil _).symm⟩
  | cons move rest ih =>
    obtain ⟨first, marks⟩ := stands.step labelled silent move
    obtain ⟨last, later⟩ := ih first
    refine ⟨?_, ?_⟩
    · rw [course, Client.run_append]
      exact last
    · rw [course, Client.made_append, ← List.append_assoc, ← marks]
      exact later

/-- Whatever the order in which a client and its worker go on, it is as if the client's callbacks waited in one line and were
taken from there: the client differs from one on its own in nothing but that line and the log, the callbacks are made in the
same order, and once no call is under way the queue is closed if the client takes no more callbacks. Tasks may wait and
fail, but submit nothing. -/
theorem run_stands_for_client (task : Nat → Callback → Work Callback)
    (labelled : ∀ number callback, (task number callback).label = callback)
    (silent : ∀ number callback, (task number callback).children = []) (url : Text) (moves : List Move) :
    let last := Tandem.run task { client := .fresh url } moves
    let events := Tandem.course task { client := .fresh url } moves
    Client.Apart last.line true last.client ((Client.fresh url).run events) ∧
      Work.Mark.labels last.queue.marks = (Client.fresh url).made events ∧
      (last.shutting = false → last.queue.closed = !last.client.accepting) := by
  obtain ⟨stands, made⟩ := (standsFor_new rfl rfl : StandsFor { client := .fresh url } (.fresh url)).run labelled silent moves
  exact ⟨stands.apart, made, stands.closed⟩

end Tandem
end Pubsub
