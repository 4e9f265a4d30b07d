import Pubsub.Proofs.Link
import Pubsub.Session.Weight

/-! How much weight the operations of a client add. What goes on, a reader in its turn or a call that was suspended, takes
some away first. -/

namespace Pubsub

theorem total_nil {α : Type} (f : α → Nat) : total f [] = 0 := rfl

theorem total_cons {α : Type} (f : α → Nat) (first : α) (rest : List α) : total f (first :: rest) = f first + total f rest := rfl

theorem total_append {α : Type} (f : α → Nat) (first second : List α) :
    total f (first ++ second) = total f first + total f second := by
  induction first with
  | nil => exact (Nat.zero_add _).symm
  | cons item rest ih => rw [List.cons_append, total_cons, total_cons, ih, Nat.add_assoc]

theorem total_filter_le {α : Type} (items : List α) (keep : α → Bool) (f : α → Nat) :
    total f (items.filter keep) ≤ total f items := by
  induction items with
  | nil => exact Nat.le_refl _
  | cons first rest ih =>
    rw [List.filter_cons]
    split <;> simp only [total_cons] <;> omega

theorem total_filter_add {α : Type} {items : List α} {keep : α → Bool} {item : α} (member : item ∈ items)
    (dropped : keep item = false) (f : α → Nat) :
    total f (items.filter keep) + f item ≤ total f items := by
  induction items with
  | nil => contradiction
  | cons first rest ih =>
    rcases List.mem_cons.mp member with rfl | later
    · rw [List.filter_cons, dropped]
      have others := total_filter_le rest keep f
      simp only [Bool.false_eq_true, if_false, total_cons]
      omega
    · have others := ih later
      rw [List.filter_cons]
      split <;> simp only [total_cons] <;> omega

theorem total_modify {α : Type} {items : List α} {index : Nat} {item : α} (found : items[index]? = some item)
    (change : α → α) (f : α → Nat) :
    total f (items.modify index change) + f item = total f items + f (change item) := by
  induction items generalizing index with
  | nil => contradiction
  | cons first rest ih =>
    cases index with
    | zero =>
      cases found
      simp only [List.modify_zero_cons, total_cons]
      omega
    | succ index =>
      have others := ih found
      simp only [List.modify_succ_cons, total_cons]
      omega

private theorem total_modify_le {α : Type} (items : List α) (index : Nat) (change : α → α) {f : α → Nat}
    (less : ∀ item, f (change item) ≤ f item) : total f (items.modify index change) ≤ total f items := by
  cases found : items[index]? with
  | none => exact Nat.le_of_eq (by rw [List.modify_eq_self (List.getElem?_eq_none_iff.mp found)])
  | some item =>
    have changed := total_modify found change f
    have := less item
    omega

def Progress.weight : Progress → Nat
  | .done _ => 0
  | .suspended _ => 2

theorem Progress.weight_le (progress : Progress) : progress.weight ≤ 2 := by
  cases progress <;> simp [weight]

namespace Client

/-- What an operation adds at most: so many channels and readers, and so much weight. -/
structure Gains (channels steps cost : Nat) (before after : Client) : Prop where
  registered : after.registered.length ≤ before.registered.length + steps
  crew : after.crew ≤ before.crew + steps
  weight : after.weight channels ≤ before.weight channels + cost

variable {channels : Nat}

namespace Gains

theorem refl (client : Client) : Gains channels 0 0 client client := ⟨Nat.le_refl _, Nat.le_refl _, Nat.le_refl _⟩

theorem trans {first middle last : Client} {steps cost others more : Nat} (a : Gains channels steps cost first middle)
    (b : Gains channels others more middle last) : Gains channels (steps + others) (cost + more) first last := by
  obtain ⟨registered, crew, weight⟩ := a
  obtain ⟨listed, hired, weighs⟩ := b
  exact ⟨by omega, by omega, by omega⟩

theorem mono {before after : Client} {steps cost others more : Nat} (gains : Gains channels steps cost before after)
    (fewer : steps ≤ others) (less : cost ≤ more) : Gains channels others more before after := by
  obtain ⟨registered, crew, weight⟩ := gains
  exact ⟨by omega, by omega, by omega⟩

theorem free {before after : Client} (gains : Gains channels 0 0 before after) (steps cost : Nat) :
    Gains channels steps cost before after := gains.mono (Nat.zero_le _) (Nat.zero_le _)

theorem of_same {before after : Client} (registered : after.registered.length ≤ before.registered.length)
    (sockets : after.sockets = before.sockets) (calls : after.calls = before.calls) (readers : after.readers = before.readers) :
    Gains channels 0 0 before after := by
  refine ⟨registered, ?_, ?_⟩
  · rw [Client.crew, calls, readers]
    exact Nat.le_refl _
  · rw [Client.weight, unread, sockets, calls, readers]
    exact Nat.le_refl _

theorem quiet {before after : Client} (quiet : Quiet before after) : Gains channels 0 0 before after := by
  obtain ⟨_, _, _, rfl⟩ := quiet
  exact of_same (Nat.le_refl _) rfl rfl rfl

variable (client : Client)

theorem log (source : Source) (level : Level) (message : Text) (details : Members) :
    Gains channels 0 0 client (client.log source level message details) := quiet (.log client source level message details)

theorem suspendAll : Gains channels 0 0 client client.suspendAll.1 := quiet (resetAll_quiet client client.registered)

theorem endAll : Gains channels 0 0 client client.endAll := by
  have ended : Gains channels 0 0 client _ := quiet (endEach_quiet client client.registered)
  exact ⟨Nat.zero_le _, ended.crew, ended.weight⟩

theorem suspend (task : Task) (stage : Stage) :
    Gains channels stage.starts (2 * stage.weight) client (client.suspend task stage).1 := by
  refine ⟨Nat.le_add_right _ _, ?_, ?_⟩
  · simp only [Client.suspend, Client.crew, total_append, total_cons, total_nil]
    omega
  · simp only [Client.suspend, Client.weight, unread, total_append, total_cons, total_nil]
    omega

theorem asking (task : Task) {stage : Stage} (id : ChannelId) (channel : Channel) (socket : Option SocketId)
    (about : stage.channel? = some id) :
    Gains channels 0 (2 * stage.weight) client (client.asking task stage id channel socket) := by
  have starts : stage.starts = 0 := by cases stage <;> first | rfl | contradiction
  have moved : Gains channels 0 0 client (client.moveTo id .requested).1 := quiet (.moveTo client id .requested)
  have suspended : Gains channels stage.starts (2 * stage.weight) { (client.moveTo id .requested).1 with
    sent := (client.moveTo id .requested).1.sent ++ [⟨socket, .request id channel.request⟩] } _ := suspend _ task stage
  exact (moved.trans ⟨suspended.registered, suspended.crew, suspended.weight⟩).mono (by omega) (by omega)

theorem retract (id : ChannelId) : Gains channels 0 0 client ((client.moveTo id .requested).1.rollBack id) :=
  quiet ((Quiet.moveTo client id .requested).trans (.rollBack _ id))

theorem resubscribe (task : Task) (reader : Option ReaderId) (ids : List ChannelId) :
    Gains channels 0 (2 * ids.length) client (Client.resubscribe task reader ids client).1 := by
  induction ids generalizing client with
  | nil =>
    unfold Client.resubscribe
    split
    · exact refl client
    · exact log client _ _ _ _
  | cons id rest ih =>
    have fewer : 2 * rest.length ≤ 2 * (id :: rest).length := by rw [List.length_cons]; omega
    apply resubscribe_cases (motive := fun result => Gains channels 0 (2 * (id :: rest).length) client result.1)
    · exact fun _ => (ih client).mono (Nat.le_refl _) fewer
    · exact fun channel _ _ => ((log client .manager .debug _ []).trans (ih _)).mono (Nat.le_refl _) (by omega)
    · intro channel socket _ _ _ _
      have about : (Stage.resubscribing id rest reader).channel? = some id := rfl
      exact asking client task id channel socket about
    · exact fun _ _ _ _ _ _ => (retract client id).free _ _

theorem subscribe (task : Task) (name : Option Text) (listener : Option Listener) (events : List (Option Text)) :
    Gains channels 1 2 client (client.subscribe task name listener events).1 := by
  cases made : client.newChannel name listener events with
  | error error =>
    rw [subscribe_of_refused task made]
    exact (refl client).free _ _
  | ok channel =>
    have registers : Gains channels 1 0 client (client.register channel) := by
      refine ⟨?_, Nat.le_add_right _ _, Nat.le_refl _⟩
      simp [register, Client.log]
    rw [subscribe_eq made]
    split
    · apply requestChannel_cases (motive := fun result => Gains channels 1 2 client result.1)
      · exact fun _ => registers.mono (Nat.le_refl _) (Nat.zero_le _)
      · exact fun _ _ _ => (registers.trans (log _ _ _ _ _)).mono (Nat.le_refl _) (Nat.zero_le _)
      · intro asked socket _ _ _ _
        have about : (Stage.subscribing client.channels.length).channel? = some client.channels.length := rfl
        exact registers.trans (asking _ task _ asked socket about)
      · exact fun _ _ _ _ _ _ => (registers.trans (retract _ _)).mono (Nat.le_refl _) (Nat.zero_le _)
    · exact registers.mono (Nat.le_refl _) (Nat.zero_le _)

theorem unsubscribe (task : Task) (name : Option Text) :
    Gains channels 0 2 client (client.unsubscribe task name).1 := by
  have removed (id : ChannelId) : Gains channels 0 0 client (client.removing id) := by
    have erased : Gains channels 0 0 client { client with registered := client.registered.erase id } :=
      of_same List.length_erase_le rfl rfl rfl
    exact (erased.trans (quiet (.moveTo _ id .ended))).trans (log _ .manager .info _ [])
  apply unsubscribe_cases (motive := fun result => Gains channels 0 2 client result.1)
  · exact fun _ => (refl client).free _ _
  · exact fun id _ _ => (removed id).free _ _
  · intro id socket _ _
    have handed : Gains channels 0 0 (client.removing id) { client.removing id with
        sent := (client.removing id).sent ++ [⟨socket, .request id (.unsubscribe (client.nameOf id))⟩] } :=
      of_same (Nat.le_refl _) rfl rfl rfl
    exact ((removed id).trans handed).trans (suspend _ task .unsubscribing)

theorem message (task : Task) (text : Text) : Gains channels 0 2 client (client.message task text).1 := by
  unfold Client.message
  split
  · exact (refl client).free _ _
  next socket _ =>
    have handed : Gains channels 0 0 client { client with sent := client.sent ++ [⟨socket, .message text⟩] } :=
      of_same (Nat.le_refl _) rfl rfl rfl
    exact handed.trans (suspend _ task .messaging)

theorem connect (task : Task) : Gains channels 1 4 client (client.connect task).1 := by
  have opening : Gains channels 0 0 client { client with connection := { client.connection with closing := false } } :=
    of_same (Nat.le_refl _) rfl rfl rfl
  exact (opening.trans (log _ .connection .info "Connecting" _)).trans (suspend _ task .connecting)

theorem tearDown : Gains channels 0 0 client client.tearDown.1 := (endAll client).trans (log _ _ _ _ _)

theorem changeSocket (socket : SocketId) {change : Socket → Socket}
    (kept : ∀ socket, (change socket).incoming = socket.incoming) :
    Gains channels 0 0 client { client with sockets := client.sockets.modify socket change } := by
  have unread := total_modify_le client.sockets socket change (f := fun socket => socket.incoming.length)
    fun socket => Nat.le_of_eq (congrArg List.length (kept socket))
  exact ⟨Nat.le_refl _, Nat.le_refl _, Nat.add_le_add_right (Nat.add_le_add_right (Nat.mul_le_mul_right _ unread) _) _⟩

theorem closeSocket (task : Task) : Gains channels 0 2 client (client.closeSocket task).1 := by
  unfold Client.closeSocket
  split
  · exact (tearDown client).free _ _
  next socket _ =>
    have closes : Gains channels 0 0 client { client with
        sockets := client.sockets.modify socket fun socket => { socket with closes := socket.closes + 1 } } :=
      changeSocket client socket fun _ => rfl
    exact closes.trans (suspend _ task (.closing socket))

theorem closed (socket : SocketId) : Gains channels 0 0 client (client.closed socket).1 := by
  have detached : Gains channels 0 0 client client.detached := of_same (Nat.le_refl _) rfl rfl rfl
  unfold Client.closed
  dsimp only
  split
  · exact detached.trans (tearDown _)
  · exact (detached.trans (log _ _ _ _ _)).trans (tearDown _)

private theorem changeReaders {readers : List Reader} (length : readers.length = client.readers.length) {cost : Nat}
    (weight : total (·.weight) readers ≤ total (·.weight) client.readers + cost) :
    Gains channels 0 cost client { client with readers } := by
  refine ⟨Nat.le_refl _, ?_, ?_⟩
  · simp only [Client.crew, length, Nat.add_zero, Nat.le_refl]
  · simp only [Client.weight, unread]
    omega

theorem cancel (reader : ReaderId) : Gains channels 0 1 client (client.cancel reader) := by
  unfold Client.cancel
  split
  · exact (refl client).free _ _
  · apply changeReaders client (List.length_modify ..)
    cases found : client.readers[reader]? with
    | none => rw [List.modify_eq_self (List.getElem?_eq_none_iff.mp found)]; omega
    | some state =>
      have changed := total_modify found (fun reader => { reader with cancelling := true }) (·.weight)
      have one : Reader.weight { state with cancelling := true } ≤ state.weight + 1 := by
        unfold Reader.weight
        simp only [if_true]
        omega
      omega

theorem disconnect (task : Task) : Gains channels 0 5 client (client.disconnect task).1 := by
  have given : Gains channels 0 0 client client.givingUp := of_same (Nat.le_refl _) rfl rfl rfl
  have closing := given.trans (closeSocket _ task)
  unfold Client.disconnect
  dsimp only
  split
  · exact closing.mono (Nat.le_refl _) (by omega)
  next reader _ =>
    split
    · exact closing.mono (Nat.le_refl _) (by omega)
    · split
      · exact (given.trans (cancel _ reader)).mono (Nat.le_refl _) (by omega)
      · split
        · have barred : Gains channels 0 0 client.givingUp client.givingUp.bar := of_same (Nat.le_refl _) rfl rfl rfl
          exact ((given.trans barred).trans (suspend _ task (.disconnecting none))).mono (Nat.le_refl _) (Nat.le_succ 4)
        · exact (given.trans (cancel _ reader)).trans (suspend _ task (.disconnecting (some reader)))

theorem setReading (reader : ReaderId) {reading : Reading} (started : reading ≠ .starting) :
    Gains channels 0 0 client (client.setReading reader reading) := by
  apply changeReaders client (List.length_modify ..)
  apply total_modify_le
  intro state
  unfold Reader.weight
  cases reading <;> first | contradiction | simp

theorem finish (reader : ReaderId) (outcome : Outcome) : Gains channels 0 0 client (client.finish reader outcome) := by
  have lost : Gains channels 0 0 client client.lost := of_same (Nat.le_refl _) rfl rfl rfl
  unfold Client.finish
  dsimp only
  split
  · exact lost.trans (setReading _ reader (by simp))
  · exact (lost.trans (suspendAll _)).trans (setReading _ reader (by simp))

theorem fail (reader : ReaderId) (error : Error) : Gains channels 0 0 client (client.fail reader error) := by
  unfold Client.fail
  split
  · exact (log client _ _ _ _).trans (finish _ reader .ended)
  · exact finish client reader _

theorem settle (reader : ReaderId) (socket : SocketId) (result : Except Error (Option ChannelId)) :
    Gains channels 0 0 client (client.settle reader socket result) := by
  unfold Client.settle
  split
  · exact setReading client reader (by simp)
  · split
    · exact (log client _ _ _ _).trans (setReading _ reader (by simp))
    · exact fail client reader _

omit client in
theorem passOn {before : Client} {result : Client × Progress} {steps cost : Nat}
    (gains : Gains channels steps cost before result.1) (reader : Option ReaderId) :
    Gains channels steps cost before (passOn reader result).1 := by
  obtain ⟨client, result | call⟩ := result
  · cases reader with
    | none => exact gains
    | some reader =>
      simp only [Client.passOn]
      split
      · exact gains.trans (settle client reader _ result)
      · exact gains
  · exact gains

theorem confirm (few : client.registered.length ≤ channels) (reader : ReaderId) (socket : SocketId) (members : Members) :
    Gains channels 0 (2 * channels) client (client.confirm reader socket members).1 := by
  have established : Gains channels 0 0 client (client.established members) := of_same (Nat.le_refl _) rfl rfl rfl
  have busy : Gains channels 0 0 client ((client.established members).setReading reader (.busy socket)) :=
    established.trans (setReading _ reader (by simp))
  have listed : ((client.established members).setReading reader (.busy socket)).listing.length = client.registered.length :=
    List.length_mergeSort _
  have requested := busy.trans (resubscribe _ (.reader reader) (some reader)
    ((client.established members).setReading reader (.busy socket)).listing)
  unfold Client.confirm resubscribeAll
  generalize Client.resubscribe (.reader reader) (some reader) _ _ = result at requested
  obtain ⟨after, result | call⟩ := result
  · exact (requested.trans (settle after reader socket result)).mono (Nat.le_refl _) (by omega)
  · exact requested.mono (Nat.le_refl _) (by omega)

theorem establish (few : client.registered.length ≤ channels) (reader : ReaderId) (socket : SocketId) (depth : Nat)
    (data : Payload) : Gains channels 0 (2 * channels) client (client.establish reader socket depth data).1 := by
  unfold Client.establish
  split
  · exact confirm client few reader socket _
  next cause _ =>
    let warned := client.log .connection .warning "Malformed connection_established frame"
      [("error", .text (Error.undecodable cause).message)]
    have fewer : warned.registered.length ≤ channels := few
    have confirmed := (log client .connection .warning _ _).trans (confirm warned fewer reader socket [])
    exact confirmed.mono (Nat.le_refl _) (Nat.le_of_eq (Nat.zero_add _))
  · exact (fail client reader _).free _ _

theorem route (reader : ReaderId) (channel event : Text) (frame : Frame) :
    Gains channels 0 0 client (client.route reader channel event frame) := by
  have heard : Gains channels 0 0 client (client.deliver channel event frame).1 := quiet (.deliver client channel event frame)
  unfold Client.route delivered
  dsimp only
  split
  · exact heard
  · exact heard.trans (log _ _ _ _ _)
  · split
    · exact heard.trans (log _ _ _ _ _)
    · exact heard.trans (fail _ reader _)

theorem handle (few : client.registered.length ≤ channels) (reader : ReaderId) (socket : SocketId) (frame : Frame) :
    Gains channels 0 (2 * channels) client (client.handle reader socket frame).1 := by
  have counted : Gains channels 0 0 client client.counted := of_same (Nat.le_refl _) rfl rfl rfl
  have lightly {after : Client} (gains : Gains channels 0 0 client.counted after) :
      Gains channels 0 (2 * channels) client after := (counted.trans gains).free _ _
  unfold Client.handle
  dsimp only
  split
  · exact lightly (log _ _ _ _ _)
  · exact lightly (fail _ reader _)
  next envelope _ =>
    split
    · have fewer : client.counted.registered.length ≤ channels := few
      have established := counted.trans (establish _ fewer reader socket frame.room.confirmation envelope.data)
      exact established.mono (Nat.le_refl _) (Nat.le_of_eq (Nat.zero_add _))
    · split
      · exact lightly (log _ _ _ _ _)
      · split
        · exact lightly (route _ reader _ _ frame)
        · exact lightly (log _ _ _ _ _)

theorem take (few : client.registered.length ≤ channels) (reader : ReaderId) (socket : SocketId) (arrival : Arrival) :
    Gains channels 0 (2 * channels) client (client.take reader socket arrival).1 := by
  have lightly {after : Client} (gains : Gains channels 0 0 client after) : Gains channels 0 (2 * channels) client after :=
    gains.free _ _
  cases arrival with
  | frame frame => exact handle client few reader socket frame
  | ending ending =>
    cases ending with
    | finished => exact lightly (finish client reader .ended)
    | closed code => exact lightly ((log client _ _ _ _).trans (finish _ reader .ended))
    | broken code reason => exact lightly (fail client reader (.socketClosed code reason))
    | failed reason => exact lightly (fail client reader (.system reason))

end Gains

/-- What goes on takes something away first, so that there is room for what it may have suspended. -/
structure Spends (channels spent : Nat) (before after : Client) : Prop where
  registered : after.registered.length ≤ before.registered.length
  crew : after.crew ≤ before.crew
  weight : after.weight channels + spent ≤ before.weight channels

private theorem weight_leave {client : Client} {socket : SocketId} {arrival : Arrival} {rest : List Arrival}
    (arrived : client.sockets[socket]?.map (·.incoming) = some (arrival :: rest)) (channels : Nat) :
    (client.leave socket rest).weight channels + (2 * channels + 3) = client.weight channels := by
  obtain ⟨state, found, incoming⟩ := Option.map_eq_some_iff.mp arrived
  have less := total_modify found (fun socket => { socket with incoming := rest }) (fun socket => socket.incoming.length)
  simp only [incoming, List.length_cons] at less
  have unread : client.unread = (client.leave socket rest).unread + 1 := by
    simp only [Client.unread, leave]
    omega
  simp only [weight, unread, Nat.add_mul]
  simp only [leave]
  omega

private theorem start_spends {client : Client} {reader : ReaderId} (starts : client.reading? reader = some .starting)
    {reading : Reading} (started : reading ≠ .starting) : Spends channels 1 client (client.setReading reader reading) := by
  obtain ⟨state, found, starting⟩ := Option.map_eq_some_iff.mp starts
  have changed := total_modify found (fun reader => { reader with reading }) (·.weight)
  have less : Reader.weight { state with reading } + 1 = state.weight := by
    unfold Reader.weight
    rw [starting]
    cases reading <;> first | contradiction | (simp only []; omega)
  refine ⟨Nat.le_refl _, ?_, ?_⟩
  · simp only [crew, setReading, List.length_modify, Nat.le_refl]
  · simp only [weight, unread, setReading]
    omega

theorem turn_spends {client : Client} {reader : ReaderId} (input : Session.hasInput client reader = true)
    (few : client.registered.length ≤ channels) :
    Spends channels (1 + (client.turn reader).2.weight) client (client.turn reader).1 := by
  unfold Session.hasInput at input
  unfold turn
  split
  next starts =>
    split
    · exact start_spends starts (by simp)
    · exact start_spends starts (by simp)
  next socket idle =>
    rw [idle] at input
    split
    next arrival rest arrived =>
      have left := weight_leave arrived channels
      have taken := Gains.take (client.leave socket rest) few reader socket arrival
      have most := ((client.leave socket rest).take reader socket arrival).2.weight_le
      refine ⟨taken.registered, taken.crew, ?_⟩
      have weight := taken.weight
      omega
    next none =>
      cases incoming : client.sockets[socket]?.map (·.incoming) with
      | none => simp [incoming] at input
      | some arrivals =>
        cases arrivals with
        | nil => simp [incoming] at input
        | cons arrival rest => exact absurd incoming (none arrival rest)
  next unready unread =>
    split at input
    · exact absurd ‹_› unready
    · exact absurd ‹_› (unread _)
    · contradiction

private theorem call_mem {client : Client} {id : CallId} {call : Call} (found : client.call? id = some call) :
    (id, call) ∈ client.calls := by
  obtain ⟨⟨other, _⟩, member, rfl⟩ := Option.map_eq_some_iff.mp found
  obtain rfl : other = id := by simpa using List.find?_some member
  exact List.mem_of_find?_eq_some member

private theorem drop_spends {client : Client} {id : CallId} {call : Call} (found : client.call? id = some call)
    (channels : Nat) :
    (client.drop id).weight channels + 2 * call.stage.weight ≤ client.weight channels ∧
      (client.drop id).crew + call.stage.starts ≤ client.crew := by
  have dropped : (!((id, call) : CallId × Call).1 == id) = false := by simp
  have less : total (·.2.stage.weight) (client.drop id).calls + call.stage.weight ≤
      total (·.2.stage.weight) client.calls := total_filter_add (call_mem found) dropped _
  have fewer : total (·.2.stage.starts) (client.drop id).calls + call.stage.starts ≤
      total (·.2.stage.starts) client.calls := total_filter_add (call_mem found) dropped _
  have sockets : (client.drop id).sockets = client.sockets := rfl
  have readers : (client.drop id).readers = client.readers := rfl
  constructor
  · simp only [weight, unread, sockets, readers]
    omega
  · simp only [crew, readers]
    omega

private theorem opened_weight (client : Client) (channels : Nat) :
    client.opened.weight channels = client.weight channels + 1 := by
  simp only [weight, unread, opened, total_append, total_cons, total_nil]
  simp [Reader.weight]
  omega

theorem resume_spends {client : Client} {id : CallId} (present : (client.call? id).isSome) (outcome : Except Error Unit)
    (channels : Nat) : Spends channels 2 client (client.resume id outcome).1 := by
  obtain ⟨⟨task, stage⟩, found⟩ := Option.isSome_iff_exists.mp present
  obtain ⟨weight, crew⟩ := drop_spends found channels
  -- what goes on weighs less than the call that was dropped for it
  have onward {after : Client} {cost : Nat} (gains : Gains channels 0 cost (client.drop id) after)
      (less : cost + 2 ≤ 2 * stage.weight) : Spends channels 2 client after := by
    obtain ⟨registered, hired, weighs⟩ := gains
    refine ⟨registered, ?_, ?_⟩ <;> dsimp only at weight crew <;> omega
  unfold resume
  rw [found]
  dsimp only
  cases stage with
  | subscribing channel =>
    cases outcome with
    | ok => exact onward (.refl _) (Nat.le_refl _)
    | error error => exact onward (.quiet (.rollBack _ channel)) (Nat.le_refl _)
  | unsubscribing | messaging => exact onward (.refl _) (Nat.le_refl _)
  | resubscribing channel rest reader =>
    cases outcome with
    | ok => exact onward ((Gains.resubscribe _ task reader rest).passOn reader) (by simp only [Stage.weight]; omega)
    | error error =>
      have back : Gains channels 0 0 (client.drop id) ((client.drop id).rollBack channel) := .quiet (.rollBack _ channel)
      exact onward (back.passOn reader) (by simp only [Stage.weight]; omega)
  | connecting =>
    cases outcome with
    | ok =>
      have opens := opened_weight (client.drop id) channels
      refine ⟨Nat.le_refl _, ?_, ?_⟩
      · have hired : (client.drop id).opened.crew = (client.drop id).crew + 1 := by
          simp only [Client.crew, opened, List.length_append, List.length_singleton]
          omega
        exact hired ▸ crew
      · simp only [Stage.weight] at weight ⊢
        omega
    | error error => exact onward (.refl _) (by decide)
  | disconnecting reader =>
    dsimp only
    split
    · exact onward (.refl _) (by simp [Stage.weight])
    · exact onward (.closeSocket _ task) (Nat.le_refl _)
  | closing socket => exact onward (.closed _ socket) (Nat.le_refl _)

theorem unwind_spends {client : Client} {reader : ReaderId} (cancelling : client.isCancelling (.reader reader) = true)
    (channels : Nat) : Spends channels 1 client (client.unwind reader) := by
  have abandoned : Spends channels 1 client (client.abandon reader) := by
    obtain ⟨state, found, told⟩ : ∃ state, client.readers[reader]? = some state ∧ state.cancelling = true := by
      simpa [isCancelling, Option.any_eq_true] using cancelling
    have changed := total_modify found (fun reader => { reader with cancelling := false }) (·.weight)
    have less : Reader.weight { state with cancelling := false } + 1 = state.weight := by simp [Reader.weight, told]
    have calls := total_filter_le client.calls (·.2.task ≠ Task.reader reader) (·.2.stage.weight)
    have starts := total_filter_le client.calls (·.2.task ≠ Task.reader reader) (·.2.stage.starts)
    refine ⟨Nat.le_refl _, ?_, ?_⟩
    · simp only [crew, abandon, List.length_modify]
      omega
    · simp only [weight, unread, abandon]
      omega
  have onward {after : Client} (gains : Gains channels 0 0 (client.abandon reader) after) : Spends channels 1 client after :=
    ⟨Nat.le_trans gains.registered abandoned.registered, Nat.le_trans gains.crew abandoned.crew,
      Nat.le_trans (Nat.add_le_add_right gains.weight 1) abandoned.weight⟩
  unfold unwind
  dsimp only
  split
  · exact onward (.setReading _ reader (by simp))
  · exact onward (.finish _ reader .cancelled)

end Client
end Pubsub
