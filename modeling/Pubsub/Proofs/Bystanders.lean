import Pubsub.Proofs.Edits

/-! What operations do to readers and calls that they are not about: nothing. Only the turn of a reader
counts a frame, and only the application attaches the client to something else. -/

namespace Pubsub.Client

def Numbered (client : Client) : Prop := ∀ entry ∈ client.calls, entry.1 < client.nextCall

theorem call?_suspend {client : Client} (numbered : client.Numbered) (task : Task) (stage : Stage) :
    (client.suspend task stage).1.call? (client.suspend task stage).2 = some ⟨task, stage⟩ := by
  have fresh : client.calls.find? (·.1 == client.nextCall) = none := by
    refine List.find?_eq_none.mpr ?_
    intro entry member same
    exact absurd (numbered entry member) (by simp [beq_iff_eq.mp same])
  simp [suspend, call?, List.find?_append, fresh]

private theorem find?_filter_of_kept {entries : List (CallId × Call)} {id : CallId} {entry : CallId × Call}
    (keep : CallId × Call → Bool) (found : entries.find? (·.1 == id) = some entry) (kept : keep entry = true) :
    (entries.filter keep).find? (·.1 == id) = some entry := by
  induction entries with
  | nil => contradiction
  | cons first rest ih =>
    rw [List.find?_cons] at found
    by_cases same : first.1 == id
    · simp only [same, Option.some.injEq] at found
      subst found
      rw [List.filter_cons_of_pos kept, List.find?_cons, same]
    · simp only [same] at found
      have later := ih found
      by_cases held : keep first
      · simpa only [List.filter_cons_of_pos held, List.find?_cons, same] using later
      · simpa only [List.filter_cons_of_neg held] using later

structure Spares (readers : ReaderId → Prop) (calls : CallId → Prop) (before after : Client) : Prop where
  transport : after.transport = before.transport
  accepting : after.accepting = before.accepting
  received : after.connection.received = before.connection.received
  numbered : before.Numbered → after.Numbered
  reader : ∀ id reader, readers id → before.readers[id]? = some reader → after.readers[id]? = some reader
  call : ∀ id call, calls id → before.call? id = some call → after.call? id = some call

variable {readers : ReaderId → Prop} {calls : CallId → Prop}

theorem Spares.beside (client : Client) (channels : List Channel) (registered : List ChannelId)
    (waiting : List Callback) (sent : List Sent) (records : List Record) :
    Spares readers calls client { client with channels, registered, waiting, sent, records } :=
  ⟨rfl, rfl, rfl, fun numbered => numbered, fun _ _ _ found => found, fun _ _ _ found => found⟩

theorem Quiet.spares {before after : Client} (quiet : Quiet before after) : Spares readers calls before after := by
  obtain ⟨channels, waiting, records, rfl⟩ := quiet
  exact .beside before channels before.registered waiting before.sent records

namespace Spares

theorem refl (client : Client) : Spares readers calls client client := (Quiet.refl client).spares

theorem trans {first middle last : Client} (a : Spares readers calls first middle)
    (b : Spares readers calls middle last) : Spares readers calls first last where
  transport := b.transport.trans a.transport
  accepting := b.accepting.trans a.accepting
  received := b.received.trans a.received
  numbered := fun numbered => b.numbered (a.numbered numbered)
  reader := fun id reader spared found => b.reader id reader spared (a.reader id reader spared found)
  call := fun id call spared found => b.call id call spared (a.call id call spared found)

variable (client : Client)

theorem suspend (task : Task) (stage : Stage) : Spares readers calls client (client.suspend task stage).1 := by
  refine ⟨rfl, rfl, rfl, ?_, fun _ _ _ found => found, ?_⟩
  · intro numbered entry member
    rcases List.mem_append.mp member with old | last
    · exact Nat.lt_succ_of_lt (numbered entry old)
    · obtain rfl := List.mem_singleton.mp last
      exact Nat.lt_succ_self client.nextCall
  · intro id call spared found
    obtain ⟨entry, first, rfl⟩ := Option.map_eq_some_iff.mp found
    simp only [Client.suspend, call?, List.find?_append, first, Option.some_or, Option.map_some]

theorem asking (task : Task) (stage : Stage) (id : ChannelId) (channel : Channel) (socket : Option SocketId) :
    Spares readers calls client (client.asking task stage id channel socket) := by
  let moved := (client.moveTo id .requested).1
  have handed : Spares readers calls moved
      { moved with sent := moved.sent ++ [⟨socket, .request id channel.request⟩] } := .beside moved _ _ _ _ _
  exact (Quiet.moveTo client id .requested).spares.trans (handed.trans (suspend _ task stage))

theorem opened : Spares readers calls client client.opened := by
  refine ⟨rfl, rfl, rfl, fun numbered => numbered, ?_, fun _ _ _ found => found⟩
  intro id reader _ found
  obtain ⟨inside, _⟩ := List.getElem?_eq_some_iff.mp found
  exact (List.getElem?_append_left inside).trans found

variable {reader : ReaderId}

theorem modify (apart : ¬readers reader) (update : Reader → Reader) :
    Spares readers calls client { client with readers := client.readers.modify reader update } := by
  refine ⟨rfl, rfl, rfl, fun numbered => numbered, ?_, fun _ _ _ found => found⟩
  intro id state spared found
  have other : reader ≠ id := fun same => apart (same ▸ spared)
  rw [List.getElem?_modify, found]
  exact congrArg some (if_neg other)

theorem leave (socket : SocketId) (rest : List Arrival) : Spares readers calls client (client.leave socket rest) :=
  ⟨rfl, rfl, rfl, fun numbered => numbered, fun _ _ _ found => found, fun _ _ _ found => found⟩

theorem cancel (apart : ¬readers reader) : Spares readers calls client (client.cancel reader) := by
  unfold Client.cancel
  split
  · exact refl client
  · exact modify client apart _

theorem abandon (apart : ¬readers reader)
    (abandoned : ∀ id call, calls id → client.call? id = some call → call.task ≠ .reader reader) :
    Spares readers calls client (client.abandon reader) := by
  let left : Client := { client with
    connection := (client.abandon reader).connection
    calls := client.calls.filter (·.2.task ≠ Task.reader reader) }
  have first : Spares readers calls client left := by
    refine ⟨rfl, rfl, rfl, fun numbered entry member => numbered entry (List.mem_filter.mp member).1,
      fun _ _ _ found => found, ?_⟩
    intro id call spared found
    obtain ⟨entry, inside, rfl⟩ := Option.map_eq_some_iff.mp found
    have other := abandoned id entry.2 spared found
    exact congrArg (Option.map (·.2)) (find?_filter_of_kept (·.2.task ≠ .reader reader) inside (decide_eq_true other))
  exact first.trans (modify left apart _)

theorem drop {id : CallId} (apart : ¬calls id) : Spares readers calls client (client.drop id) := by
  refine ⟨rfl, rfl, rfl, fun numbered entry member => numbered entry (List.mem_filter.mp member).1,
    fun _ _ _ found => found, ?_⟩
  intro other call spared found
  obtain ⟨entry, inside, rfl⟩ := Option.map_eq_some_iff.mp found
  have named : entry.1 = other := by simpa using List.find?_some inside
  have kept : (entry.1 != id) = true := by
    rw [bne_iff_ne, named]
    exact fun same => apart (same ▸ spared)
  exact congrArg (Option.map (·.2)) (find?_filter_of_kept (·.1 != id) inside kept)

end Spares

theorem Edit.spares {before after : Client} (edit : Edit (fun reader => ¬readers reader) before after) :
    Spares readers calls before after := by
  cases edit with
  | retract => exact ((Quiet.moveTo before _ .requested).trans (Quiet.rollBack _ _)).spares
  | reset id => exact (Quiet.moveTo before id .initial).spares
  | finish id => exact (Quiet.moveTo before id .ended).spares
  | suspend task => exact .suspend before task _
  | read apart reading => exact .modify before apart _
  | stop apart => exact .cancel before apart
  | opened => exact .opened before
  | _ => exact ⟨rfl, rfl, rfl, fun numbered => numbered, fun _ _ _ found => found, fun _ _ _ found => found⟩

theorem Handing.spares {asks : Call → Prop} {before after : Client} (handing : Handing asks before after) :
    Spares readers calls before after := by
  cases handing with
  | ask => exact .asking before _ _ _ _ _
  | @dismiss id name socket =>
    have handed : Spares readers calls before
        { before with sent := before.sent ++ [⟨socket, .request id (.unsubscribe name)⟩] } := .beside before _ _ _ _ _
    exact handed.trans (.suspend _ _ .unsubscribing)

theorem Acts.spares {asks : Call → Prop} {before after : Client}
    (acts : Acts (fun reader => ¬readers reader) asks before after) : Spares readers calls before after :=
  acts.keep (.refl before) (fun _ _ edit spares => spares.trans edit.spares)
    fun _ _ handing spares => spares.trans handing.spares

theorem Edits.spares {before after : Client} (edits : Edits (fun reader => ¬readers reader) before after) :
    Spares readers calls before after :=
  (Acts.edits edits : Acts _ (fun _ => True) _ _).spares

namespace Spares
variable (client : Client) {reader : ReaderId}

theorem subscribe (task : Task) (name : Option Text) (listener : Option Listener) (events : List (Option Text)) :
    Spares readers calls client (client.subscribe task name listener events).1 := by
  cases made : client.newChannel name listener events with
  | error error =>
    simp only [Client.subscribe, made]
    exact refl client
  | ok channel =>
    have registered : Spares readers calls client (client.register channel) := .beside client _ _ _ _ _
    have goes : Goes (fun reader => ¬readers reader) (fun _ => True) (client.register channel)
        (client.subscribe task name listener events) := .subscribe client made trivial
    exact registered.trans goes.acts.spares

theorem resubscribe (task : Task) (waiting : Option ReaderId) (ids : List ChannelId) :
    Spares readers calls client (resubscribe task waiting ids client).1 := by
  have goes : Goes (fun reader => ¬readers reader) (fun _ => True) client (Client.resubscribe task waiting ids client) :=
    .resubscribe client task waiting ids fun _ _ _ => trivial
  exact goes.acts.spares

theorem unwind (apart : ¬readers reader)
    (abandoned : ∀ id call, calls id → client.call? id = some call → call.task ≠ .reader reader) :
    Spares readers calls client (client.unwind reader) :=
  (abandon client apart abandoned).trans (Edits.unwind client apart).spares

theorem resume {id : CallId} (present : (client.call? id).isSome) (apart : ¬calls id) (outcome : Except Error Unit)
    (others : ∀ task channel rest reader,
      client.call? id = some ⟨task, .resubscribing channel rest (some reader)⟩ → ¬readers reader) :
    Spares readers calls client (client.resume id outcome).1 := by
  have acts : Acts (fun reader => ¬readers reader) (fun _ => True) (client.drop id) (client.resume id outcome).1 :=
    .resume client present outcome others fun _ _ _ _ _ _ _ _ => trivial
  exact (drop client apart).trans acts.spares

end Spares
end Pubsub.Client
