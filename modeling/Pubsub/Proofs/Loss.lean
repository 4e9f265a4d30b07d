import Pubsub.Proofs.Registry

/-! What a loss that may be resumed does. It goes through the registered channels in their order, and a channel
that was ended while it stayed registered stops it there: the channels behind keep their phases. -/

namespace Pubsub.Client

def isLive (client : Client) (id : ChannelId) : Bool := client.channels[id]?.all (·.phase ≠ .ended)

/-- What a loss comes to for some channels: it fails at the first that has ended. -/
def verdict (client : Client) (ids : List ChannelId) : Except Error Unit :=
  match ids.find? (!client.isLive ·) with
  | none => .ok ()
  | some id => .error (.phaseEnded (client.nameOf id) .initial)

/-- Some channels are back in the initial phase, and nothing else has happened but records of that. -/
structure Resets (ids : List ChannelId) (before after : Client) : Prop where
  channels : ∀ id, after.channels[id]? =
    before.channels[id]?.map fun channel => if id ∈ ids then { channel with phase := .initial } else channel
  rest : ∃ channels records, after = { before with channels, records }

namespace Resets

theorem refl (client : Client) : Resets [] client client := by
  refine ⟨?_, client.channels, client.records, rfl⟩
  intro id
  simp only [List.not_mem_nil, if_false, Option.map_id']

theorem trans {first second : List ChannelId} {start middle last : Client} (a : Resets first start middle)
    (b : Resets second middle last) : Resets (first ++ second) start last := by
  obtain ⟨_, _, same⟩ := b.rest
  obtain ⟨_, _, earlier⟩ := a.rest
  refine ⟨?_, last.channels, last.records, by rw [same, earlier]⟩
  intro id
  rw [b.channels, a.channels, Option.map_map]
  congr 1
  funext channel
  by_cases inFirst : id ∈ first <;> by_cases inSecond : id ∈ second <;> simp [inFirst, inSecond]

theorem phase? {ids : List ChannelId} {before after : Client} (resets : Resets ids before after) (id : ChannelId) :
    after.phase? id = if id ∈ ids then (before.phase? id).map fun _ => .initial else before.phase? id := by
  unfold Client.phase?
  rw [resets.channels, Option.map_map]
  split
  · simp [Function.comp_def]
  · simp [Function.comp_def]

theorem nameOf {ids : List ChannelId} {before after : Client} (resets : Resets ids before after) (id : ChannelId) :
    after.nameOf id = before.nameOf id := by
  unfold Client.nameOf
  rw [resets.channels, Option.map_map]
  congr 2
  funext channel
  simp only [Function.comp]
  split <;> rfl

theorem names {ids : List ChannelId} {before after : Client} (resets : Resets ids before after) :
    after.names = before.names := by
  apply List.ext_getElem?
  intro id
  rw [Client.names, Client.names, List.getElem?_map, List.getElem?_map, resets.channels, Option.map_map]
  congr 1
  funext channel
  simp only [Function.comp]
  split <;> rfl

/-- Only channels that were live are moved back, so it stays the same which are. -/
theorem isLive {ids : List ChannelId} {before after : Client} (resets : Resets ids before after)
    (live : ∀ id ∈ ids, before.isLive id = true) : after.isLive = before.isLive := by
  funext id
  unfold Client.isLive
  rw [resets.channels]
  cases found : before.channels[id]? with
  | none => rfl
  | some channel =>
    rw [Option.map_some, Option.all_some, Option.all_some]
    split
    next inside =>
      have before := live id inside
      rw [Client.isLive, found, Option.all_some] at before
      exact before.symm
    · rfl

private theorem verdict {ids : List ChannelId} {before after : Client} (resets : Resets ids before after)
    (live : ∀ id ∈ ids, before.isLive id = true) : after.verdict = before.verdict := by
  funext others
  unfold Client.verdict
  rw [resets.isLive live, funext resets.nameOf]

end Resets

private theorem moveTo_of_isLive {client : Client} {id : ChannelId} (live : client.isLive id = true) :
    Resets [id] client (client.moveTo id .initial).1 ∧ (client.moveTo id .initial).2 = .ok () := by
  cases found : client.channels[id]? with
  | none =>
    rw [moveTo_of_missing .initial found]
    refine ⟨⟨?_, client.channels, client.records, rfl⟩, rfl⟩
    intro other
    by_cases same : other = id
    · rw [same, found, Option.map_none]
    · simp only [List.mem_singleton, same, if_false, Option.map_id']
  | some channel =>
    rw [isLive, found, Option.all_some, decide_eq_true_eq] at live
    rw [moveTo_of_live found (fun ended => absurd ended live) (by decide)]
    refine ⟨⟨?_, _, _, rfl⟩, rfl⟩
    intro other
    obtain ⟨inside, _⟩ := List.getElem?_eq_some_iff.mp found
    rw [List.getElem?_set]
    by_cases same : id = other
    · subst same
      rw [if_pos rfl, if_pos inside, found, Option.map_some, if_pos (List.mem_singleton_self id)]
    · have apart : other ≠ id := Ne.symm same
      simp only [if_neg same, List.mem_singleton, apart, if_false, Option.map_id']

private theorem moveTo_of_not_isLive {client : Client} {id : ChannelId} (ended : client.isLive id = false) :
    client.moveTo id .initial = (client, .error (.phaseEnded (client.nameOf id) .initial)) := by
  cases found : client.channels[id]? with
  | none => simp [isLive, found] at ended
  | some channel =>
    have phase : channel.phase = .ended := by simpa [isLive, found] using ended
    rw [moveTo_of_ended found phase (by decide), nameOf, found]
    rfl

/-- A loss resets the channels before the first that has ended, and fails there. -/
theorem resetAll_resets (ids : List ChannelId) (client : Client) :
    Resets (ids.takeWhile client.isLive) client (resetAll ids client).1 ∧
      (resetAll ids client).2 = client.verdict ids := by
  induction ids generalizing client with
  | nil => exact ⟨.refl client, rfl⟩
  | cons id rest ih =>
    cases live : client.isLive id with
    | false =>
      rw [List.takeWhile_cons_of_neg (by rw [live]; decide), resetAll, moveTo_of_not_isLive live, verdict,
        List.find?_cons_of_pos (by rw [live]; rfl)]
      exact ⟨.refl client, rfl⟩
    | true =>
      obtain ⟨moved, ok⟩ := moveTo_of_isLive live
      have only : ∀ other ∈ [id], client.isLive other = true := fun other member => List.mem_singleton.mp member ▸ live
      obtain ⟨later, result⟩ := ih (client.moveTo id .initial).1
      have unfolded : resetAll (id :: rest) client = resetAll rest (client.moveTo id .initial).1 := by
        rw [resetAll]
        split <;> rename_i outcome <;> rw [outcome] at ok ⊢
        contradiction
      -- only a live channel was moved, so for the rest it stays the same which are live
      rw [moved.isLive only] at later
      rw [unfolded, List.takeWhile_cons_of_pos live, result, moved.verdict only]
      refine ⟨moved.trans later, ?_⟩
      simp only [verdict, List.find?_cons, live, Bool.not_true]

private theorem verdict_ok_iff {client : Client} {ids : List ChannelId} :
    client.verdict ids = .ok () ↔ ∀ id ∈ ids, client.isLive id = true := by
  unfold verdict
  split
  next none =>
    have live := List.find?_eq_none.mp none
    exact ⟨fun _ id member => by simpa using live id member, fun _ => rfl⟩
  next id first =>
    have ended : client.isLive id = false := by simpa using List.find?_some first
    refine ⟨nofun, ?_⟩
    intro live
    exact absurd (live id (List.mem_of_find?_eq_some first)) (by rw [ended]; decide)

end Pubsub.Client

namespace Pubsub

/-- Whether a stream ends as a connection does that is closed. -/
def Ending.closes : Ending → Bool
  | .finished | .closed _ | .broken _ _ => true
  | .failed _ => false

namespace Client

/-- How a reader finds its socket closed, and the client that it leaves then: the stream has ended, or a request
of the reader's own could not be sent. -/
inductive Closes (client : Client) (reader : ReaderId) : Event → Client → Prop where
  | stream {ending : Ending} (next : client.next reader = some (.ending ending)) (closes : ending.closes = true) :
      Closes client reader (.turn reader) client
  | request {call : CallId} {task : Task} {channel : ChannelId} {rest : List ChannelId} {socket : SocketId}
      (busy : client.reading? reader = some (.busy socket))
      (held : client.call? call = some ⟨task, .resubscribing channel rest (some reader)⟩)
      (goes : client.canResume call = true) (code : Nat) (reason : Text) :
      Closes client reader (.resume call (.error (.socketClosed code reason))) ((client.drop call).rollBack channel)

theorem suspendAll_resets (client : Client) :
    Resets (client.registered.takeWhile client.isLive) client client.suspendAll.1 ∧
      client.suspendAll.2 = client.verdict client.registered := resetAll_resets client.registered client

private theorem isLive_of_channels {before after : Client} (channels : after.channels = before.channels) :
    after.isLive = before.isLive := by
  funext id
  rw [isLive, isLive, channels]

private theorem verdict_of_channels {before after : Client} (channels : after.channels = before.channels) :
    after.verdict = before.verdict := by
  funext ids
  unfold verdict nameOf
  rw [isLive_of_channels channels, channels]

private theorem suspendAll_channels {before after : Client} (channels : after.channels = before.channels)
    (registered : after.registered = before.registered) :
    after.suspendAll.1.channels = before.suspendAll.1.channels := by
  obtain ⟨resets, _⟩ := suspendAll_resets after
  obtain ⟨others, _⟩ := suspendAll_resets before
  apply List.ext_getElem?
  intro id
  rw [resets.channels, others.channels, isLive_of_channels channels, channels, registered]

/-- What a failed request takes back: its channel goes back to the initial phase if it is requested now. -/
theorem rollBack_resets (client : Client) (id : ChannelId) :
    Resets (if client.phase? id = some .requested then [id] else []) client (client.rollBack id) := by
  rw [rollBack_eq]
  split
  next requested =>
    obtain ⟨channel, found, phase⟩ := Option.map_eq_some_iff.mp requested
    have live : client.isLive id = true := by simp [isLive, found, phase]
    exact (moveTo_of_isLive live).1
  · exact .refl client

theorem retract_phase? {client : Client} {id : ChannelId} {channel : Channel} (found : client.channels[id]? = some channel)
    (live : channel.phase ≠ .ended) (other : ChannelId) :
    ((client.moveTo id .requested).1.rollBack id).phase? other =
      if other = id then some .initial else client.phase? other := by
  have requested : (client.moveTo id .requested).1.phase? id = some .requested :=
    moveTo_phase? found fun ended => absurd ended live
  have resets := rollBack_resets (client.moveTo id .requested).1 id
  rw [if_pos requested] at resets
  rw [resets.phase?]
  by_cases same : other = id
  · simp [same, requested]
  · simp [same, moveTo_phase?_of_ne client .requested same]

/-- A request that could not be sent leaves its channel in the initial phase. -/
theorem isLive_of_requested {client : Client} {id other : ChannelId}
    (member : other ∈ if client.phase? id = some .requested then [id] else []) : client.isLive other = true := by
  split at member
  next requested =>
    obtain ⟨channel, found, phase⟩ := Option.map_eq_some_iff.mp requested
    simp [List.mem_singleton.mp member, isLive, found, phase]
  · contradiction

/-- The last act of a reader tells its channels, unless the connection is being given up, and fails if that does. -/
theorem finish_of_found {client : Client} {reader : ReaderId} {reading : Reading}
    (found : client.reading? reader = some reading) (outcome : Outcome) :
    (client.finish reader outcome).registered = client.registered ∧
      (client.connection.closing = true →
        (client.finish reader outcome).reading? reader = some (.finished outcome) ∧
          (client.finish reader outcome).channels = client.channels) ∧
      (client.connection.closing = false →
        (client.finish reader outcome).reading? reader =
            some (.finished (outcome.unless (client.verdict client.registered))) ∧
          (client.finish reader outcome).channels = client.suspendAll.1.channels) := by
  have channels : client.lost.channels = client.channels := rfl
  have registered : client.lost.registered = client.registered := rfl
  obtain ⟨resets, result⟩ := suspendAll_resets client.lost
  obtain ⟨_, _, rest⟩ := resets.rest
  obtain ⟨state, here, _⟩ := Option.map_eq_some_iff.mp found
  rw [verdict_of_channels channels, registered] at result
  have told : client.lost.suspendAll.1.readers[reader]? = some state := by rw [rest]; exact here
  have kept : client.lost.suspendAll.1.registered = client.registered := by rw [rest, ← registered]
  have same : client.lost.connection.closing = client.connection.closing := rfl
  unfold finish
  cases closing : client.connection.closing with
  | true =>
    simp only [same, closing, if_true]
    refine ⟨rfl, fun _ => ⟨?_, rfl⟩, nofun⟩
    simp [reading?, setReading, lost, here]
  | false =>
    simp only [same, closing, Bool.false_eq_true, if_false]
    refine ⟨kept, nofun, fun _ => ⟨?_, suspendAll_channels channels registered⟩⟩
    rw [result]
    simp [reading?, setReading, told]

private theorem take_of_closes (client : Client) (reader : ReaderId) (socket : SocketId) {ending : Ending}
    (closes : ending.closes = true) :
    ∃ records, (client.take reader socket (.ending ending)).1 = { client with records }.finish reader .ended := by
  cases ending with
  | finished => exact ⟨client.records, rfl⟩
  | closed code => exact ⟨_, rfl⟩
  | broken code reason => exact ⟨_, rfl⟩
  | failed reason => contradiction

theorem Closes.finishes {client left : Client} {reader : ReaderId} {event : Event}
    (closes : Closes client reader event left) :
    ∃ (last : Client) (reading : Reading), client.step event = last.finish reader .ended ∧
      last.reading? reader = some reading ∧ last.channels = left.channels ∧ last.registered = left.registered ∧ last.connection = left.connection := by
  cases closes with
  | stream next closes =>
    obtain ⟨socket, rest, reading, _, turned⟩ := turn_of_next next
    obtain ⟨records, taken⟩ := take_of_closes (client.leave socket rest) reader socket closes
    refine ⟨{ client.leave socket rest with records }, .idle socket, ?_, reading, rfl, rfl, rfl⟩
    rw [step, if_pos (possible_of_next next), perform, turned, taken]
  | @request call task channel rest socket busy held goes code reason =>
    obtain ⟨_, _, rest⟩ := (rollBack_resets (client.drop call) channel).rest
    have found : ((client.drop call).rollBack channel).reading? reader = some (.busy socket) := by
      rw [rest]
      exact busy
    let last := ((client.drop call).rollBack channel).log .connection .warning
      ("Connection closed: code=" ++ Text.ofNat code ++ ", reason=" ++ reason)
    refine ⟨last, .busy socket, ?_, found, rfl, rfl, rfl⟩
    have possible : client.possible (.resume call (.error (.socketClosed code reason))) = true := goes
    rw [step, if_pos possible, perform]
    simp only [resume, held, passOn, found]
    rfl

private theorem Closes.verdict {client left : Client} {reader : ReaderId} {event : Event}
    (closes : Closes client reader event left) :
    left.verdict left.registered = client.verdict client.registered ∧ left.registered = client.registered := by
  cases closes with
  | stream => exact ⟨rfl, rfl⟩
  | @request call _ channel =>
    have resets := rollBack_resets (client.drop call) channel
    obtain ⟨_, _, rest⟩ := resets.rest
    have dropped : (client.drop call).channels = client.channels := rfl
    have registered : ((client.drop call).rollBack channel).registered = client.registered := by rw [rest]; rfl
    rw [resets.verdict fun _ member => isLive_of_requested member, registered, verdict_of_channels dropped]
    exact ⟨rfl, rfl⟩

/-- A loss that may be resumed completes exactly if no registered channel has ended. It resets the channels up to
the first that has, with all else as it was. A reader whose socket closes ends as the loss does, or without one if
the connection is being given up. -/
theorem loss_completes_iff_none_ended (client : Client) :
    (client.suspendAll.2 = .ok () ↔ ∀ id ∈ client.registered, client.isLive id = true) ∧
    client.suspendAll.2 = client.verdict client.registered ∧
    Resets (client.registered.takeWhile client.isLive) client client.suspendAll.1 ∧
    ∀ reader event left, Closes client reader event left →
      (client.step event).registered = client.registered ∧
      (left.connection.closing = true →
        (client.step event).reading? reader = some (.finished .ended) ∧
          (client.step event).channels = left.channels) ∧
      (left.connection.closing = false →
        (client.step event).reading? reader =
            some (.finished (Outcome.ended.unless (client.verdict client.registered))) ∧
          (client.step event).channels = left.suspendAll.1.channels) := by
  obtain ⟨resets, result⟩ := suspendAll_resets client
  refine ⟨?_, result, resets, ?_⟩
  · rw [result]
    exact verdict_ok_iff
  intro reader event left closes
  obtain ⟨last, reading, stepped, found, channels, registered, connection⟩ := closes.finishes
  obtain ⟨same, kept⟩ := closes.verdict
  obtain ⟨still, given, going⟩ := finish_of_found found .ended
  rw [connection] at given going
  rw [verdict_of_channels channels, registered, same, suspendAll_channels channels registered] at going
  rw [stepped]
  exact ⟨still.trans (registered.trans kept), fun closing => channels ▸ given closing, going⟩

/-- The first of two channels is ended by the application and stays registered. -/
def endedFirst : List Event :=
  [.subscribe .application (some "first") none [], .connect .application, .resume 0 (.ok ()), .turn 0] ++
    Event.arrival [("event", .text "pusher:connection_established")] ++
    [.resume 1 (.ok ()), .subscribe .application (some "second") none [], .resume 2 (.ok ()), .move 0 .ended,
      .arrive 0 (.ending .finished)]

/-- The second channel is not reset when the stream ends, and the reader fails. -/
theorem loss_completes_iff_none_ended_first :
    ((fresh "url").run endedFirst).registered = [0, 1] ∧
      ((fresh "url").run endedFirst).suspendAll.2 ≠ .ok () ∧
      (((fresh "url").run endedFirst).step (.turn 0)).channels.map (·.phase) = [.ended, .requested] ∧
      (((fresh "url").run endedFirst).step (.turn 0)).reading? 0 =
        some (.finished (.failed (.phaseEnded "first" .initial))) := by
  obtain ⟨completes, result, _, ends⟩ := loss_completes_iff_none_ended ((fresh "url").run endedFirst)
  have next : ((fresh "url").run endedFirst).next 0 = some (.ending .finished) := by decide +kernel
  obtain ⟨_, _, going⟩ := ends 0 (.turn 0) _ (.stream next rfl)
  obtain ⟨finished, channels⟩ := going (by decide +kernel)
  refine ⟨by decide +kernel, ?_, ?_, ?_⟩
  · intro ok
    exact absurd (completes.mp ok 0 (by decide +kernel)) (by decide +kernel)
  · rw [channels]
    decide +kernel
  · have first : ((fresh "url").run endedFirst).registered.find?
        (!((fresh "url").run endedFirst).isLive ·) = some 0 := by decide +kernel
    have name : ((fresh "url").run endedFirst).nameOf 0 = "first" := by decide +kernel
    rw [finished, verdict, first]
    simp only [name]
    rfl

end Client
end Pubsub
