import Pubsub.Proofs.Orderly

/-! The phases of registered channels follow the connection: requested or further while it is established, not
requested while it is not, and back at the beginning when a reader has ended. -/

namespace Pubsub

def Stage.unsettled : Stage → Bool
  | .subscribing _ | .resubscribing _ _ _ | .disconnecting _ | .closing _ => true
  | _ => false

theorem Stage.settled {stage : Stage} (settled : stage.unsettled = false) : stage.rest = [] ∧ stage.givesUp = false := by
  cases stage <;> first | exact ⟨rfl, rfl⟩ | contradiction

namespace Client

def NoneEnds (before after : Client) : Prop := ∀ reader, after.isDone reader = true → before.isDone reader = true

private theorem NoneEnds.of_readers {before after : Client} (readers : after.readers = before.readers) :
    NoneEnds before after := by
  intro reader done
  rwa [isDone, readers] at done

private theorem NoneEnds.of_link {before after : Client} (link : after.link = before.link) : NoneEnds before after :=
  .of_readers (congrArg Link.readers link)

theorem NoneEnds.trans {first middle last : Client} (a : NoneEnds first middle) (b : NoneEnds middle last) :
    NoneEnds first last := fun reader done => a reader (b reader done)

/-- A reader that reads on has not ended. -/
theorem NoneEnds.setReading (client : Client) (reader : ReaderId) {reading : Reading}
    (goes : ({ reading } : Reader).done = false) : NoneEnds client (client.setReading reader reading) := by
  intro other done
  unfold isDone at done ⊢
  simp only [Client.setReading, List.getElem?_modify] at done
  cases found : client.readers[other]? with
  | none => rfl
  | some state =>
    rw [found] at done
    by_cases same : reader = other
    · have still : ({ state with reading } : Reader).done = false := goes
      simp [same, still] at done
    · simpa [same] using done

section
variable {client : Client} {result : Client × Progress}

theorem NoneEnds.settle (client : Client) (reader : ReaderId) (socket : SocketId) {result : Except Error (Option ChannelId)}
    (own : ∀ error, result = .error error → error.own = true) : NoneEnds client (client.settle reader socket result) := by
  unfold Client.settle
  split
  · exact .setReading client reader rfl
  next error =>
    rw [if_pos (own error rfl)]
    have logged := NoneEnds.of_readers (rfl : (client.log .connection .error "Resubscribe after connect failed"
      [("error", .text error.message)]).readers = client.readers)
    exact logged.trans (.setReading _ reader rfl)

theorem NoneEnds.settled (own : ∀ error, result.2 = .done (.error error) → error.own = true) (reader : ReaderId)
    (socket : SocketId) : NoneEnds result.1 (settled reader socket result) := by
  obtain ⟨client, result | call⟩ := result
  · exact .settle client reader socket fun error same => own error (congrArg Progress.done same)
  · exact .of_readers rfl

theorem NoneEnds.passOn (own : ∀ error, result.2 = .done (.error error) → error.own = true) (reader : Option ReaderId) :
    NoneEnds result.1 (passOn reader result).1 := by
  obtain ⟨client, result | call⟩ := result
  · cases reader with
    | none => exact .of_readers rfl
    | some reader =>
      simp only [Client.passOn]
      split
      · exact .settle client reader _ fun error same => own error (congrArg Progress.done same)
      · exact .of_readers rfl
  · exact .of_readers rfl

end

theorem NoneEnds.closeSocket (client : Client) (task : Task) : NoneEnds client (client.closeSocket task).1 := by
  unfold Client.closeSocket
  split
  · exact .of_link (tearDown_link client)
  · exact .of_readers rfl

theorem NoneEnds.opened (client : Client) : NoneEnds client client.opened := by
  intro reader done
  unfold isDone at done ⊢
  by_cases known : reader < client.readers.length
  · rwa [Client.opened, List.getElem?_append_left known] at done
  · rw [List.getElem?_eq_none (Nat.le_of_not_lt known)]
    rfl

/-- A reader that is told to stop has not stopped yet. -/
theorem NoneEnds.cancel (client : Client) (reader : ReaderId) : NoneEnds client (client.cancel reader) := by
  unfold Client.cancel
  split
  · exact .of_readers rfl
  · intro other done
    unfold isDone at done ⊢
    simp only [List.getElem?_modify] at done
    cases found : client.readers[other]? with
    | none => rfl
    | some state =>
      rw [found] at done
      by_cases same : reader = other
      · simpa [same, Reader.done] using done
      · simpa [same] using done

theorem NoneEnds.disconnect (client : Client) (task : Task) : NoneEnds client (client.disconnect task).1 := by
  have given : NoneEnds client client.givingUp := .of_readers rfl
  have closes := given.trans (.closeSocket client.givingUp task)
  unfold Client.disconnect
  dsimp only
  split
  · exact closes
  next reader _ =>
    split
    · exact closes
    · have cancels := given.trans (.cancel client.givingUp reader)
      split
      · exact cancels
      · split
        · exact given
        · exact cancels

theorem Aside.lost {before middle after : Client} (aside : Aside before middle) (lost : Lost middle after) :
    Lost before after where
  transport := lost.transport.trans aside.transport
  names := aside.names.trans lost.names
  registered := lost.registered.trans aside.registered
  initial := fun id member => lost.initial id (aside.registered ▸ member)
  down := lost.down

namespace Standing
variable {client : Client} {latest : Latest} (standing : client.Standing latest)
include standing

private theorem turn_ends {reader : ReaderId} (going : client.isCancelling (.reader reader) = false) :
    NoneEnds client (client.turn reader).1 ∨ Lost client (client.turn reader).1 := by
  have turning := turn_turning standing.place going
  generalize (client.turn reader).1 = after at turning
  cases turning with
  | nothing => exact .inl (.of_readers rfl)
  | starts => exact .inl (.setReading client _ rfl)
  | @takes former attended _ turned =>
    cases turned with
    | aside aside => exact .inl (.of_link aside.link)
    | @ends middle aside outcome =>
      have kept : middle.connection.closing = false := (congrArg Link.closing aside.link).trans attended.kept
      exact .inr (aside.lost ((standing.inStep.beside aside.beside).ends kept _ outcome))
    | @confirms middle aside members =>
      let busy := (middle.established members).setReading former.length (.busy former.length)
      have numbered : middle.Numbered := aside.numbered standing.tidy.ordered.numbered
      have sound : busy.Sound := ⟨numbered, ((standing.inStep.beside aside.beside).sound numbered).attached⟩
      have requested := resubscribe_requested sound (.reader former.length) (some former.length) busy.listing
      have waits : NoneEnds middle busy := .setReading (middle.established members) _ rfl
      have same : NoneEnds busy (busy.resubscribeAll (.reader former.length) (some former.length)).1 :=
        .of_link (resubscribe_link busy _ _ _)
      rw [confirm_settled]
      exact .inl (((NoneEnds.of_link aside.link).trans waits).trans (same.trans (.settled (fun _ => requested.own) _ _)))

private theorem resume_ends {call : CallId} {outcome : Except Error Unit}
    (orderly : client.orderly (.resume call outcome) = true)
    (possible : client.possible (.resume call outcome) = true) : NoneEnds client (client.resume call outcome).1 := by
  obtain ⟨⟨task, stage⟩, held⟩ := Option.isSome_iff_exists.mp (present_of_possible possible)
  have dropped : NoneEnds client (client.drop call) := .of_readers rfl
  simp only [Client.resume, held]
  cases stage with
  | subscribing channel =>
    obtain rfl := sent orderly held rfl
    exact dropped
  | unsubscribing | messaging => exact dropped
  | resubscribing channel rest reader =>
    obtain rfl := sent orderly held rfl
    have sound : (client.drop call).Sound := by
      have spares : Spares (fun _ => True) (· ≠ call) client (client.drop call) := .drop client (not_not_intro rfl)
      exact spares.sound (standing.inStep.sound standing.tidy.ordered.numbered)
    have requested := resubscribe_requested sound task reader rest
    have same : NoneEnds (client.drop call) (resubscribe task reader rest (client.drop call)).1 :=
      .of_link (resubscribe_link _ task reader rest)
    exact dropped.trans (same.trans (.passOn (fun _ => requested.own) reader))
  | connecting =>
    cases outcome with
    | ok => exact dropped.trans (.opened _)
    | error => exact dropped
  | disconnecting reader =>
    dsimp only
    split
    · exact dropped
    · exact dropped.trans (.closeSocket _ task)
  | closing socket => exact dropped.trans (.of_readers (congrArg Link.readers (closed_link _ socket)))

/-- A reader ends while it takes something, and loses the connection then, unless it was told to stop. -/
theorem step_ends {event : Event} (orderly : client.orderly event = true) (told : ∀ reader, event ≠ .unwind reader) :
    NoneEnds client (client.step event) ∨ Lost client (client.step event) := by
  refine step_induction (motive := fun after => NoneEnds client after ∨ Lost client after) (.inl (.of_readers rfl)) ?_
  intro possible
  cases offline : event.offline with
  | true =>
    have link := step_link_of_offline client offline
    rw [Client.step, if_pos possible] at link
    exact .inl (.of_link link)
  | false =>
    cases event with
    | connect task => exact .inl (.of_readers rfl)
    | disconnect task => exact .inl (.disconnect client task)
    | resume call outcome => exact .inl (standing.resume_ends orderly possible)
    | turn reader => exact standing.turn_ends (by simpa [Client.possible] using possible)
    | unwind reader => exact absurd rfl (told reader)
    | _ => contradiction

end Standing

/-- In every run in good order no registered channel has ended. While no call subscribes, requests channels in turn or
gives the connection up, registered channels are requested or subscribed if the connection is established, and not
requested if it is not. Whenever a reader ends without having been told to stop, the connection is not established,
the same channels are registered, and all of them are back in the initial phase. -/
theorem phases_follow_connection (url : Text) (events : List Event)
    (orderly : Follows Client.orderly (fresh url) events = true) :
    let client := (fresh url).run events
    (∀ id ∈ client.registered, client.phase? id ≠ some .ended) ∧
    ((∀ entry ∈ client.calls, entry.2.stage.unsettled = false) →
      (client.isConnected = true → ∀ id ∈ client.registered,
        client.phase? id = some .requested ∨ client.phase? id = some .subscribed) ∧
      (client.isConnected = false → ∀ id ∈ client.registered, client.phase? id ≠ some .requested)) ∧
    ∀ event reader, client.orderly event = true → (∀ other, event ≠ .unwind other) →
      client.isDone reader = false → (client.step event).isDone reader = true →
        (client.step event).isConnected = false ∧ (client.step event).registered = client.registered ∧
          ∀ id ∈ client.registered, (client.step event).phase? id = some .initial := by
  intro client
  have standing := run_standing (fresh_standing url) orderly
  refine ⟨standing.inStep.live, ?_, ?_⟩
  · intro settled
    refine ⟨?_, ?_⟩
    · intro connected id member
      obtain ⟨socket, online⟩ := isConnected_iff.mp connected
      rcases (standing.inStep.agrees socket online).channels id member with waits | ⟨entry, held, waits⟩ | served
      · contradiction
      · rw [(Stage.settled (settled entry held)).1] at waits
        contradiction
      · exact served.2
    · intro down id member
      have kept : client.quitting = false :=
        List.any_eq_false.mpr fun entry held => by simp [(Stage.settled (settled entry held)).2]
      exact standing.inStep.silent down kept id member
  · intro event reader order told going done
    rcases standing.step_ends order told with none | lost
    · rw [none reader done] at going
      contradiction
    · refine ⟨?_, lost.registered, lost.initial⟩
      rw [isConnected, lost.down, Bool.false_and]

def interrupted : List Event :=
  [.subscribe .application (some "feed") none [], .connect .application, .resume 0 (.ok ()), .turn 0] ++
    Event.arrival [("event", .text "pusher:connection_established")] ++
    [.resume 1 (.ok ()), .arrive 0 (.ending .finished)]

/-- The channel is back in the initial phase when the reader has found the end of the stream. -/
theorem phases_follow_connection_interrupted :
    let client := (fresh "url").run interrupted
    (client.phase? 0 = some .requested ∨ client.phase? 0 = some .subscribed) ∧
      (client.step (.turn 0)).isConnected = false ∧ (client.step (.turn 0)).phase? 0 = some .initial := by
  obtain ⟨_, settled, ends⟩ := phases_follow_connection "url" interrupted (by decide +kernel)
  have registered : 0 ∈ ((fresh "url").run interrupted).registered := by decide +kernel
  obtain ⟨down, _, initial⟩ := ends (.turn 0) 0 (by decide +kernel) nofun (by decide +kernel) (by decide +kernel)
  exact ⟨(settled (by decide +kernel)).1 (by decide +kernel) 0 registered, down, initial 0 registered⟩

end Client
end Pubsub
