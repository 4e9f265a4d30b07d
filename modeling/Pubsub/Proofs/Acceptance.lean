import Pubsub.Proofs.Footprint

/-! Which frames a channel accepts, and what it makes of them. A frame is offered to a channel under the
name of an event, by the reader of a socket or by the application itself. -/

namespace Pubsub

/-- The token that comes with a success, none where it is missing or null. Malformed data hands over
nothing at all. -/
def Envelope.resumption (envelope : Envelope) (depth : Nat) : Option (Option Text) :=
  match envelope.data.members depth with
  | .error _ => none
  | .ok members =>
    match members.get? "resume_after" with
    | none | some .null => some none
    | some (.text token) => some (some token)
    | some _ => none

/-- What a channel takes a frame for. -/
inductive Acceptance where
  | success (token : Option Text)
  | announcement (event : Text) (envelope : Envelope)

namespace Acceptance

def written : Acceptance → Option (Option Text)
  | .success token => some token
  | .announcement _ envelope => envelope.id.map some

def update (channel : Channel) : Acceptance → Channel
  | .success token => { channel with token, phase := .subscribed }
  | .announcement _ envelope => { channel with token := envelope.id <|> channel.token }

def callbacks (channel : Channel) : Acceptance → List Callback
  | .success _ => channel.lifecycle.toList.map fun listener => ⟨listener, .subscribed channel.name⟩
  | .announcement event envelope =>
    (channel.bindings.listenersFor event).map fun listener => ⟨listener, .event channel.name event envelope.data⟩

theorem update_token (channel : Channel) (acceptance : Acceptance) :
    (acceptance.update channel).token = acceptance.written.getD channel.token := by
  cases acceptance with
  | success token => rfl
  | announcement event envelope => cases id : envelope.id <;> simp [update, written, id]

end Acceptance

namespace Channel

def accepted (channel : Channel) (event : Text) (frame : Frame) : Option Acceptance :=
  if channel.phase = .ended then none
  else
    match Envelope.ofDelivery frame with
    | .error _ => none
    | .ok envelope =>
      if event = Envelope.succeededEvent then (envelope.resumption frame.room.success).map .success
      else some (.announcement event envelope)

private theorem succeed_of_resumption {channel : Channel} {envelope : Envelope} {depth : Nat} {token : Option Text}
    (live : channel.phase ≠ .ended) (carried : envelope.resumption depth = some token) :
    ∃ records, channel.succeed depth envelope.data = .ok ⟨(Acceptance.success token).update channel, records,
      (Acceptance.success token).callbacks channel⟩ := by
  unfold Envelope.resumption at carried
  split at carried
  · contradiction
  next members decoded =>
    have named : channel.tokenOf members envelope.data = .ok token := by
      unfold tokenOf
      cases found : members.get? "resume_after" with
      | none =>
        simp only [found] at carried
        cases carried
        rfl
      | some value => cases value <;> simp only [found] at carried <;> cases carried <;> rfl
    refine ⟨[channel.debug (channel.phase.label ++ " -> " ++ Phase.subscribed.label)], ?_⟩
    simp only [succeed, decoded, named, Bind.bind, Except.bind, Channel.moveTo, live, false_and, if_false, if_true]
    rfl

private theorem succeed_of_malformed {channel : Channel} {envelope : Envelope} {depth : Nat}
    (malformed : envelope.resumption depth = none) : ∃ error, channel.succeed depth envelope.data = .error error := by
  unfold Envelope.resumption at malformed
  split at malformed
  next error refused => exact ⟨error, by simp only [succeed, refused, Bind.bind, Except.bind]⟩
  next members decoded =>
    split at malformed
    · contradiction
    · contradiction
    · contradiction
    next value null text held =>
      have refused : ∃ error, channel.tokenOf members envelope.data = .error error := by
        unfold tokenOf
        rw [held]
        cases value with
        | null => exact absurd rfl null
        | text token => exact absurd rfl (text token)
        | _ => exact ⟨_, rfl⟩
      obtain ⟨error, refused⟩ := refused
      exact ⟨error, by simp only [succeed, decoded, refused, Bind.bind, Except.bind]⟩

theorem receive_of_accepted {channel : Channel} {event : Text} {frame : Frame} {acceptance : Acceptance}
    (accepted : channel.accepted event frame = some acceptance) :
    ∃ records, channel.receive event frame = .ok ⟨acceptance.update channel, records, acceptance.callbacks channel⟩ := by
  unfold Channel.accepted at accepted
  split at accepted
  · contradiction
  next live =>
    split at accepted
    · contradiction
    next envelope decoded =>
      simp only [receive, if_neg live, decoded, Bind.bind, Except.bind]
      split at accepted
      next success =>
        obtain ⟨token, carried, rfl⟩ := Option.map_eq_some_iff.mp accepted
        rw [if_pos success]
        exact succeed_of_resumption live carried
      next other =>
        cases accepted
        rw [if_neg other]
        exact ⟨_, rfl⟩

/-- A frame that is not accepted is refused, or ignored at the end. Either way nothing follows. -/
theorem receive_of_refused {channel : Channel} {event : Text} {frame : Frame}
    (refused : channel.accepted event frame = none) :
    (∃ error, channel.receive event frame = .error error) ∨
      ∃ records, channel.receive event frame = .ok ⟨channel, records, []⟩ := by
  unfold Channel.accepted at refused
  split at refused
  next ended => exact .inr ⟨_, if_pos ended⟩
  next live =>
    refine .inl ?_
    simp only [receive, if_neg live]
    split at refused
    next error undecoded => exact ⟨error, by simp only [undecoded, Bind.bind, Except.bind]⟩
    next envelope decoded =>
      simp only [decoded, Bind.bind, Except.bind]
      split at refused
      next success =>
        rw [if_pos success]
        exact succeed_of_malformed (Option.map_eq_none_iff.mp refused)
      · contradiction

end Channel

/-- A frame on its way to a channel. -/
structure Offer where
  channel : ChannelId
  event : Text
  frame : Frame

structure Accepted where
  id : ChannelId
  channel : Channel
  acceptance : Acceptance

namespace Accepted

def callbacks (accepted : Accepted) : List Callback := accepted.acceptance.callbacks accepted.channel

end Accepted

namespace Client

def next (client : Client) (reader : ReaderId) : Option Arrival :=
  if client.isCancelling (.reader reader) then none
  else
    match client.reading? reader with
    | some (.idle socket) => client.sockets[socket]?.bind (·.incoming.head?)
    | _ => none

/-- A frame that does not concern the connection itself is for the registered channel that it names. -/
def addressed (client : Client) (frame : Frame) : Option Offer :=
  match Envelope.ofArrival frame with
  | .ok { channel := some name, event := some event, .. } =>
    if event = Envelope.establishedEvent ∨ event = Envelope.errorEvent then none
    else (client.lookup name).map (⟨·, event, frame⟩)
  | _ => none

def offered (client : Client) : Event → Option Offer
  | .turn reader =>
    match client.next reader with
    | some (.frame frame) => client.addressed frame
    | _ => none
  | .deliver name event frame => (client.lookup name).map (⟨·, event, frame⟩)
  | .receive id event frame => some ⟨id, event, frame⟩
  | _ => none

def taken (client : Client) (offer : Offer) : Option Accepted :=
  client.channels[offer.channel]?.bind fun channel =>
    (channel.accepted offer.event offer.frame).map (⟨offer.channel, channel, ·⟩)

def accepted (client : Client) (event : Event) : Option Accepted := (client.offered event).bind client.taken

structure Takes (accepted : Accepted) (before after : Client) : Prop where
  profiles : after.channels.map Channel.profile =
    (before.channels.set accepted.id (accepted.acceptance.update accepted.channel)).map Channel.profile
  waiting : after.waiting = before.waiting ++ if before.accepting then accepted.callbacks else []
  accepting : after.accepting = before.accepting

theorem Takes.moves {accepted : Accepted} {before middle after : Client} (takes : Takes accepted before middle)
    (moves : Moves middle after) : Takes accepted before after :=
  ⟨moves.profiles.trans takes.profiles, moves.waiting.trans takes.waiting, moves.accepting.trans takes.accepting⟩

theorem submit_fst (client : Client) (callbacks : List Callback) : (client.submit callbacks).1 =
    { client with waiting := client.waiting ++ if client.accepting then callbacks else [] } := by
  unfold submit
  by_cases accepting : client.accepting = true
  · rw [if_pos (.inr accepting), if_pos accepting]
  · rw [if_neg accepting, List.append_nil]
    cases callbacks with
    | nil => exact congrArg (fun waiting => { client with waiting }) (List.append_nil _)
    | cons first rest => rw [if_neg (not_or.mpr ⟨nofun, accepting⟩)]

theorem receive_of_taken {client : Client} {offer : Offer} {accepted : Accepted}
    (taken : client.taken offer = some accepted) :
    Takes accepted client (client.receive offer.channel offer.event offer.frame).1 := by
  obtain ⟨channel, found, mapped⟩ := Option.bind_eq_some_iff.mp taken
  obtain ⟨acceptance, accepts, rfl⟩ := Option.map_eq_some_iff.mp mapped
  obtain ⟨records, received⟩ := Channel.receive_of_accepted accepts
  simp only [Client.receive, found, received, react, setChannel, submit_fst]
  exact ⟨rfl, rfl, rfl⟩

private theorem receive_of_untaken {client : Client} {offer : Offer} (untaken : client.taken offer = none) :
    Moves client (client.receive offer.channel offer.event offer.frame).1 := by
  unfold Client.receive
  split
  · exact .refl client
  next channel found =>
    have refused : channel.accepted offer.event offer.frame = none := by
      simpa only [taken, found, Option.bind_some, Option.map_eq_none_iff] using untaken
    obtain ⟨error, received⟩ | ⟨records, received⟩ := Channel.receive_of_refused refused
    · simp only [received]
      exact .refl client
    · simp only [received, react, setChannel, submit, List.isEmpty_nil, true_or, if_true, List.append_nil]
      obtain ⟨inside, rfl⟩ := List.getElem?_eq_some_iff.mp found
      rw [List.set_getElem_self]
      exact ⟨rfl, rfl, rfl⟩

/-- To be moved to the subscribed phase is to succeed with the token that is there. -/
theorem moveTo_subscribed {client : Client} {id : ChannelId} {channel : Channel}
    (found : client.channels[id]? = some channel) (live : channel.phase ≠ .ended) :
    Takes ⟨id, channel, .success channel.token⟩ client (client.moveTo id .subscribed).1 := by
  simp only [moveTo, found, Channel.moveTo, live, false_and, if_false, if_true, react, setChannel, submit_fst]
  exact ⟨rfl, rfl, rfl⟩

theorem moveTo_subscribed_cases (client : Client) (id : ChannelId) :
    (∃ channel, client.channels[id]? = some channel ∧ channel.phase ≠ .ended ∧
      Takes ⟨id, channel, .success channel.token⟩ client (client.moveTo id .subscribed).1) ∨
    ((∀ channel, client.channels[id]? = some channel → channel.phase = .ended) ∧
      (client.moveTo id .subscribed).1 = client) := by
  cases found : client.channels[id]? with
  | none => exact .inr ⟨nofun, by rw [moveTo_of_missing _ found]⟩
  | some channel =>
    by_cases ended : channel.phase = .ended
    · exact .inr ⟨fun _ same => Option.some.inj same ▸ ended, by rw [moveTo_of_ended found ended (by decide)]⟩
    · exact .inl ⟨channel, rfl, ended, moveTo_subscribed found ended⟩

theorem deliver_of_lookup {client : Client} {name : Text} {id : ChannelId} (found : client.lookup name = some id)
    (event : Text) (frame : Frame) : client.deliver name event frame = client.receive id event frame := by
  simp only [deliver, found]

section
variable {readers : ReaderId → Prop} {calls : Call → Prop} {reader : ReaderId}

private theorem deliver_of_unknown {client : Client} {name : Text} (unknown : client.lookup name = none) (event : Text)
    (frame : Frame) : Edits readers client (client.deliver name event frame).1 := by
  simp only [deliver, unknown]
  exact .log client _ _ _ _

/-- The connection does nothing to a channel but take it the frames that are addressed to it. -/
theorem handle_of_addressed (own : readers reader) {client : Client} {frame : Frame} {offer : Offer}
    (addressed : client.addressed frame = some offer) (socket : SocketId) :
    Edits readers (client.counted.receive offer.channel offer.event offer.frame).1 (client.handle reader socket frame).1 := by
  unfold Client.addressed at addressed
  split at addressed
  next envelope event data id name decoded =>
    split at addressed
    · contradiction
    next concerns =>
      rw [not_or] at concerns
      obtain ⟨channel, found, rfl⟩ := Option.map_eq_some_iff.mp addressed
      have known : client.counted.lookup name = some channel := found
      simp only [handle, decoded, Option.some.injEq, if_neg concerns.1, if_neg concerns.2, route,
        deliver_of_lookup known event frame]
      exact .delivered _ own name event _
  · contradiction

theorem handle_of_unaddressed (own : readers reader) {client : Client} {frame : Frame}
    (unaddressed : client.addressed frame = none) (socket : SocketId)
    (asks : ∀ id rest, id :: rest <:+ client.listing → calls ⟨.reader reader, .resubscribing id rest (some reader)⟩) :
    Acts readers calls client.counted (client.handle reader socket frame).1 := by
  unfold handle
  dsimp only
  split
  · exact .edits (.log client.counted _ _ _ _)
  · exact .edits (.fail client.counted own _)
  next envelope decoded =>
    split
    · exact (Goes.establish client.counted own socket _ envelope.data asks).acts
    next unconfirming =>
      split
      · exact .edits (.log client.counted _ _ _ _)
      next unfailing =>
        split
        next name event channel named =>
          have concerns : ¬(event = Envelope.establishedEvent ∨ event = Envelope.errorEvent) := by
            rw [named, Option.some.injEq] at unconfirming unfailing
            exact not_or.mpr ⟨unconfirming, unfailing⟩
          obtain ⟨_, data, id, _⟩ := envelope
          cases channel
          cases named
          have unknown : client.counted.lookup name = none := by
            change client.lookup name = none
            simpa only [addressed, decoded, if_neg concerns, Option.map_eq_none_iff] using unaddressed
          exact .edits ((deliver_of_unknown unknown event frame).trans (.delivered _ own name event _))
        · exact .edits (.log client.counted _ _ _ _)

theorem turn_of_next {client : Client} {reader : ReaderId} {arrival : Arrival} (next : client.next reader = some arrival) :
    ∃ socket rest, client.reading? reader = some (.idle socket) ∧
      client.sockets[socket]?.map (·.incoming) = some (arrival :: rest) ∧
      client.turn reader = (client.leave socket rest).take reader socket arrival := by
  unfold Client.next at next
  split at next
  · contradiction
  · split at next
    next socket reading =>
      obtain ⟨state, found, first⟩ := Option.bind_eq_some_iff.mp next
      obtain ⟨rest, waiting⟩ := List.head?_eq_some_iff.mp first
      have arrived : client.sockets[socket]?.map (·.incoming) = some (arrival :: rest) := by
        rw [found, Option.map_some, waiting]
      exact ⟨socket, rest, reading, arrived, by simp only [turn, reading, arrived]⟩
    · contradiction

theorem possible_of_next {client : Client} {reader : ReaderId} {arrival : Arrival}
    (next : client.next reader = some arrival) : client.possible (.turn reader) = true := by
  cases cancelling : client.isCancelling (.reader reader) with
  | false => simp only [possible, cancelling, Bool.not_false]
  | true => simp [Client.next, cancelling] at next

theorem turn_of_nothing (own : readers reader) {client : Client} (nothing : client.next reader = none)
    (going : client.isCancelling (.reader reader) = false) : Edits readers client (client.turn reader).1 := by
  unfold turn
  split
  · split <;> exact .setReading client own _
  next socket reading =>
    split
    next arrival rest arrived =>
      obtain ⟨state, found, waiting⟩ := Option.map_eq_some_iff.mp arrived
      simp [Client.next, going, reading, found, waiting] at nothing
    · exact .refl client
  · exact .refl client

end

private theorem turn_of_accepted {client : Client} {reader : ReaderId} {accepted : Accepted}
    (accepts : client.accepted (.turn reader) = some accepted) : Takes accepted client (client.turn reader).1 := by
  obtain ⟨offer, offered, taken⟩ := Option.bind_eq_some_iff.mp accepts
  simp only [Client.offered] at offered
  split at offered
  next frame next =>
    obtain ⟨socket, rest, reading, arrived, turned⟩ := turn_of_next next
    have same : (client.leave socket rest).counted.taken offer = some accepted := taken
    have received := receive_of_taken same
    have addressed : (client.leave socket rest).addressed frame = some offer := offered
    rw [turned]
    exact Takes.moves ⟨received.profiles, received.waiting, received.accepting⟩
      (handle_of_addressed trivial addressed socket).moves
  · contradiction

private theorem turn_of_unaccepted {client : Client} {reader : ReaderId}
    (going : client.isCancelling (.reader reader) = false)
    (unaccepted : client.accepted (.turn reader) = none) : Moves client (client.turn reader).1 := by
  cases next : client.next reader with
  | none => exact (turn_of_nothing trivial next going).moves
  | some arrival =>
    obtain ⟨socket, rest, reading, arrived, turned⟩ := turn_of_next next
    rw [turned]
    cases arrival with
    | ending ending =>
      have left : Moves client (client.leave socket rest) := ⟨rfl, rfl, rfl⟩
      exact left.trans (Edits.ending _ trivial socket ending).moves
    | frame frame =>
      have counted : Moves client (client.leave socket rest).counted := ⟨rfl, rfl, rfl⟩
      cases addressed : client.addressed frame with
      | none =>
        have same : (client.leave socket rest).addressed frame = none := addressed
        exact counted.trans (handle_of_unaddressed trivial same socket fun _ _ _ => trivial).moves
      | some offer =>
        have untaken : client.taken offer = none := by
          simpa only [Client.accepted, offered, next, addressed, Option.bind_some] using unaccepted
        have ignored : (client.leave socket rest).counted.taken offer = none := untaken
        have received := receive_of_untaken ignored
        have same : (client.leave socket rest).addressed frame = some offer := addressed
        exact counted.trans (received.trans (handle_of_addressed trivial same socket).moves)

/-- An accepted frame is taken by its channel, whoever offers it. -/
theorem step_of_accepted {client : Client} {event : Event} {accepted : Accepted}
    (accepts : client.accepted event = some accepted) : Takes accepted client (client.step event) := by
  obtain ⟨offer, offered, taken⟩ := Option.bind_eq_some_iff.mp accepts
  cases event with
  | turn reader =>
    have going : client.possible (.turn reader) = true := by
      simp only [Client.offered] at offered
      split at offered
      · exact possible_of_next ‹_›
      · contradiction
    simp only [step, if_pos going]
    exact turn_of_accepted accepts
  | deliver name event frame =>
    obtain ⟨id, found, rfl⟩ := Option.map_eq_some_iff.mp offered
    simp only [step, possible, if_true, perform, deliver_of_lookup found]
    exact receive_of_taken taken
  | receive id event frame =>
    cases offered
    exact receive_of_taken taken
  | _ => contradiction

theorem accepted_found {client : Client} {event : Event} {accepted : Accepted}
    (accepts : client.accepted event = some accepted) : client.channels[accepted.id]? = some accepted.channel := by
  obtain ⟨offer, _, taken⟩ := Option.bind_eq_some_iff.mp accepts
  obtain ⟨channel, found, mapped⟩ := Option.bind_eq_some_iff.mp taken
  obtain ⟨acceptance, _, rfl⟩ := Option.map_eq_some_iff.mp mapped
  exact found

end Client

def Event.sets : Event → Bool
  | .make _ _ | .bind _ _ _ | .unbind _ _ _ | .setToken _ _ | .setLifecycle _ _ | .subscribe _ _ _ _
  | .callback | .shutDown => true
  | .move _ phase => phase = .subscribed
  | _ => false

namespace Client

/-- Where nothing is set and no frame is accepted, channels only move. -/
theorem step_moves {client : Client} {event : Event} (unset : event.sets = false)
    (unaccepted : client.accepted event = none) : Moves client (client.step event) := by
  apply step_induction (motive := Moves client) ⟨rfl, rfl, rfl⟩
  intro possible
  cases event with
  | move id phase => exact (Moves.moveTo client id phase (of_decide_eq_false unset))
  | receive id event frame => exact (receive_of_untaken unaccepted)
  | unsubscribe task name => exact (Goes.unsubscribe client trivial name).acts.moves
  | resubscribe task => exact (Goes.resubscribeAll client task none fun _ _ _ => trivial).acts.moves
  | deliver name event frame =>
    cases found : client.lookup name with
    | none => exact (deliver_of_unknown found event frame).moves
    | some id =>
      have untaken : client.taken ⟨id, event, frame⟩ = none := by
        simpa only [Client.accepted, offered, found, Option.map_some, Option.bind_some] using unaccepted
      simp only [perform, deliver_of_lookup found]
      exact (receive_of_untaken untaken)
  | lose resumable =>
    cases resumable with
    | true => exact (Edits.suspendAll client).moves
    | false => exact (Edits.endAll client).moves
  | connect task => exact (Edits.connect client task).moves
  | send task text => exact (Edits.message client task text).moves
  | disconnect task => exact (Edits.disconnect client (fun _ _ => trivial) task).moves
  | resume call outcome =>
    have dropped : Moves client (client.drop call) := ⟨rfl, rfl, rfl⟩
    have present : (client.call? call).isSome := present_of_possible possible
    exact dropped.trans (Acts.resume client present outcome (fun _ _ _ _ _ => trivial) fun _ _ _ _ _ _ _ _ => trivial).moves
  | turn reader => exact turn_of_unaccepted (by simpa only [Client.possible, Bool.not_eq_true'] using possible) unaccepted
  | unwind reader =>
    have abandoned : Moves client (client.abandon reader) := ⟨rfl, rfl, rfl⟩
    exact abandoned.trans (Edits.unwind client trivial).moves
  | attach | arrive | jam | failure => exact ⟨rfl, rfl, rfl⟩
  | _ => contradiction

end Client
end Pubsub
