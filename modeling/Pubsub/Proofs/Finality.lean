import Pubsub.Proofs.Requests

/-! The end of a channel is final. From then on a channel is what it was, but for what the application assigns to it;
frames are ignored, nothing is submitted for it, and no request of it is handed over. -/

namespace Pubsub

private theorem Channel.bind_of_ended {channel : Channel} (ended : channel.phase = .ended) (event : Option Text)
    (listener : Option Listener) :
    (∃ error, channel.bind event listener = .error error) ∧ ∃ error, channel.unbind event listener = .error error := by
  have refused : ∃ error, channel.checkBinding event listener = .error error := by
    unfold checkBinding
    split
    · exact ⟨_, rfl⟩
    · exact ⟨_, rfl⟩
    · exact ⟨_, rfl⟩
    · simp only [if_pos ended]
      split <;> exact ⟨_, rfl⟩
  obtain ⟨error, refused⟩ := refused
  exact ⟨⟨error, by rw [bind, refused]; rfl⟩, ⟨error, by rw [unbind, refused]; rfl⟩⟩

/-- To assign is to change nothing but a token or a lifecycle listener. -/
theorem Event.assigned_cases {motive : Channel → Prop} (id : ChannelId) (channel : Channel) (event : Event)
    (same : motive channel) (token : ∀ token, event = .setToken id token → motive { channel with token })
    (lifecycle : ∀ lifecycle, motive { channel with lifecycle }) : motive (event.assigned id channel) := by
  unfold assigned
  split
  · split
    next here => exact token _ (here ▸ rfl)
    next => exact same
  · split
    · exact lifecycle _
    · exact same
  · exact same

@[simp] theorem Event.assigned_phase (id : ChannelId) (channel : Channel) (event : Event) :
    (event.assigned id channel).phase = channel.phase :=
  event.assigned_cases (motive := (·.phase = channel.phase)) id channel rfl (fun _ _ => rfl) fun _ => rfl

@[simp] theorem Event.assigned_bindings (id : ChannelId) (channel : Channel) (event : Event) :
    (event.assigned id channel).bindings = channel.bindings :=
  event.assigned_cases (motive := (·.bindings = channel.bindings)) id channel rfl (fun _ _ => rfl) fun _ => rfl

private theorem Event.assigned_token {id : ChannelId} {channel : Channel} {event : Event}
    (other : ∀ token, event ≠ .setToken id token) : (event.assigned id channel).token = channel.token :=
  event.assigned_cases (motive := (·.token = channel.token)) id channel rfl
    (fun token same => absurd same (other token)) fun _ => rfl

namespace Client

/-- What the application assigns to a channel that has ended is all that is changed of it. -/
theorem change_of_ended {client : Client} {id : ChannelId} {channel : Channel} (found : client.channels[id]? = some channel)
    (ended : channel.phase = .ended) {event : Event} {other : ChannelId} {update : Channel → Except Error Channel}
    (asked : event.update = some (other, update)) :
    (client.change other update).channels[id]? = some (event.assigned id channel) := by
  by_cases here : other = id
  · subst here
    obtain ⟨inside, _⟩ := List.getElem?_eq_some_iff.mp found
    simp only [change, found]
    cases event with
    | bind id event listener =>
      cases asked
      obtain ⟨⟨error, refused⟩, _⟩ := Channel.bind_of_ended ended event listener
      simp only [refused, found, Event.assigned]
    | unbind id event listener =>
      cases asked
      obtain ⟨_, error, refused⟩ := Channel.bind_of_ended ended event listener
      simp only [refused, found, Event.assigned]
    | setToken id token =>
      cases asked
      simp only [setChannel, List.getElem?_set_self inside, Event.assigned, if_true]
    | setLifecycle id lifecycle =>
      cases asked
      simp only [setChannel, List.getElem?_set_self inside, Event.assigned, if_true]
    | _ => contradiction
  · have spared : (client.change other update).channels[id]? = some channel := by
      unfold change
      split
      · exact found
      · split
        · exact found
        · exact (List.getElem?_set_ne here).trans found
    have unassigned : event.assigned id channel = channel := by
      cases event with
      | setToken | setLifecycle =>
        cases asked
        exact if_neg here
      | _ => rfl
    rw [spared, unassigned]

section
variable {client : Client} {id : ChannelId} {channel : Channel}

private theorem step_of_ended (tidy : client.Tidy) (found : client.channels[id]? = some channel)
    (ended : channel.phase = .ended)
    (event : Event) : (client.step event).channels[id]? = some (event.assigned id channel) := by
  cases asked : event.update with
  | none =>
    obtain ⟨start, begins, proceeds, _⟩ := step_proceeds tidy event
    have unassigned : event.assigned id channel = channel := by cases event <;> first | contradiction | rfl
    rw [unassigned]
    exact (begins.freezes asked).trans proceeds.freezes id channel found ended
  | some change =>
    have changed : client.step event = client.change change.1 change.2 := by
      cases event <;> first | contradiction | (cases asked; rfl)
    rw [changed]
    exact change_of_ended found ended asked

/-- What a channel that has ended comes to is what is assigned to it in turn. -/
theorem run_of_ended (tidy : client.Tidy) (found : client.channels[id]? = some channel) (ended : channel.phase = .ended)
    (events : List Event) : (client.run events).channels[id]? = some (events.foldl (Event.assigned id) channel) := by
  induction events generalizing client channel with
  | nil => exact found
  | cons event rest ih =>
    have still : (event.assigned id channel).phase = .ended := (event.assigned_phase id channel).trans ended
    exact ih (step_tidy event tidy) (step_of_ended tidy found ended event) still

theorem step_phase?_of_ended (tidy : client.Tidy) (ended : client.phase? id = some .ended) (event : Event) :
    (client.step event).phase? id = some .ended := by
  obtain ⟨channel, found, last⟩ := Option.map_eq_some_iff.mp ended
  rw [phase?, step_of_ended tidy found last event, Option.map_some, Event.assigned_phase, last]

private theorem submitted_of_ended (found : client.channels[id]? = some channel) (ended : channel.phase = .ended)
    (event : Event) :
    ∀ entry ∈ client.submitted event, entry.1 ≠ id := by
  intro entry member
  unfold submitted at member
  split at member
  · contradiction
  next accepted taker =>
    split at member
    · obtain ⟨callback, _, rfl⟩ := List.mem_map.mp member
      rintro rfl
      obtain rfl := Option.some.inj (found.symm.trans (taker_found taker))
      exact taker_live taker ended
    · contradiction

private theorem receive_of_ended (found : client.channels[id]? = some channel) (ended : channel.phase = .ended)
    (event : Text)
    (frame : Frame) : client.receive id event frame =
      ({ client with records := client.records ++ [channel.debug ("ignoring " ++ event ++ " after unsubscribe")] },
        .ok ()) := by
  obtain ⟨inside, rfl⟩ := List.getElem?_eq_some_iff.mp found
  simp only [receive, found, Channel.receive, if_pos ended, react, setChannel, List.set_getElem_self, submit,
    List.isEmpty_nil, true_or, if_true, List.append_nil]

/-- All that is handed over for a channel that has ended is its end. -/
theorem step_ledger_of_ended (tidy : client.Tidy) (ended : client.phase? id = some .ended) (event : Event) :
    ∃ entries, (client.step event).ledger = client.ledger ++ entries ∧
      ∀ entry ∈ entries, entry.channel = id → entry.request.ends = true := by
  obtain ⟨entries, handover, ledger⟩ := step_handover tidy event
  have still := step_phase?_of_ended tidy ended event
  refine ⟨entries, ledger, ?_⟩
  rintro entry member rfl
  cases handover with
  | nothing => contradiction
  | subscribe found registered requested =>
    cases List.mem_singleton.mp member
    rw [phase?_of_found found, requested] at still
    contradiction
  | unsubscribe =>
    cases List.mem_singleton.mp member
    rfl

private theorem run_ledger_of_ended (tidy : client.Tidy) (ended : client.phase? id = some .ended)
    (events : List Event) :
    ∃ entries, (client.run events).ledger = client.ledger ++ entries ∧
      ∀ entry ∈ entries, entry.channel = id → entry.request.ends = true := by
  induction events generalizing client with
  | nil => exact ⟨[], (List.append_nil _).symm, nofun⟩
  | cons event rest ih =>
    obtain ⟨first, now, telling⟩ := step_ledger_of_ended tidy ended event
    obtain ⟨more, later, ends⟩ := ih (step_tidy event tidy) (step_phase?_of_ended tidy ended event)
    refine ⟨first ++ more, by rw [run_cons, later, now, List.append_assoc], fun entry member => ?_⟩
    exact (List.mem_append.mp member).elim (telling entry) (ends entry)

end

private theorem assigned_all (id : ChannelId) (channel : Channel) (events : List Event) :
    (events.foldl (Event.assigned id) channel).phase = channel.phase ∧
      (events.foldl (Event.assigned id) channel).bindings = channel.bindings ∧
      ((∀ token, Event.setToken id token ∉ events) →
        (events.foldl (Event.assigned id) channel).token = channel.token) := by
  induction events generalizing channel with
  | nil => exact ⟨rfl, rfl, fun _ => rfl⟩
  | cons event rest ih =>
    obtain ⟨phase, bindings, token⟩ := ih (event.assigned id channel)
    refine ⟨phase.trans (event.assigned_phase id channel), bindings.trans (event.assigned_bindings id channel), fun unset => ?_⟩
    have later : ∀ token, Event.setToken id token ∉ rest := fun token member => unset token (List.mem_cons_of_mem _ member)
    have now : ∀ token, event ≠ .setToken id token := fun token same => unset token (same ▸ List.mem_cons_self)
    exact (token later).trans (Event.assigned_token now)

/-- From the moment a channel has ended, whatever happens: it stays at the end with the bindings that it has, and only
an assignment changes its token. No event submits a callback for it, a frame that it is offered is never refused and
changes nothing but the log, and no request that it makes is handed over but the one that tells its end. -/
theorem end_is_final (url : Text) (transport : Transport) (past : List Event) {id : ChannelId} {channel : Channel}
    (found : ((initial url transport).run past).channels[id]? = some channel) (ended : channel.phase = .ended)
    (events : List Event) :
    let client := (initial url transport).run past
    let later := client.run events
    let last := events.foldl (Event.assigned id) channel
    later.channels[id]? = some last ∧ last.phase = .ended ∧ last.bindings = channel.bindings ∧
    ((∀ token, .setToken id token ∉ events) → last.token = channel.token) ∧
    (∀ event, event ≠ .callback →
      (later.step event).waiting = later.waiting ++ (later.submitted event).map (·.2) ∧
        ∀ entry ∈ later.submitted event, entry.1 ≠ id) ∧
    (∀ event frame, later.receive id event frame =
      ({ later with records := later.records ++ [last.debug ("ignoring " ++ event ++ " after unsubscribe")] }, .ok ())) ∧
    ∃ entries, later.ledger = client.ledger ++ entries ∧ ∀ entry ∈ entries, entry.channel = id → entry.request.ends = true := by
  intro client later last
  have tidy : client.Tidy := (initial_tidy url transport).run past
  have here : later.channels[id]? = some last := run_of_ended tidy found ended events
  obtain ⟨phase, bindings, token⟩ := assigned_all id channel events
  have still : last.phase = .ended := phase.trans ended
  have isOver : client.phase? id = some .ended := (phase?_of_found found).trans (congrArg some ended)
  refine ⟨here, still, bindings, token, ?_, ?_, run_ledger_of_ended tidy isOver events⟩
  · exact fun event making => ⟨step_waiting later making, submitted_of_ended here still event⟩
  · exact fun event frame => receive_of_ended here still event frame

def dismissed : List Event :=
  [.subscribe .application (some "feed") none [], .connect .application, .resume 0 (.ok ()), .turn 0] ++
    Event.arrival [("event", .text "pusher:connection_established")] ++ [.unsubscribe .application (some "feed")]

/-- The request fails, its success arrives all the same, and the application tries to revive the channel. -/
def revivals : List Event :=
  [.resume 1 (.error (.system "down")), .receive 0 "pusher_internal:subscription_succeeded" (.text "not even an object"),
    .move 0 .subscribed, .bind 0 (some "news") (some "listener"), .setToken 0 (some "41"), .resubscribe .application]

/-- Nothing but the assigned token has come of it, and the server was told the end and no more. -/
theorem end_is_final_dismissed :
    ((initial "url" .connection).run (dismissed ++ revivals)).channels[0]? =
        some { name := "feed", phase := .ended, token := some "41" } ∧
      ((initial "url" .connection).run dismissed).ledger =
        [⟨some 0, 0, .subscribe "feed" none⟩, ⟨some 0, 0, .unsubscribe "feed"⟩] ∧
      ∃ entries, ((initial "url" .connection).run (dismissed ++ revivals)).ledger =
          ((initial "url" .connection).run dismissed).ledger ++ entries ∧
        ∀ entry ∈ entries, entry.channel = 0 → entry.request.ends = true := by
  have found : ((initial "url" .connection).run dismissed).channels[0]? = some { name := "feed", phase := .ended } := by
    decide +kernel
  obtain ⟨here, _, _, _, _, _, ledger⟩ := end_is_final "url" .connection dismissed found rfl revivals
  refine ⟨by rw [run_append, here]; rfl, by decide +kernel, ?_⟩
  rw [run_append]
  exact ledger

end Client
end Pubsub
