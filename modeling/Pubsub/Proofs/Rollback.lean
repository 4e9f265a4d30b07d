import Pubsub.Proofs.Attendance
import Pubsub.Proofs.Course
import Pubsub.Proofs.Loss

/-! What becomes of a channel when the sending of its request is over. A request that was sent leaves the channel as
it is by then. One that failed looks at the phase only, not at who set it: it takes its own request back, but if the
channel has been requested again meanwhile, that request as well. -/

namespace Pubsub

def Stage.reader? : Stage → Option ReaderId
  | .resubscribing _ _ reader => reader
  | _ => none

namespace Client

/-- Whether an event brings a channel to the requested phase: the application moves it there, or a request of it is
handed over. -/
def requests (client : Client) (id : ChannelId) (event : Event) : Bool :=
  (client.step event).phase? id = some .requested &&
    ((match event with
      | .move other .requested => other = id
      | _ => false) ||
    (client.step event).calls.any fun entry => client.nextCall ≤ entry.1 && entry.2.stage.channel? = some id)

variable {client : Client} {id : ChannelId}

private theorem requested_before (tidy : client.Tidy) {event : Event} (others : client.requests id event = false)
    (requested : (client.step event).phase? id = some .requested) : client.phase? id = some .requested := by
  rcases step_requested tidy requested with before | rfl | ⟨entry, member, late, about⟩
  · exact before
  · simp [requests, requested] at others
  · have asking : (client.step event).calls.any
        fun entry => client.nextCall ≤ entry.1 && entry.2.stage.channel? = some id :=
      List.any_eq_true.mpr ⟨entry, member, by simp [late, about]⟩
    simp only [requests, requested, asking] at others
    simp at others

/-- A channel that is requested, and was not requested meanwhile, has been requested all along. -/
theorem requested_throughout (tidy : client.Tidy) {meanwhile : List Event}
    (others : Follows (fun client event => !client.requests id event) client meanwhile = true)
    (requested : (client.run meanwhile).phase? id = some .requested) {earlier : List Event}
    (before : earlier <+: meanwhile) : (client.run earlier).phase? id = some .requested := by
  induction meanwhile generalizing client earlier with
  | nil =>
    rw [List.prefix_nil.mp before]
    exact requested
  | cons event rest ih =>
    obtain ⟨first, later⟩ := Bool.and_eq_true_iff.mp others
    have stands {earlier : List Event} (within : earlier <+: rest) :
        ((client.step event).run earlier).phase? id = some .requested :=
      ih (step_tidy event tidy) later requested within
    cases earlier with
    | nil => exact requested_before tidy (by simpa using first) (stands List.nil_prefix)
    | cons next earlier =>
      obtain ⟨rfl, within⟩ := List.cons_prefix_cons.mp before
      exact stands within

theorem moveTo_found_of_ne (client : Client) {other : ChannelId} (phase : Phase) (apart : id ≠ other) :
    (client.moveTo other phase).1.channels[id]? = client.channels[id]? := by
  rcases moveTo_either client other phase with same | ⟨channel, found, allowed⟩
  · rw [same]
  · rw [moveTo_channels found allowed, List.getElem?_set_ne apart.symm]

theorem rollBack_found_of_ne (client : Client) {other : ChannelId} (apart : id ≠ other) :
    (client.rollBack other).channels[id]? = client.channels[id]? := by
  rw [rollBack_eq]
  split
  · exact moveTo_found_of_ne client .initial apart
  · rfl

private theorem resubscribe_found_of_not_mem (task : Task) (reader : Option ReaderId) {ids : List ChannelId}
    (apart : id ∉ ids)
    (client : Client) : (resubscribe task reader ids client).1.channels[id]? = client.channels[id]? := by
  induction ids generalizing client with
  | nil =>
    unfold resubscribe
    split <;> rfl
  | cons other rest ih =>
    rw [List.mem_cons, not_or] at apart
    apply resubscribe_cases (motive := fun result => result.1.channels[id]? = client.channels[id]?)
    · exact fun _ => ih apart.2 client
    · exact fun _ _ _ => ih apart.2 _
    · exact fun _ _ _ _ _ _ => moveTo_found_of_ne client .requested apart.1
    · intro _ _ _ _ _ _
      rw [rollBack_found_of_ne _ apart.1, moveTo_found_of_ne client .requested apart.1]

/-- A reader that waits for requests does nothing to channels, unless an error is not the client's own. -/
theorem passOn_channels {result : Client × Progress}
    (own : ∀ error, result.2 = .done (.error error) → error.own = true) (reader : Option ReaderId) :
    (passOn reader result).1.channels = result.1.channels := by
  obtain ⟨client, progress⟩ := result
  cases progress with
  | suspended call => rfl
  | done outcome =>
    cases reader with
    | none => rfl
    | some reader =>
      simp only [passOn]
      split
      · cases outcome with
        | ok found => rfl
        | error error =>
          simp only [settle, own error rfl, if_true]
          rfl
      · rfl

/-- Going on with the requests that come after one leaves its channel alone. -/
theorem resume_sent_found (sound : client.Sound) (tidy : client.Tidy) {call : CallId} {task : Task} {stage : Stage}
    (held : client.call? call = some ⟨task, stage⟩) (about : stage.channel? = some id) :
    (client.resume call (.ok ())).1.channels[id]? = client.channels[id]? := by
  cases stage with
  | subscribing channel =>
    simp only [resume, held]
    rfl
  | resubscribing channel rest reader =>
    cases about
    obtain ⟨nodup, _⟩ := tidy.proper _ (call?_mem held)
    have spares : Spares (fun _ => True) (· ≠ call) client (client.drop call) := .drop client (not_not_intro rfl)
    have dropped : (client.drop call).Sound := spares.sound sound
    simp only [resume, held]
    have requested := resubscribe_requested dropped task reader rest
    rw [passOn_channels fun _ => requested.own, resubscribe_found_of_not_mem task reader (List.nodup_cons.mp nodup).1]
    rfl
  | _ => contradiction

private theorem resume_failed {call : CallId} {task : Task} {stage : Stage}
    (held : client.call? call = some ⟨task, stage⟩)
    (about : stage.channel? = some id) (error : Error) :
    (client.resume call (.error error)).1 =
      (passOn stage.reader? ((client.drop call).rollBack id, .done (.error error))).1 := by
  cases stage with
  | subscribing channel =>
    cases about
    simp only [resume, held]
    rfl
  | resubscribing channel rest reader =>
    cases about
    simp only [resume, held]
    rfl
  | _ => contradiction

/-- A call hands over the request of a channel, and while it is being sent anything may happen. Sent, it leaves the
channel as it is by then. Failed, it takes back a request that stands by then, and nothing else, before a reader that
waits is told. That is the request of the call itself, standing ever since, unless the channel was requested again. -/
theorem finished_request_keeps_channel (url : Text) (past : List Event) (sending : Event) (meanwhile : List Event)
    {call : CallId} {task : Task} {stage : Stage} {id : ChannelId}
    (new : ((fresh url).run past).call? call = none)
    (started : (((fresh url).run past).step sending).call? call = some ⟨task, stage⟩)
    (about : stage.channel? = some id)
    (flying : ((((fresh url).run past).step sending).run meanwhile).call? call = some ⟨task, stage⟩) :
    let start := ((fresh url).run past).step sending
    let after := start.run meanwhile
    start.phase? id = some .requested ∧
    (after.resume call (.ok ())).1.channels[id]? = after.channels[id]? ∧
    (∀ error, ∃ rolled,
      Resets (if after.phase? id = some .requested then [id] else []) (after.drop call) rolled ∧
        (after.resume call (.error error)).1 = (passOn stage.reader? (rolled, .done (.error error))).1) ∧
    (Follows (fun client event => !client.requests id event) start meanwhile = true →
      after.phase? id = some .requested →
        ∀ earlier, earlier <+: meanwhile → (start.run earlier).phase? id = some .requested) := by
  intro start after
  have before : ((fresh url).run past).Tidy := run_tidy url past
  have tidy : start.Tidy := step_tidy sending before
  have later : after.Tidy := run_induction (fun _ event => step_tidy event) tidy meanwhile
  have sound : after.Sound := run_sound meanwhile (step_sound sending (run_sound past (fresh_sound url)))
  refine ⟨?_, resume_sent_found sound later flying about, ?_, ?_⟩
  · rcases step_asked before (call?_mem started) about with old | requested
    · have absent := List.find?_eq_none.mp (Option.map_eq_none_iff.mp new) _ old
      simp at absent
    · exact requested
  · exact fun error => ⟨(after.drop call).rollBack id, rollBack_resets (after.drop call) id, resume_failed flying about error⟩
  · exact fun others requested earlier prefixed => requested_throughout tidy others requested prefixed

def connected : List Event :=
  [.connect .application, .resume 0 (.ok ()), .turn 0] ++
    Event.arrival [("event", .text "pusher:connection_established")]

/-- The request of a channel in flight, when another channel has been requested too. -/
def sending : Client :=
  (((fresh "url").run connected).step (.subscribe .application (some "feed") none [])).run
    [.subscribe .application (some "other") none []]

/-- Its failure takes back that request, and not the other. -/
theorem finished_request_keeps_channel_failed :
    sending.phase? 0 = some .requested ∧ (sending.resume 1 (.error (.system "boom"))).1.phase? 0 = some .initial ∧
      (sending.resume 1 (.error (.system "boom"))).1.phase? 1 = some .requested := by
  have new : ((fresh "url").run connected).call? 1 = none := by decide +kernel
  have started : (((fresh "url").run connected).step (.subscribe .application (some "feed") none [])).call? 1 =
      some ⟨.application, .subscribing 0⟩ := by decide +kernel
  have flying : sending.call? 1 = some ⟨.application, .subscribing 0⟩ := by decide +kernel
  obtain ⟨_, _, failed, _⟩ := finished_request_keeps_channel "url" connected
    (.subscribe .application (some "feed") none []) [.subscribe .application (some "other") none []] new started rfl flying
  obtain ⟨rolled, resets, resumed⟩ := failed (.system "boom")
  have requested : sending.phase? 0 = some .requested := by decide +kernel
  have other : sending.phase? 1 = some .requested := by decide +kernel
  have taken : Resets [0] (sending.drop 1) rolled := by
    change Resets (if sending.phase? 0 = some .requested then [0] else []) _ _ at resets
    rwa [if_pos requested] at resets
  have same : (sending.resume 1 (.error (.system "boom"))).1 = rolled := resumed
  have before (id : ChannelId) : (sending.drop 1).phase? id = sending.phase? id := rfl
  refine ⟨requested, ?_, ?_⟩
  · rw [same, taken.phase?, if_pos (List.mem_singleton_self 0), before, requested, Option.map_some]
  · rw [same, taken.phase?, if_neg (by decide), before, other]

/-- The connection is lost while a request of a channel is being sent, and the next one has requested the channel
again with success. -/
def requestedAgain : Client :=
  (((fresh "url").run connected).step (.subscribe .application (some "feed") none [])).run
    [.arrive 0 (.ending .finished), .turn 0, .connect .application, .resume 2 (.ok ()), .turn 1,
      .arrive 1 (.frame (.text (Json.object [("event", .text "pusher:connection_established")]).compact)), .turn 1,
      .resume 3 (.ok ())]

/-- The first request fails late, and takes back the second one, which was sent. -/
theorem failed_request_takes_back_another :
    requestedAgain.isConnected = true ∧ requestedAgain.phase? 0 = some .requested ∧
      requestedAgain.calls = [(1, ⟨.application, .subscribing 0⟩)] ∧
      (requestedAgain.resume 1 (.error (.system "boom"))).1.isConnected = true ∧
      (requestedAgain.resume 1 (.error (.system "boom"))).1.phase? 0 = some .initial := by
  decide +kernel

end Client
end Pubsub
