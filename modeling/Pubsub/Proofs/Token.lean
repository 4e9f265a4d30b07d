import Pubsub.Proofs.Effect

/-! The token of a channel is what was written to it last, over every run. Only accepted frames and the
application write it; losses, reconnections, ends, failed sends and refused frames leave it alone. -/

namespace Pubsub.Client

def token (client : Client) (id : ChannelId) : Option Text := client.channels[id]?.bind (·.token)

def written (client : Client) (id : ChannelId) : Event → Option (Option Text)
  | .setToken channel token => if channel = id ∧ id < client.channels.length then some token else none
  | event =>
    match client.accepted event with
    | some accepted => if accepted.id = id then accepted.acceptance.written else none
    | none => none

def writes (id : ChannelId) : Client → List Event → List (Option Text)
  | _, [] => []
  | client, event :: rest => (client.written id event).toList ++ writes id (client.step event) rest

/-- A token can be told from profiles, or from tokens alone. -/
theorem token_eq_of_tokens {before after : Client}
    (same : after.channels.map (·.token) = before.channels.map (·.token)) (id : ChannelId) :
    after.token id = before.token id := by
  have view (client : Client) : client.token id = ((client.channels.map (·.token))[id]?).join := by
    rw [List.getElem?_map]
    unfold token
    cases client.channels[id]? <;> rfl
  rw [view, view, same]

private theorem tokens_eq_of_profiles {before after : List Channel}
    (same : after.map Channel.profile = before.map Channel.profile) :
    after.map (·.token) = before.map (·.token) := by
  have tokens := congrArg (List.map (·.token)) same
  simpa only [List.map_map, Function.comp_def, Channel.profile] using tokens

theorem Moves.token {before after : Client} (moves : Moves before after) (id : ChannelId) :
    after.token id = before.token id :=
  token_eq_of_tokens (tokens_eq_of_profiles moves.profiles) id

private theorem token_append (client : Client) (channel : Channel) (fresh : channel.token = none) (id : ChannelId) :
    ({ client with channels := client.channels ++ [channel] } : Client).token id = client.token id := by
  unfold token
  dsimp only
  by_cases inside : id < client.channels.length
  · rw [List.getElem?_append_left inside]
  · rw [List.getElem?_append_right (Nat.le_of_not_lt inside), List.getElem?_eq_none (Nat.le_of_not_lt inside)]
    cases found : [channel][id - client.channels.length]? with
    | none => rfl
    | some other =>
      obtain rfl := List.mem_singleton.mp (List.mem_of_getElem? found)
      exact fresh

/-- A channel that is replaced has the token of the new one, all others keep theirs. -/
theorem token_set {client : Client} {other : ChannelId} {old : Channel} (found : client.channels[other]? = some old)
    (channel : Channel) (id : ChannelId) :
    ({ client with channels := client.channels.set other channel } : Client).token id =
      if other = id then channel.token else client.token id := by
  unfold token
  dsimp only
  obtain ⟨inside, _⟩ := List.getElem?_eq_some_iff.mp found
  rw [List.getElem?_set]
  by_cases same : other = id
  · subst same
    rw [if_pos rfl, if_pos inside, if_pos rfl]
    rfl
  · rw [if_neg same, if_neg same]

theorem Takes.token {accepted : Accepted} {before after : Client} (takes : Takes accepted before after)
    (found : before.channels[accepted.id]? = some accepted.channel) (id : ChannelId) :
    after.token id = if accepted.id = id then accepted.acceptance.written.getD (before.token id) else before.token id := by
  let set : Client := { before with
    channels := before.channels.set accepted.id (accepted.acceptance.update accepted.channel) }
  have same : after.token id = set.token id := token_eq_of_tokens (tokens_eq_of_profiles takes.profiles) id
  rw [same, token_set found]
  split
  next here =>
    subst here
    rw [Acceptance.update_token]
    simp only [Client.token, found, Option.bind_some]
  · rfl

private theorem written_of_taker {client : Client} {event : Event} {accepted : Accepted}
    (taker : client.taker event = some accepted) (id : ChannelId) :
    (client.written id event).getD (client.token id) =
      if accepted.id = id then accepted.acceptance.written.getD (client.token id) else client.token id := by
  rcases taker_cases taker with accepts | ⟨other, channel, rfl, found, rfl⟩
  · have written : client.written id event = if accepted.id = id then accepted.acceptance.written else none := by
      cases event with
      | setToken => contradiction
      | _ => simp only [Client.written, accepts]
    rw [written]
    split <;> rfl
  · split
    next here =>
      subst here
      simp only [token, found]
      rfl
    · rfl

private theorem written_of_unchanged {client : Client} {event : Event} (nobody : client.accepted event = none)
    (unchanged : event.update = none) (id : ChannelId) : client.written id event = none := by
  cases event with
  | setToken => contradiction
  | _ => simp only [written, nobody]

private theorem setToken_token (client : Client) (other : ChannelId) (token : Option Text) (id : ChannelId) :
    (client.change other fun channel => .ok { channel with token }).token id =
      (client.written id (.setToken other token)).getD (client.token id) := by
  simp only [written, change]
  cases found : client.channels[other]? with
  | none =>
    have outside : ¬(other = id ∧ id < client.channels.length) := by
      rintro ⟨rfl, inside⟩
      exact absurd found (by simp [inside])
    rw [if_neg outside]
    rfl
  | some channel =>
    have set := token_set found { channel with token } id
    by_cases same : other = id
    · subst same
      have inside := (List.getElem?_eq_some_iff.mp found).choose
      rw [if_pos ⟨rfl, inside⟩]
      rwa [if_pos rfl] at set
    · rw [if_neg fun both => same both.1]
      rwa [if_neg same] at set

theorem Creates.token {client : Client} {event : Event} {channel : Channel} (creates : Creates client event channel) :
    channel.token = none := by
  cases creates with
  | make made =>
    obtain ⟨given, _, rfl⟩ := Channel.make_shape made
    rfl
  | subscribe made =>
    obtain ⟨given, _, shape⟩ := newChannel_shape made
    rw [shape]

theorem Effect.token {client after : Client} {event : Event} (effect : Effect client event after) (id : ChannelId) :
    after.token id = (client.written id event).getD (client.token id) := by
  cases effect with
  | taken taker takes => exact (takes.token (taker_found taker) id).trans (written_of_taker taker id).symm
  | moved nobody unchanged moves =>
    rw [written_of_unchanged (accepted_of_nobody nobody) unchanged, moves.token]
    rfl
  | changed asked =>
    -- one of the updates writes a token, the others keep every token
    by_cases sets : ∃ other token, event = .setToken other token
    · obtain ⟨other, token, rfl⟩ := sets
      cases asked
      exact setToken_token client _ token id
    · have nothing : client.written id event = none := by
        cases event <;> first | contradiction | rfl | exact absurd ⟨_, _, rfl⟩ sets
      rw [nothing]
      refine token_eq_of_tokens (change_map client _ _ (·.token) ?_) id
      intro channel changed updated
      rcases Event.update_ok asked updated with ⟨_, _, rfl⟩ | ⟨_, _, rfl⟩ | ⟨token, set, _⟩ | ⟨_, rfl⟩
      · rfl
      · rfl
      · exact absurd ⟨_, token, set⟩ sets
      · rfl
  | added creates moves =>
    have nothing : client.written id event = none := by cases creates <;> rfl
    rw [nothing, moves.token]
    exact token_append client _ creates.token id
  | called => rfl
  | closed => rfl

private theorem run_token (client : Client) (events : List Event) (id : ChannelId) :
    (client.run events).token id = (writes id client events).getLastD (client.token id) := by
  induction events generalizing client with
  | nil => rfl
  | cons event rest ih =>
    rw [run_cons, ih, (step_effect client event).token, writes]
    cases client.written id event with
    | none => rfl
    | some token => simp only [Option.toList_some, List.singleton_append, List.getLastD_cons, Option.getD_some]

/-- Over every run of a connection, the token of a channel is what was written to it last, and none
before the first write. -/
theorem token_eq_last_write (url : Text) (events : List Event) (id : ChannelId) (channel : Channel)
    (found : ((fresh url).run events).channels[id]? = some channel) :
    channel.token = (writes id (fresh url) events).getLastD none := by
  have last := run_token (fresh url) events id
  have start : (fresh url).token id = none := rfl
  rwa [start, token, found, Option.bind_some] at last

/-- A subscription that succeeds with a token, then takes an event with an id, and is lost. -/
def resumed : List Event :=
  [.subscribe .application (some "feed") none [], .connect .application, .resume 0 (.ok ()), .turn 0] ++
    Event.arrival [("event", .text "pusher:connection_established")] ++ [.resume 1 (.ok ())] ++
    Event.arrival [("event", .text "pusher_internal:subscription_succeeded"), ("channel", .text "feed"),
      ("data", .object [("resume_after", .text "42")])] ++
    Event.arrival [("event", .text "price"), ("channel", .text "feed"), ("id", .text "43")] ++
    [.arrive 0 (.ending (.broken 1006 "lost")), .turn 0]

theorem token_of_resumed :
    ((fresh "url").run resumed).channels[0]? = some { name := "feed", token := some ("43" : Text) } ∧
      writes 0 (fresh "url") resumed = [some ("42" : Text), some ("43" : Text)] ∧
      some ("43" : Text) = (writes 0 (fresh "url") resumed).getLastD none :=
  ⟨by decide +kernel, by decide +kernel,
    token_eq_last_write "url" resumed 0 { name := "feed", token := some ("43" : Text) } (by decide +kernel)⟩

end Pubsub.Client
