import Pubsub.Proofs.Course

/-! The requests that a client hands over, and the channels they are about. A channel whose end was told is not
registered any more and never will be, so nothing else is told about it, though another may come to have its name. -/

namespace Pubsub

def Request.name : Request → Text
  | .subscribe name _ => name
  | .unsubscribe name => name

def Request.ends : Request → Bool
  | .subscribe _ _ => false
  | .unsubscribe _ => true

/-- A request that was handed over: the socket that it went to, and the channel that made it. -/
structure Entry where
  socket : Option SocketId
  channel : ChannelId
  request : Request
deriving DecidableEq

def Sent.entry? : Sent → Option Entry
  | ⟨socket, .request channel request⟩ => some { socket, channel, request }
  | ⟨_, .message _⟩ => none

namespace Client

/-- The requests that were handed over, oldest first. -/
def ledger (client : Client) : List Entry := client.sent.filterMap Sent.entry?

def handed (client : Client) : List (Option SocketId × Request) :=
  client.ledger.map fun entry => (entry.socket, entry.request)

private theorem ledger_of_sent {before after : Client} (sent : after.sent = before.sent) :
    after.ledger = before.ledger := by
  rw [ledger, ledger, sent]

private theorem handed_of_ledger {before after : Client} (ledger : after.ledger = before.ledger) :
    after.handed = before.handed := by
  rw [handed, handed, ledger]

theorem handed_of_sent {before after : Client} (sent : after.sent = before.sent) : after.handed = before.handed :=
  handed_of_ledger (ledger_of_sent sent)

theorem handed_append {before after : Client} {entries : List Entry} (ledger : after.ledger = before.ledger ++ entries) :
    after.handed = before.handed ++ entries.map fun entry => (entry.socket, entry.request) := by
  rw [handed, ledger, List.map_append, handed]

theorem Quiet.sent {before after : Client} (quiet : Quiet before after) : after.sent = before.sent := by
  obtain ⟨_, _, _, rfl⟩ := quiet
  rfl

theorem Quiet.handed {before after : Client} (quiet : Quiet before after) : after.handed = before.handed :=
  handed_of_sent quiet.sent

private theorem asking_ledger (client : Client) (task : Task) (stage : Stage) (id : ChannelId) (channel : Channel)
    (socket : Option SocketId) : (client.asking task stage id channel socket).ledger =
      client.ledger ++ [{ socket, channel := id, request := channel.request }] := by
  obtain ⟨_, _, _, same⟩ := Quiet.moveTo client id .requested
  simp [asking, same, ledger, Client.suspend, Sent.entry?]

theorem asking_handed (client : Client) (task : Task) (stage : Stage) (id : ChannelId) (channel : Channel)
    (socket : Option SocketId) :
    (client.asking task stage id channel socket).handed = client.handed ++ [(socket, channel.request)] :=
  handed_append (asking_ledger client task stage id channel socket)

private theorem dismissing_ledger (client : Client) (task : Task) (id : ChannelId) (name : Text)
    (socket : Option SocketId) :
    (client.dismissing task id name socket).ledger =
      client.ledger ++ [{ socket, channel := id, request := .unsubscribe name }] := by
  simp [dismissing, ledger, Client.suspend, Sent.entry?]

theorem dismissing_handed (client : Client) (task : Task) (id : ChannelId) (name : Text) (socket : Option SocketId) :
    (client.dismissing task id name socket).handed = client.handed ++ [(socket, .unsubscribe name)] :=
  handed_append (dismissing_ledger client task id name socket)

private theorem removing_sent (client : Client) (id : ChannelId) : (client.removing id).sent = client.sent :=
  (Quiet.moveTo { client with registered := client.registered.erase id } id .ended).sent

theorem removing_handed (client : Client) (id : ChannelId) : (client.removing id).handed = client.handed :=
  handed_of_sent (removing_sent client id)

private theorem removing_registered (client : Client) (id : ChannelId) :
    (client.removing id).registered = client.registered.erase id := by
  obtain ⟨_, _, _, same⟩ := Quiet.moveTo { client with registered := client.registered.erase id } id .ended
  simp only [removing, same]
  rfl

theorem Edit.ledger {readers : ReaderId → Prop} {before after : Client} (edit : Edit readers before after) :
    after.ledger = before.ledger := by
  cases edit with
  | retract => exact ledger_of_sent ((Quiet.moveTo before _ .requested).trans (.rollBack _ _)).sent
  | reset id => exact ledger_of_sent (Quiet.moveTo before id .initial).sent
  | finish id => exact ledger_of_sent (Quiet.moveTo before id .ended).sent
  | speak => simp [Client.ledger, Sent.entry?]
  | stop =>
    unfold Client.cancel
    split <;> rfl
  | _ => rfl

/-- What an event hands over: nothing, the request of a channel that is registered then and in the requested phase, or
the end of one that was registered before and is no longer. -/
inductive Handover (before after : Client) : List Entry → Prop where
  | nothing : Handover before after []
  | subscribe {id : ChannelId} {channel : Channel} {socket : Option SocketId} (found : after.channels[id]? = some channel)
      (registered : after.lookup channel.name = some id) (requested : channel.phase = .requested)
      (target : after.target = .ok socket) :
      Handover before after [{ socket, channel := id, request := channel.request }]
  | unsubscribe {id : ChannelId} {name : Text} {socket : Option SocketId} (found : before.lookup name = some id)
      (removed : id ∉ after.registered) (target : after.target = .ok socket) :
      Handover before after [{ socket, channel := id, request := .unsubscribe name }]

theorem lookup_of_names {before after : Client} (names : after.names = before.names)
    (registered : after.registered = before.registered) : after.lookup = before.lookup := by
  have named : after.nameOf = before.nameOf := by
    funext id
    rw [nameOf_eq, nameOf_eq, names]
  funext name
  rw [lookup, lookup, registered, named]

private theorem asking_lookup (client : Client) (task : Task) (stage : Stage) (id : ChannelId) (channel : Channel)
    (socket : Option SocketId) : (client.asking task stage id channel socket).lookup = client.lookup := by
  have names := moveTo_names client id .requested
  unfold asking
  obtain ⟨_, _, _, same⟩ := Quiet.moveTo client id .requested
  rw [same] at names ⊢
  exact lookup_of_names names rfl

private theorem asking_target (client : Client) (task : Task) (stage : Stage) (id : ChannelId) (channel : Channel)
    (socket : Option SocketId) : (client.asking task stage id channel socket).target = client.target :=
  (Quiet.moveTo client id .requested).target

private theorem asking_found {client : Client} {id : ChannelId} {channel : Channel}
    (found : client.channels[id]? = some channel)
    (live : channel.phase ≠ .ended) (task : Task) (stage : Stage) (socket : Option SocketId) :
    (client.asking task stage id channel socket).channels[id]? = some { channel with phase := .requested } := by
  obtain ⟨inside, _⟩ := List.getElem?_eq_some_iff.mp found
  have moved := moveTo_of_live found (fun ended => absurd ended live) (show Phase.requested ≠ .subscribed by decide)
  simp only [asking, moved, Client.suspend]
  exact List.getElem?_set_self inside

/-- An operation that does not unsubscribe hands over no more than the request of a registered channel. -/
theorem Acts.handover {readers : ReaderId → Prop} {calls : Call → Prop} {start after : Client}
    (acts : Acts readers calls start after) (asks : ∀ call, calls call → call.stage ≠ .unsubscribing) (before : Client) :
    ∃ entries, Handover before after entries ∧ after.ledger = start.ledger ++ entries := by
  have edited {middle : Client} (edits : Edits readers start middle) : middle.ledger = start.ledger :=
    edits.keep (motive := fun middle => middle.ledger = start.ledger) rfl fun _ _ edit kept => edit.ledger.trans kept
  cases acts with
  | edits edits => exact ⟨[], .nothing, by rw [edited edits, List.append_nil]⟩
  | @hands middle _ edits handing =>
    cases handing with
    | @ask id channel found registered live socket target task stage own about =>
      have handed := asking_ledger middle task stage id channel socket
      rw [edited edits] at handed
      have known := (congrFun (asking_lookup middle task stage id channel socket) channel.name).trans registered
      have sendable := (asking_target middle task stage id channel socket).trans target
      exact ⟨_, .subscribe (asking_found found live task stage socket) known rfl sendable, handed⟩
    | dismiss id name target own => exact absurd rfl (asks _ own)

private theorem unsubscribe_handover {client : Client} (registry : client.Registry) (task : Task) (name : Option Text) :
    ∃ entries, Handover client (client.unsubscribe task name).1 entries ∧
      (client.unsubscribe task name).1.ledger = client.ledger ++ entries := by
  have kept (id : ChannelId) : (client.removing id).ledger = client.ledger := ledger_of_sent (removing_sent client id)
  apply unsubscribe_cases (motive := fun result =>
    ∃ entries, Handover client result.1 entries ∧ result.1.ledger = client.ledger ++ entries)
  · exact fun _ => ⟨[], .nothing, (List.append_nil _).symm⟩
  · exact fun id _ _ => ⟨[], .nothing, by rw [kept, List.append_nil]⟩
  · intro id socket given target
    obtain ⟨name, _, found⟩ := Option.bind_eq_some_iff.mp given
    have removed : id ∉ ((client.removing id).dismissing task id (client.nameOf id) socket).registered := by
      change id ∉ (client.removing id).registered
      rw [removing_registered]
      exact registry.nodup.not_mem_erase
    refine ⟨_, .unsubscribe (registry.lookup_nameOf (lookup_mem found)) removed target, ?_⟩
    rw [dismissing_ledger, kept]

theorem step_handover {client : Client} (tidy : client.Tidy) (event : Event) :
    ∃ entries, Handover client (client.step event) entries ∧ (client.step event).ledger = client.ledger ++ entries := by
  by_cases told : ∃ task name, event = .unsubscribe task name
  · obtain ⟨task, name, rfl⟩ := told
    exact unsubscribe_handover tidy.registry task name
  · obtain ⟨start, begins, acts⟩ := step_course tidy event
    have asks (call : Call) (owned : event.Owns call) : call.stage ≠ .unsubscribing := fun same => told (owned.2 same)
    rw [← ledger_of_sent begins.sent]
    exact acts.handover asks client

def Gone (client : Client) (id : ChannelId) : Prop := id < client.channels.length ∧ id ∉ client.registered

theorem channels_of_names {before after : Client} (names : before.names <+: after.names) :
    before.channels.length ≤ after.channels.length := by
  simpa only [Client.names, List.length_map] using names.length_le

variable {client : Client}

theorem Gone.step {id : ChannelId} (gone : client.Gone id) (tidy : client.Tidy) (event : Event) :
    (client.step event).Gone id := by
  obtain ⟨start, begins, proceeds, _⟩ := step_proceeds tidy event
  refine ⟨Nat.lt_of_lt_of_le gone.1 (channels_of_names (step_names tidy event)), ?_⟩
  intro member
  have started := proceeds.registered.subset member
  rcases begins.registered with same | ⟨channel, _, rfl⟩
  · exact gone.2 (same ▸ started)
  · rcases List.mem_append.mp started with old | new
    · exact gone.2 old
    · exact absurd (List.mem_singleton.mp new) (Nat.ne_of_lt gone.1)

/-- No request is made by a channel that is not registered any more. -/
theorem Handover.apart {after : Client} {entries : List Entry} (handover : Handover client after entries) {id : ChannelId}
    (gone : client.Gone id) (later : after.Gone id) : ∀ entry ∈ entries, entry.channel ≠ id := by
  rintro entry member rfl
  cases handover with
  | nothing => contradiction
  | subscribe _ registered =>
    cases List.mem_singleton.mp member
    exact later.2 (lookup_mem registered)
  | unsubscribe found =>
    cases List.mem_singleton.mp member
    exact gone.2 (lookup_mem found)

/-- The channel of a request has the name that the request gives, and if that tells its end it is gone. -/
theorem Handover.entered {after : Client} {entries : List Entry} (handover : Handover client after entries)
    (tidy : client.Tidy) (later : after.Tidy) (names : client.names <+: after.names) : ∀ entry ∈ entries,
      entry.channel < after.channels.length ∧ after.nameOf entry.channel = entry.request.name ∧
        (entry.request.ends = true → after.Gone entry.channel) := by
  intro entry member
  cases handover with
  | nothing => contradiction
  | subscribe found registered =>
    cases List.mem_singleton.mp member
    exact ⟨later.registry.known _ (lookup_mem registered), nameOf_of_found found, nofun⟩
  | unsubscribe found removed =>
    cases List.mem_singleton.mp member
    obtain ⟨known, named⟩ := tidy.registry.lookup_iff.mp found
    have inside := tidy.registry.known _ known
    have still := Nat.lt_of_lt_of_le inside (channels_of_names names)
    exact ⟨still, (nameOf_of_names names inside).trans named, fun _ => ⟨still, removed⟩⟩

structure Booked (client : Client) : Prop where
  known : ∀ entry ∈ client.ledger,
    entry.channel < client.channels.length ∧ client.nameOf entry.channel = entry.request.name
  gone : ∀ entry ∈ client.ledger, entry.request.ends = true → client.Gone entry.channel
  final : client.ledger.Pairwise fun earlier later => earlier.request.ends = true → later.channel ≠ earlier.channel

theorem Booked.step (booked : client.Booked) (tidy : client.Tidy) (event : Event) : (client.step event).Booked := by
  obtain ⟨entries, handover, ledger⟩ := step_handover tidy event
  have names := step_names tidy event
  have entered := handover.entered tidy (step_tidy event tidy) names
  have still (entry : Entry) (member : entry ∈ client.ledger) (ends : entry.request.ends = true) :
      (client.step event).Gone entry.channel := (booked.gone entry member ends).step tidy event
  refine ⟨?_, ?_, ?_⟩ <;> rw [ledger]
  · intro entry member
    rcases List.mem_append.mp member with old | new
    · obtain ⟨inside, named⟩ := booked.known entry old
      exact ⟨Nat.lt_of_lt_of_le inside (channels_of_names names), (nameOf_of_names names inside).trans named⟩
    · obtain ⟨inside, named, _⟩ := entered entry new
      exact ⟨inside, named⟩
  · intro entry member ends
    rcases List.mem_append.mp member with old | new
    · exact still entry old ends
    · exact (entered entry new).2.2 ends
  · refine List.pairwise_append.mpr ⟨booked.final, ?_, ?_⟩
    · cases handover with
      | nothing => exact .nil
      | subscribe | unsubscribe => exact List.pairwise_singleton _ _
    · intro earlier old later new ends
      exact handover.apart (booked.gone earlier old ends) (still earlier old ends) later new

theorem run_booked (url : Text) (events : List Event) : ((fresh url).run events).Booked := by
  refine (run_induction (motive := fun client => client.Tidy ∧ client.Booked) ?_ ⟨fresh_tidy url, ?_⟩ events).2
  · exact fun client event kept => ⟨step_tidy event kept.1, kept.2.step kept.1 event⟩
  · exact ⟨nofun, nofun, .nil⟩

end Client
end Pubsub
