import Mathlib.Data.Finset.Basic
import Mathlib.Data.List.TakeWhile
import Pubsub.Proofs.Link
import Pubsub.Proofs.Loss
import Pubsub.Proofs.Requests

/-! What the server knows of the registry. It serves the names that it was asked for on the current socket. Between a
client and its server every registered channel is either served, or left for a call that requests channels in turn;
and all that is served is registered. -/

namespace Pubsub

/-- What a request does to the names that its peer serves. -/
def Request.serve (names : Finset Text) : Request → Finset Text
  | .subscribe name _ => insert name names
  | .unsubscribe name => names.erase name

/-- The channels that a call will come to after the one whose request is being sent. -/
def Stage.rest : Stage → List ChannelId
  | .resubscribing _ rest _ => rest
  | _ => []

namespace Client

/-- The names that the peer of a socket serves, after all requests that were handed over to it. -/
def servedBy (client : Client) (socket : SocketId) : Finset Text :=
  ((client.handed.filter (·.1 = some socket)).map (·.2)).foldl Request.serve ∅

def Online (client : Client) (socket : SocketId) : Prop :=
  client.connection.established = true ∧ client.connection.socket = some socket

def quitting (client : Client) : Bool := client.calls.any (·.2.stage.givesUp)

/-- A call that requests channels in turn will come to a channel. -/
def Queued (client : Client) (id : ChannelId) : Prop := ∃ entry ∈ client.calls, id ∈ entry.2.stage.rest

/-- A channel is served by the peer of a socket, and knows that it was requested. -/
def Served (client : Client) (socket : SocketId) (id : ChannelId) : Prop :=
  client.nameOf id ∈ client.servedBy socket ∧
    (client.phase? id = some .requested ∨ client.phase? id = some .subscribed)

/-- The peer of a socket serves registered names only, and all of them but those of some channels left to request. -/
structure Agrees (client : Client) (socket : SocketId) (left : List ChannelId) : Prop where
  names : ∀ name ∈ client.servedBy socket, ∃ id ∈ client.registered, client.nameOf id = name
  channels : ∀ id ∈ client.registered, id ∈ left ∨ client.Queued id ∨ client.Served socket id

/-- A client whose connection is established agrees with its peer; one whose connection is lost waits for no answer. -/
structure InStep (client : Client) (left : List ChannelId) : Prop where
  attached : client.transport = .connection
  registry : client.Registry
  live : ∀ id ∈ client.registered, client.phase? id ≠ some .ended
  agrees : ∀ socket, client.Online socket → client.Agrees socket left
  silent : client.isConnected = false → client.quitting = false →
    ∀ id ∈ client.registered, client.phase? id ≠ some .requested

theorem isConnected_iff {client : Client} : client.isConnected = true ↔ ∃ socket, client.Online socket := by
  simp [isConnected, Online, Option.isSome_iff_exists]

private theorem target_of_online {client : Client} (attached : client.transport = .connection) {socket : SocketId}
    (online : client.Online socket) : client.target = .ok (some socket) := by
  have connected : client.isConnected = true := isConnected_iff.mpr ⟨socket, online⟩
  simp only [target, attached, if_pos connected, online.2]

theorem online_of_target {client : Client} (attached : client.transport = .connection) {socket : Option SocketId}
    (target : client.target = .ok socket) : ∃ current, socket = some current ∧ client.Online current := by
  simp only [Client.target, attached] at target
  split at target
  next connected =>
    obtain ⟨current, online⟩ := isConnected_iff.mp connected
    cases target
    exact ⟨current, online.2, online⟩
  · contradiction

private theorem offline_of_target {client : Client} (attached : client.transport = .connection) {error : Error}
    (target : client.target = .error error) (socket : SocketId) : ¬client.Online socket := by
  intro online
  rw [target_of_online attached online] at target
  contradiction

theorem servedBy_of_handed {before after : Client} (handed : after.handed = before.handed) :
    after.servedBy = before.servedBy := by
  funext socket
  rw [servedBy, servedBy, handed]

private theorem servedBy_append {before after : Client} {socket : SocketId} {request : Request}
    (handed : after.handed = before.handed ++ [(some socket, request)]) :
    after.servedBy socket = request.serve (before.servedBy socket) := by
  simp [servedBy, handed]

theorem quitting_of_calls {before after : Client} {more : List (CallId × Call)} (calls : after.calls = before.calls ++ more)
    (aside : ∀ entry ∈ more, entry.2.stage.givesUp = false) : after.quitting = before.quitting := by
  have none : more.any (·.2.stage.givesUp) = false := List.any_eq_false.mpr fun entry member => by simp [aside entry member]
  rw [quitting, quitting, calls, List.any_append, none, Bool.or_false]

/-- The registry is the same, and channels are in the phases that they were in, or subscribed. -/
structure Stays (before after : Client) : Prop where
  transport : after.transport = before.transport
  names : before.names <+: after.names
  registered : after.registered = before.registered
  phases : ∀ id ∈ before.registered, after.phase? id = before.phase? id ∨ after.phase? id = some .subscribed

structure Beside (before after : Client) : Prop extends Stays before after where
  handed : after.handed = before.handed
  established : after.connection.established = before.connection.established
  socket : after.connection.socket = before.connection.socket
  queued : ∀ id, before.Queued id → after.Queued id
  quitting : after.quitting = before.quitting

structure Lost (before after : Client) : Prop where
  transport : after.transport = before.transport
  names : before.names <+: after.names
  registered : after.registered = before.registered
  initial : ∀ id ∈ before.registered, after.phase? id = some .initial
  down : after.connection.established = false

section
variable {before after : Client}

theorem Stays.of_same (transport : after.transport = before.transport) (channels : after.channels = before.channels)
    (registered : after.registered = before.registered) : Stays before after := by
  refine ⟨transport, ?_, registered, fun id _ => .inl ?_⟩
  · rw [Client.names, Client.names, channels]
  · rw [phase?, phase?, channels]

theorem Stays.registry (stays : Stays before after) (registry : before.Registry) : after.Registry :=
  registry.of_sublist stays.names (stays.registered ▸ .refl _)

theorem Stays.nameOf (stays : Stays before after) (registry : before.Registry) {id : ChannelId}
    (member : id ∈ before.registered) : after.nameOf id = before.nameOf id :=
  nameOf_of_names stays.names (registry.known id member)

theorem Stays.live (stays : Stays before after) (live : ∀ id ∈ before.registered, before.phase? id ≠ some .ended) :
    ∀ id ∈ after.registered, after.phase? id ≠ some .ended := by
  intro id member ended
  rw [stays.registered] at member
  rcases stays.phases id member with same | subscribed
  · exact live id member (same ▸ ended)
  · rw [subscribed] at ended
    contradiction

theorem Beside.online (beside : Beside before after) {socket : SocketId} : after.Online socket ↔ before.Online socket := by
  rw [Online, Online, beside.established, beside.socket]

theorem Beside.isConnected (beside : Beside before after) : after.isConnected = before.isConnected := by
  rw [Client.isConnected, Client.isConnected, beside.established, beside.socket]

variable {left : List ChannelId}

theorem InStep.beside (inStep : before.InStep left) (beside : Beside before after) : after.InStep left where
  attached := beside.transport.trans inStep.attached
  registry := beside.registry inStep.registry
  live := beside.live inStep.live
  agrees := by
    intro socket online
    have agrees := inStep.agrees socket (beside.online.mp online)
    have served := congrFun (servedBy_of_handed beside.handed) socket
    refine ⟨?_, ?_⟩
    · intro name given
      obtain ⟨id, member, named⟩ := agrees.names name (served ▸ given)
      exact ⟨id, beside.registered ▸ member, (beside.nameOf inStep.registry member).trans named⟩
    · intro id member
      rw [beside.registered] at member
      refine (agrees.channels id member).imp_right ?_
      rintro (queued | ⟨named, phase⟩)
      · exact .inl (beside.queued id queued)
      · refine .inr ⟨?_, ?_⟩
        · rwa [beside.nameOf inStep.registry member, served]
        · rcases beside.phases id member with same | subscribed
          · rwa [same]
          · exact .inr subscribed
  silent := by
    intro down stays id member requested
    rw [beside.isConnected] at down
    rw [beside.quitting] at stays
    rw [beside.registered] at member
    rcases beside.phases id member with same | subscribed
    · exact inStep.silent down stays id member (same ▸ requested)
    · rw [subscribed] at requested
      contradiction

/-- While the connection is being given up, nothing is asked of its channels but that none has ended. -/
theorem InStep.quits (inStep : before.InStep left) (stays : Stays before after)
    (down : after.connection.established = false) (quits : after.quitting = true) (rest : List ChannelId) :
    after.InStep rest where
  attached := stays.transport.trans inStep.attached
  registry := stays.registry inStep.registry
  live := stays.live inStep.live
  agrees := by
    intro socket online
    rw [online.1] at down
    contradiction
  silent := by
    intro _ kept
    rw [quits] at kept
    contradiction

/-- While the connection is not established, only channels matter. -/
theorem InStep.offline (inStep : before.InStep left) (stays : Stays before after)
    (was : before.connection.established = false) (down : after.connection.established = false)
    (quitting : after.quitting = before.quitting) (rest : List ChannelId) : after.InStep rest where
  attached := stays.transport.trans inStep.attached
  registry := stays.registry inStep.registry
  live := stays.live inStep.live
  agrees := by
    intro socket online
    rw [online.1] at down
    contradiction
  silent := by
    intro _ kept id member requested
    have before : before.isConnected = false := by rw [isConnected, was, Bool.false_and]
    rw [stays.registered] at member
    rcases stays.phases id member with same | subscribed
    · exact inStep.silent before (quitting ▸ kept) id member (same ▸ requested)
    · rw [subscribed] at requested
      contradiction

theorem InStep.cleared {client : Client} (attached : client.transport = .connection) (none : client.registered = [])
    (down : client.connection.established = false) (rest : List ChannelId) : client.InStep rest := by
  have nobody (id : ChannelId) : id ∉ client.registered := none ▸ List.not_mem_nil
  refine ⟨attached, ⟨fun id member => absurd member (nobody id), ?_⟩, fun id member => absurd member (nobody id), ?_,
    fun _ _ id member => absurd member (nobody id)⟩
  · rw [none]
    exact List.nodup_nil
  · intro socket online
    rw [online.1] at down
    contradiction

theorem InStep.lost (inStep : before.InStep left) (lost : Lost before after) (rest : List ChannelId) :
    after.InStep rest := by
  have phases (id : ChannelId) (member : id ∈ after.registered) {phase : Phase} (other : phase ≠ .initial) :
      after.phase? id ≠ some phase := by
    rw [lost.initial id (lost.registered ▸ member)]
    exact fun same => other (Option.some.inj same).symm
  refine ⟨lost.transport.trans inStep.attached, inStep.registry.of_sublist lost.names (lost.registered ▸ .refl _), ?_, ?_, ?_⟩
  · exact fun id member => phases id member (by decide)
  · intro socket online
    exact absurd online.1 (by rw [lost.down]; decide)
  · exact fun _ _ id member => phases id member (by decide)

end

section
variable {client : Client} {left : List ChannelId}

private theorem isLive_iff {id : ChannelId} : client.isLive id = true ↔ client.phase? id ≠ some .ended := by
  unfold isLive phase?
  cases client.channels[id]? <;> simp

/-- A reader that ends while the connection is kept loses it for all channels, as none of them has ended. -/
theorem InStep.ends (inStep : client.InStep left) (kept : client.connection.closing = false) (reader : ReaderId)
    (outcome : Outcome) : Lost client (client.finish reader outcome) := by
  have live : client.lost.registered.takeWhile client.lost.isLive = client.registered :=
    List.takeWhile_eq_self_iff.mpr fun id member => isLive_iff.mpr (inStep.live id member)
  have resets := (suspendAll_resets client.lost).1
  rw [live] at resets
  have names : client.lost.suspendAll.1.names = client.names := resets.names
  have initial (id : ChannelId) (member : id ∈ client.registered) : client.lost.suspendAll.1.phase? id = some .initial := by
    obtain ⟨channel, found, _⟩ := inStep.registry.found member
    have before : client.lost.phase? id = some channel.phase := phase?_of_found found
    rw [resets.phase?, if_pos member, before, Option.map_some]
  have finished : client.finish reader outcome =
      client.lost.suspendAll.1.setReading reader (.finished (outcome.unless client.lost.suspendAll.2)) := by
    have still : client.lost.connection.closing = false := kept
    simp [finish, still]
  obtain ⟨channels, records, same⟩ := resets.rest
  rw [finished]
  rw [same] at names initial ⊢
  exact ⟨rfl, names ▸ List.prefix_rfl, rfl, initial, rfl⟩

private theorem asking_names (client : Client) (task : Task) (stage : Stage) (id : ChannelId) (channel : Channel)
    (socket : Option SocketId) : (client.asking task stage id channel socket).names = client.names :=
  moveTo_names client id .requested

private theorem asking_phase?_of_ne (client : Client) (task : Task) (stage : Stage) {id other : ChannelId}
    (channel : Channel)
    (socket : Option SocketId) (apart : other ≠ id) :
    (client.asking task stage id channel socket).phase? other = client.phase? other :=
  moveTo_phase?_of_ne client .requested apart

theorem Queued.more {before after : Client} (calls : before.calls <+: after.calls) {id : ChannelId}
    (queued : before.Queued id) : after.Queued id := by
  obtain ⟨entry, member, waits⟩ := queued
  exact ⟨entry, calls.subset member, waits⟩

theorem Agrees.ask {after : Client} {current : SocketId} {id : ChannelId} (agrees : client.Agrees current (id :: left))
    {channel : Channel} (found : client.channels[id]? = some channel) (member : id ∈ client.registered)
    (registered : after.registered = client.registered) (names : after.names = client.names)
    (handed : after.handed = client.handed ++ [(some current, channel.request)])
    (queued : ∀ other, client.Queued other → after.Queued other) (requested : after.phase? id = some .requested)
    (others : ∀ other, other ≠ id → after.phase? other = client.phase? other) : after.Agrees current left := by
  have named (other : ChannelId) : after.nameOf other = client.nameOf other := by rw [nameOf_eq, nameOf_eq, names]
  have served := servedBy_append handed
  refine ⟨?_, ?_⟩
  · intro name given
    rw [served] at given
    rcases Finset.mem_insert.mp given with rfl | old
    · exact ⟨id, registered ▸ member, (named id).trans (nameOf_of_found found)⟩
    · obtain ⟨other, known, same⟩ := agrees.names name old
      exact ⟨other, registered ▸ known, (named other).trans same⟩
  · intro other known
    rw [registered] at known
    by_cases same : other = id
    · refine .inr (.inr ⟨?_, .inl (same ▸ requested)⟩)
      rw [same, named, nameOf_of_found found, served]
      exact Finset.mem_insert_self _ _
    · rcases agrees.channels other known with waits | waits | ⟨given, phase⟩
      · exact .inl ((List.mem_cons.mp waits).resolve_left same)
      · exact .inr (.inl (queued other waits))
      · refine .inr (.inr ⟨?_, by rwa [others other same]⟩)
        rw [named, served]
        exact Finset.mem_insert_of_mem given

/-- A channel that was left is requested. -/
theorem InStep.ask {id : ChannelId} (inStep : client.InStep (id :: left)) {channel : Channel}
    (found : client.channels[id]? = some channel) (member : id ∈ client.registered) {socket : Option SocketId}
    (target : client.target = .ok socket) (task : Task) (stage : Stage) :
    (client.asking task stage id channel socket).InStep left := by
  obtain ⟨current, rfl, online⟩ := online_of_target inStep.attached target
  have live : channel.phase ≠ .ended := by
    intro ended
    exact inStep.live id member (ended ▸ phase?_of_found found)
  have names := asking_names client task stage id channel (some current)
  have handed := asking_handed client task stage id channel (some current)
  have calls := (asking_calls client task stage id channel (some current)).1
  have requested := asking_phase? found live task stage (some current)
  have others (other : ChannelId) (apart : other ≠ id) :=
    asking_phase?_of_ne client task stage channel (some current) apart
  obtain ⟨transport, registered, connection⟩ := asking_rest client task stage id channel (some current)
  generalize client.asking task stage id channel (some current) = after at *
  have stillOnline : after.Online current := by rwa [Online, connection]
  refine ⟨transport.trans inStep.attached, inStep.registry.of_sublist (names ▸ List.prefix_rfl) (registered ▸ .refl _),
    ?_, ?_, ?_⟩
  · intro other known ended
    rw [registered] at known
    by_cases same : other = id
    · rw [same, requested] at ended
      contradiction
    · exact inStep.live other known ((others other same).symm.trans ended)
  · intro socket now
    obtain rfl : current = socket := Option.some.inj (stillOnline.2.symm.trans now.2)
    have queued (other : ChannelId) (waits : client.Queued other) : after.Queued other :=
      waits.more (calls ▸ List.prefix_append _ _)
    exact (inStep.agrees current online).ask found member registered names handed queued requested others
  · intro down
    have connected := isConnected_iff.mpr ⟨current, stillOnline⟩
    rw [connected] at down
    contradiction

/-- A channel that is not registered need not be requested. -/
theorem InStep.skip {id : ChannelId} (inStep : client.InStep (id :: left)) (gone : id ∉ client.registered) :
    client.InStep left := by
  refine { inStep with agrees := fun socket online => { inStep.agrees socket online with channels := ?_ } }
  intro other known
  refine ((inStep.agrees socket online).channels other known).imp_left ?_
  intro waits
  exact (List.mem_cons.mp waits).resolve_left fun same => gone (same ▸ known)

/-- Channels that a call will come to are not left. -/
theorem InStep.queue (inStep : client.InStep left) (queued : ∀ id ∈ left, client.Queued id) : client.InStep [] := by
  refine { inStep with agrees := fun socket online => { inStep.agrees socket online with channels := ?_ } }
  intro id known
  rcases (inStep.agrees socket online).channels id known with waits | settled
  · exact .inr (.inl (queued id waits))
  · exact .inr settled

/-- While frames cannot be sent, there is no telling what channels are left. -/
theorem InStep.unsent (inStep : client.InStep left) (offline : ∀ socket, ¬client.Online socket) (rest : List ChannelId) :
    client.InStep rest := { inStep with agrees := fun socket online => absurd online (offline socket) }

theorem Beside.log (client : Client) (source : Source) (level : Level) (message : Text) (details : Members) :
    Beside client (client.log source level message details) :=
  ⟨.of_same rfl rfl rfl, rfl, rfl, rfl, fun _ queued => queued, rfl⟩

theorem InStep.retract {id : ChannelId} (inStep : client.InStep left) {channel : Channel}
    (found : client.channels[id]? = some channel) (live : channel.phase ≠ .ended) {error : Error}
    (target : client.target = .error error) (rest : List ChannelId) :
    ((client.moveTo id .requested).1.rollBack id).InStep rest := by
  have names := (Proceeds.retract client found live).names
  have phases := retract_phase? found live
  have offline := offline_of_target inStep.attached target
  obtain ⟨channels, waiting, records, same⟩ := (Quiet.moveTo client id .requested).trans (.rollBack _ id)
  rw [same] at names phases ⊢
  refine ⟨inStep.attached, inStep.registry.of_sublist (names ▸ List.prefix_rfl) (.refl _), ?_,
    fun socket online => absurd online (offline socket), ?_⟩
  · intro other known ended
    rw [phases] at ended
    split at ended
    · contradiction
    · exact inStep.live other known ended
  · intro down stays other known requested
    rw [phases] at requested
    split at requested
    · contradiction
    · exact inStep.silent down stays other known requested

private theorem not_mem_of_ended {id : ChannelId} (inStep : client.InStep left)
    (ended : ∀ channel, client.channels[id]? = some channel → channel.phase = .ended) : id ∉ client.registered := by
  intro member
  obtain ⟨channel, found, _⟩ := inStep.registry.found member
  exact inStep.live id member (ended channel found ▸ phase?_of_found found)

private theorem not_mem_of_removed {id : ChannelId} (registry : client.Registry) {channel : Channel}
    (found : client.channels[id]? = some channel) (removed : client.lookup channel.name ≠ some id) :
    id ∉ client.registered := by
  intro member
  exact removed (registry.lookup_iff.mpr ⟨member, nameOf_of_found found⟩)

/-- Whatever comes of the request of a channel, the channel is not left any more. -/
theorem InStep.request {id : ChannelId} (inStep : client.InStep (id :: left)) (task : Task) (stage : Stage) :
    (client.requestChannel task id stage).1.InStep left := by
  apply requestChannel_cases (motive := fun result => result.1.InStep left)
  · exact fun ended => inStep.skip (not_mem_of_ended inStep ended)
  · intro channel found removed
    exact (inStep.skip (not_mem_of_removed inStep.registry found removed)).beside (.log client _ _ _ _)
  · exact fun channel socket found registered _ target => inStep.ask found (lookup_mem registered) target task stage
  · exact fun channel error found _ live target => inStep.retract found live target left

/-- Channels that are left are requested in turn. The call that is suspended has those that are left then. -/
theorem InStep.resubscribe {ids : List ChannelId} (inStep : client.InStep ids) (task : Task) (reader : Option ReaderId) :
    (resubscribe task reader ids client).1.InStep [] := by
  induction ids generalizing client with
  | nil =>
    unfold Client.resubscribe
    split
    · exact inStep
    · exact inStep.beside (.log client _ _ _ _)
  | cons id rest ih =>
    apply resubscribe_cases (motive := fun result => result.1.InStep [])
    · exact fun ended => ih (inStep.skip (not_mem_of_ended inStep ended))
    · intro channel found removed
      exact ih ((inStep.skip (not_mem_of_removed inStep.registry found removed)).beside (.log client _ _ _ _))
    · intro channel socket found registered live target
      have asked := inStep.ask found (lookup_mem registered) target task (.resubscribing id rest reader)
      have calls := (asking_calls client task (.resubscribing id rest reader) id channel socket).1
      refine asked.queue ?_
      intro other waits
      let last : CallId × Call := (client.nextCall, ⟨task, .resubscribing id rest reader⟩)
      exact ⟨last, calls ▸ List.mem_append_right _ (List.mem_singleton_self last), waits⟩
    · exact fun channel error found _ live target => inStep.retract found live target []

/-- A channel that is new is left to be requested. -/
theorem InStep.register (inStep : client.InStep left) {channel : Channel} (new : channel.phase = .initial)
    (unknown : client.lookup channel.name = none) :
    (client.register channel).InStep (client.channels.length :: left) := by
  have registry := inStep.registry.register unknown
  have registered : (client.register channel).registered = client.registered ++ [client.channels.length] := rfl
  have names : client.names <+: (client.register channel).names := by simp [Client.names, Client.register, Client.log]
  have named {id : ChannelId} (member : id ∈ client.registered) : (client.register channel).nameOf id = client.nameOf id :=
    nameOf_of_names names (inStep.registry.known id member)
  have old {id : ChannelId} (member : id ∈ client.registered) : (client.register channel).phase? id = client.phase? id := by
    have known := inStep.registry.known id member
    simp [phase?, Client.register, Client.log, List.getElem?_append_left known]
  have last : (client.register channel).phase? client.channels.length = some .initial := by
    simp [phase?, Client.register, Client.log, new]
  have phases {id : ChannelId} (member : id ∈ (client.register channel).registered) :
      (id ∈ client.registered ∧ (client.register channel).phase? id = client.phase? id) ∨
        (client.register channel).phase? id = some .initial := by
    rcases List.mem_append.mp (registered ▸ member) with known | newest
    · exact .inl ⟨known, old known⟩
    · exact .inr (List.mem_singleton.mp newest ▸ last)
  refine ⟨inStep.attached, registry, ?_, ?_, ?_⟩
  · intro id member ended
    rcases phases member with ⟨known, same⟩ | initial
    · exact inStep.live id known (same ▸ ended)
    · rw [initial] at ended
      contradiction
  · intro socket online
    have agrees := inStep.agrees socket online
    refine ⟨?_, ?_⟩
    · intro name given
      obtain ⟨id, member, same⟩ := agrees.names name given
      exact ⟨id, List.mem_append_left _ member, (named member).trans same⟩
    · intro id member
      rcases List.mem_append.mp (registered ▸ member) with known | newest
      · rcases agrees.channels id known with waits | queued | ⟨given, phase⟩
        · exact .inl (List.mem_cons_of_mem _ waits)
        · exact .inr (.inl queued)
        · exact .inr (.inr ⟨(named known).symm ▸ given, (old known).symm ▸ phase⟩)
      · exact .inl (List.mem_singleton.mp newest ▸ List.mem_cons_self)
  · intro down stays id member requested
    rcases phases member with ⟨known, same⟩ | initial
    · exact inStep.silent down stays id known (same ▸ requested)
    · rw [initial] at requested
      contradiction

theorem InStep.subscribe (inStep : client.InStep left) (task : Task) (name : Option Text) (listener : Option Listener)
    (events : List (Option Text)) : (client.subscribe task name listener events).1.InStep left := by
  cases made : client.newChannel name listener events with
  | error error => rwa [subscribe_of_refused task made]
  | ok channel =>
    obtain ⟨new, unknown⟩ := newChannel_new made
    have registered := inStep.register new unknown
    rw [subscribe_eq made]
    split
    · exact registered.request task _
    next unsendable =>
      refine registered.unsent ?_ left
      intro socket online
      have connected := isConnected_iff.mpr ⟨socket, online⟩
      exact unsendable (by simp only [canSend, registered.attached, connected])

structure Removes (id : ChannelId) (before after : Client) : Prop where
  transport : after.transport = before.transport
  names : after.names = before.names
  registered : after.registered = before.registered.erase id
  phases : ∀ other, other ≠ id → after.phase? other = before.phase? other
  connection : after.connection = before.connection
  calls : before.calls <+: after.calls
  quitting : after.quitting = before.quitting

theorem Removes.removing (client : Client) (id : ChannelId) : Removes id client (client.removing id) := by
  let left : Client := { client with registered := client.registered.erase id }
  have names : (client.removing id).names = left.names := moveTo_names left id .ended
  have phases (other : ChannelId) (apart : other ≠ id) : (client.removing id).phase? other = left.phase? other :=
    moveTo_phase?_of_ne left .ended apart
  have quiet : Quiet left (client.removing id) := (Quiet.moveTo left id .ended).trans (.log _ _ _ _ _)
  obtain ⟨_, _, _, same⟩ := quiet
  rw [same] at names phases ⊢
  exact ⟨rfl, names, rfl, phases, rfl, List.prefix_rfl, rfl⟩

theorem Removes.dismissing {id : ChannelId} {before after : Client} (removes : Removes id before after) (task : Task)
    (about : ChannelId) (name : Text) (socket : Option SocketId) :
    Removes id before (after.dismissing task about name socket) := by
  have calls : (after.dismissing task about name socket).calls = after.calls ++ [(after.nextCall, ⟨task, .unsubscribing⟩)] := rfl
  have quitting := quitting_of_calls calls fun entry member => List.mem_singleton.mp member ▸ rfl
  exact { removes with
    calls := removes.calls.trans (List.prefix_append _ _)
    quitting := quitting.trans removes.quitting }

/-- The channels that stay registered when one is removed. -/
theorem Removes.kept {id other : ChannelId} {before after : Client} (removes : Removes id before after)
    (registry : before.Registry) (member : other ∈ after.registered) : other ≠ id ∧ other ∈ before.registered :=
  registry.nodup.mem_erase_iff.mp (removes.registered ▸ member)

theorem InStep.remove (inStep : client.InStep left) {id : ChannelId} {after : Client} (removes : Removes id client after)
    (agrees : ∀ socket, client.Online socket → after.Agrees socket left) : after.InStep left := by
  refine ⟨removes.transport.trans inStep.attached, inStep.registry.of_sublist (removes.names ▸ List.prefix_rfl)
    (removes.registered ▸ List.erase_sublist), ?_, ?_, ?_⟩
  · intro other member ended
    obtain ⟨apart, known⟩ := removes.kept inStep.registry member
    exact inStep.live other known (removes.phases other apart ▸ ended)
  · intro socket online
    rw [Online, removes.connection] at online
    exact agrees socket online
  · intro down stays other member requested
    obtain ⟨apart, known⟩ := removes.kept inStep.registry member
    rw [Client.isConnected, removes.connection] at down
    exact inStep.silent down (removes.quitting ▸ stays) other known (removes.phases other apart ▸ requested)

/-- The peer that is told the end of a channel serves its name no more. -/
theorem Agrees.remove {socket : SocketId} (agrees : client.Agrees socket left) (registry : client.Registry) {id : ChannelId}
    (member : id ∈ client.registered) {after : Client} (removes : Removes id client after)
    (served : after.servedBy socket = (client.servedBy socket).erase (client.nameOf id)) : after.Agrees socket left := by
  have named (other : ChannelId) : after.nameOf other = client.nameOf other := by
    rw [nameOf_eq, nameOf_eq, removes.names]
  refine ⟨?_, ?_⟩
  · intro name given
    obtain ⟨apart, old⟩ := Finset.mem_erase.mp (served ▸ given)
    obtain ⟨other, known, rfl⟩ := agrees.names name old
    have distinct : other ≠ id := fun same => apart (same ▸ rfl)
    exact ⟨other, removes.registered ▸ (List.mem_erase_of_ne distinct).mpr known, named other⟩
  · intro other kept
    obtain ⟨apart, known⟩ := removes.kept registry kept
    have distinct : client.nameOf other ≠ client.nameOf id :=
      fun same => apart (List.inj_on_of_nodup_map registry.distinct known member same)
    refine (agrees.channels other known).imp_right (Or.imp (·.more removes.calls) ?_)
    rintro ⟨given, phase⟩
    refine ⟨?_, (removes.phases other apart).symm ▸ phase⟩
    rw [named, served]
    exact Finset.mem_erase.mpr ⟨distinct, given⟩

theorem InStep.unsubscribe (inStep : client.InStep left) (task : Task) (name : Option Text) :
    (client.unsubscribe task name).1.InStep left := by
  apply unsubscribe_cases (motive := fun result => result.1.InStep left)
  · exact fun _ => inStep
  · intro id _ unsendable
    have removes := Removes.removing client id
    refine inStep.remove removes ?_
    intro socket online
    have connected := isConnected_iff.mpr ⟨socket, online⟩
    rw [Client.isConnected, ← removes.connection] at connected
    simp [canSend, removes.transport.trans inStep.attached, Client.isConnected, connected] at unsendable
  · intro id handed given target
    obtain ⟨name, _, found⟩ := Option.bind_eq_some_iff.mp given
    have removed := Removes.removing client id
    have removes := removed.dismissing task id (client.nameOf id) handed
    refine inStep.remove removes ?_
    intro socket online
    obtain ⟨current, rfl, reached⟩ := online_of_target (removed.transport.trans inStep.attached) target
    rw [Online, removed.connection] at reached
    obtain rfl : current = socket := Option.some.inj (reached.2.symm.trans online.2)
    have told := dismissing_handed (client.removing id) task id (client.nameOf id) (some current)
    rw [removing_handed] at told
    exact (inStep.agrees current online).remove inStep.registry (lookup_mem found) removes (servedBy_append told)

private theorem drop_quitting (ordered : client.Ordered) {call : CallId} {held : Call}
    (found : client.call? call = some held)
    (aside : held.stage.givesUp = false) : (client.drop call).quitting = client.quitting := by
  have kept (entry : CallId × Call) (member : entry ∈ client.calls) (quits : entry.2.stage.givesUp = true) :
      entry.1 ≠ call := by
    intro same
    rw [ordered.unique member (call?_mem found) same, aside] at quits
    contradiction
  rw [Bool.eq_iff_iff, quitting, quitting, List.any_eq_true, List.any_eq_true]
  constructor
  · rintro ⟨entry, member, quits⟩
    exact ⟨entry, List.mem_of_mem_filter member, quits⟩
  · rintro ⟨entry, member, quits⟩
    exact ⟨entry, List.mem_filter.mpr ⟨member, bne_iff_ne.mpr (kept entry member quits)⟩, quits⟩

/-- The channels that a call would have come to are left when it goes on. -/
theorem InStep.drop (inStep : client.InStep []) (ordered : client.Ordered) {call : CallId} {held : Call}
    (found : client.call? call = some held) (aside : held.stage.givesUp = false) :
    (client.drop call).InStep held.stage.rest := by
  have quitting := drop_quitting ordered found aside
  refine ⟨inStep.attached, ⟨inStep.registry.known, inStep.registry.distinct⟩, inStep.live,
    fun socket online => ⟨(inStep.agrees socket online).names, ?_⟩, ?_⟩
  · intro id known
    rcases (inStep.agrees socket online).channels id known with waits | ⟨entry, member, waits⟩ | served
    · contradiction
    · by_cases same : entry.1 = call
      · obtain rfl := ordered.unique member (call?_mem found) same
        exact .inl waits
      · exact .inr (.inl ⟨entry, List.mem_filter.mpr ⟨member, bne_iff_ne.mpr same⟩, waits⟩)
    · exact .inr (.inr served)
  · exact fun down stays => inStep.silent down (quitting ▸ stays)

end

end Client
end Pubsub
