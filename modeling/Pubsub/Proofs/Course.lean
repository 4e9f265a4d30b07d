import Pubsub.Proofs.Bystanders
import Pubsub.Proofs.Effect
import Pubsub.Proofs.Registry

/-! The course of an event. It begins with what happens to one channel, or to a call that goes on or is
abandoned; from there it is made of edits. So the registry stays one of distinct names, calls keep the order of
their numbers, and a channel comes to the requested phase only with a call that waits for its request. -/

namespace Pubsub

/-- A call requests none of its channels twice, and no reader waits for it but the one that runs it. -/
def Call.Proper : Call → Prop
  | ⟨task, .resubscribing id rest reader⟩ => (id :: rest).Nodup ∧ ∀ waiting, reader = some waiting → task = .reader waiting
  | _ => True

private theorem Call.proper_of_aside {task : Task} {stage : Stage} (aside : stage.channel? = none) :
    Call.Proper ⟨task, stage⟩ := by
  cases stage with
  | resubscribing => contradiction
  | _ => exact trivial

private theorem Call.proper_of_nodup {ids : List ChannelId} (nodup : ids.Nodup) {task : Task} {reader : Option ReaderId}
    (own : ∀ waiting, reader = some waiting → task = .reader waiting) (id : ChannelId) (rest : List ChannelId)
    (suffix : id :: rest <:+ ids) : Call.Proper ⟨task, .resubscribing id rest reader⟩ :=
  ⟨nodup.sublist suffix.sublist, own⟩

namespace Client

def Asking (client : Client) (since : CallId) (id : ChannelId) : Prop :=
  ∃ entry ∈ client.calls, since ≤ entry.1 ∧ entry.2.stage.channel? = some id

def Ordered (client : Client) : Prop := (client.calls.map (·.1) ++ [client.nextCall]).Pairwise (· < ·)

/-- Each socket has a reader of its number. -/
def Paired (client : Client) : Prop := client.sockets.length = client.readers.length

structure Tidy (client : Client) : Prop where
  registry : client.Registry
  ordered : client.Ordered
  proper : ∀ entry ∈ client.calls, entry.2.Proper
  paired : client.Paired

theorem initial_tidy (url : Text) (transport : Transport) : (initial url transport).Tidy :=
  ⟨⟨nofun, List.nodup_nil⟩, List.pairwise_singleton _ _, nofun, rfl⟩

theorem fresh_tidy (url : Text) : (fresh url).Tidy := initial_tidy url .connection

theorem call?_mem {client : Client} {call : CallId} {found : Call} (held : client.call? call = some found) :
    (call, found) ∈ client.calls := by
  obtain ⟨entry, first, rfl⟩ := Option.map_eq_some_iff.mp held
  have same : entry.1 = call := by simpa using List.find?_some first
  exact same ▸ List.mem_of_find?_eq_some first

theorem Ordered.numbered {client : Client} (ordered : client.Ordered) : client.Numbered := fun _ member =>
  (List.pairwise_append.mp ordered).2.2 _ (List.mem_map_of_mem member) _ (List.mem_singleton_self _)

theorem Ordered.suspend {client : Client} (ordered : client.Ordered) (task : Task) (stage : Stage) :
    (client.suspend task stage).1.Ordered := by
  have before := ordered.numbered
  simp only [Ordered, Client.suspend, List.map_append, List.map_singleton, List.append_assoc, List.singleton_append]
  refine List.pairwise_append.mpr ⟨(List.pairwise_append.mp ordered).1, ?_, ?_⟩
  · simp
  · intro number given next
    obtain ⟨entry, member, rfl⟩ := List.mem_map.mp given
    have earlier := before entry member
    simp only [List.mem_cons, List.not_mem_nil, or_false]
    rintro (rfl | rfl)
    · exact earlier
    · exact Nat.lt_succ_of_lt earlier

/-- One number, one call. -/
theorem Ordered.unique {client : Client} (ordered : client.Ordered) {first second : CallId × Call}
    (one : first ∈ client.calls) (other : second ∈ client.calls) (same : first.1 = second.1) : first = second := by
  have distinct : (client.calls.map (·.1)).Nodup :=
    ((List.pairwise_append.mp ordered).1).imp (fun {_ _} less => Nat.ne_of_lt less)
  exact List.inj_on_of_nodup_map distinct one other same

theorem Ordered.call?_of_mem {client : Client} (ordered : client.Ordered) {call : CallId} {held : Call}
    (member : (call, held) ∈ client.calls) : client.call? call = some held := by
  cases found : client.call? call with
  | none => simpa using List.find?_eq_none.mp (Option.map_eq_none_iff.mp found) _ member
  | some other => rw [(Prod.mk.inj (ordered.unique (call?_mem found) member rfl)).2]

structure Proceeds (before after : Client) : Prop where
  names : after.names = before.names
  registered : after.registered.Sublist before.registered
  calls : before.calls <+: after.calls
  next : before.nextCall ≤ after.nextCall
  late : ∀ entry ∈ after.calls, entry ∈ before.calls ∨ before.nextCall ≤ entry.1
  sockets : before.sockets.length ≤ after.sockets.length
  requested : ∀ id, after.phase? id = some .requested →
    before.phase? id = some .requested ∨ after.Asking before.nextCall id
  kept : ∀ id ∈ before.registered, id ∈ after.registered ∨ after.Over id
  freezes : Freezes before after

namespace Proceeds

/-- Where all that is changed has nothing to do with channels or calls. -/
theorem apart {before after : Client} (channels : after.channels = before.channels)
    (registered : after.registered = before.registered) (calls : after.calls = before.calls)
    (next : after.nextCall = before.nextCall) (sockets : before.sockets.length ≤ after.sockets.length) :
    Proceeds before after where
  names := by rw [Client.names, channels, Client.names]
  registered := registered ▸ .refl _
  calls := calls ▸ List.prefix_rfl
  next := Nat.le_of_eq next.symm
  late := fun _ member => .inl (calls ▸ member)
  sockets := sockets
  requested := fun id requested => .inl (by rwa [phase?, channels] at requested)
  kept := fun _ member => .inl (registered ▸ member)
  freezes := fun _ _ found _ => channels ▸ found

theorem refl (client : Client) : Proceeds client client := apart rfl rfl rfl rfl (Nat.le_refl _)

theorem trans {first middle last : Client} (a : Proceeds first middle) (b : Proceeds middle last) :
    Proceeds first last where
  names := b.names.trans a.names
  registered := b.registered.trans a.registered
  calls := a.calls.trans b.calls
  next := Nat.le_trans a.next b.next
  late := fun entry member =>
    (b.late entry member).elim (a.late entry) fun late => .inr (Nat.le_trans a.next late)
  sockets := Nat.le_trans a.sockets b.sockets
  requested := by
    intro id requested
    rcases b.requested id requested with earlier | ⟨entry, member, late, about⟩
    · rcases a.requested id earlier with first | ⟨entry, member, late, about⟩
      · exact .inl first
      · exact .inr ⟨entry, b.calls.subset member, late, about⟩
    · exact .inr ⟨entry, member, Nat.le_trans a.next late, about⟩
  kept := fun id member => (a.kept id member).elim (b.kept id) fun isOver => .inr (b.freezes.isOver b.names isOver)
  freezes := a.freezes.trans b.freezes

variable (client : Client)

theorem moveTo (id : ChannelId) {phase : Phase} (other : phase ≠ .requested) :
    Proceeds client (client.moveTo id phase).1 := by
  have requested (channel : ChannelId) (now : (client.moveTo id phase).1.phase? channel = some .requested) :
      client.phase? channel = some .requested := by
    rcases moveTo_phase?_cases client id channel phase with same | ⟨_, moved⟩
    · exact same ▸ now
    · exact absurd (Option.some.inj (moved.symm.trans now)) other
  have names := moveTo_names client id phase
  have freezes := Freezes.moveTo client id phase
  obtain ⟨channels, waiting, records, same⟩ := Quiet.moveTo client id phase
  rw [same] at requested names freezes ⊢
  exact ⟨names, .refl _, List.prefix_rfl, Nat.le_refl _, fun _ => .inl, Nat.le_refl _,
    fun channel now => .inl (requested channel now), fun _ member => .inl member, freezes⟩

/-- A call is suspended under the next number. -/
theorem suspended_late {before after : Client} {call : Call} (calls : after.calls = before.calls ++ [(before.nextCall, call)]) :
    ∀ entry ∈ after.calls, entry ∈ before.calls ∨ before.nextCall ≤ entry.1 := by
  intro entry member
  refine (List.mem_append.mp (calls ▸ member)).imp_right fun last => ?_
  obtain rfl := List.mem_singleton.mp last
  exact Nat.le_refl _

theorem suspend (task : Task) (stage : Stage) : Proceeds client (client.suspend task stage).1 :=
  ⟨rfl, .refl _, List.prefix_append _ _, Nat.le_succ _, suspended_late rfl, Nat.le_refl _,
    fun _ requested => .inl requested, fun _ member => .inl member, fun _ _ found _ => found⟩

theorem asking {task : Task} {stage : Stage} {id : ChannelId} (channel : Channel) (socket : Option SocketId)
    (about : stage.channel? = some id) : Proceeds client (client.asking task stage id channel socket) := by
  have names := moveTo_names client id .requested
  have phases (other : ChannelId) := moveTo_phase?_cases client id other .requested
  have freezes := Freezes.moveTo client id .requested
  unfold Client.asking
  obtain ⟨channels, waiting, records, same⟩ := Quiet.moveTo client id .requested
  rw [same] at names phases freezes ⊢
  refine ⟨names, .refl _, List.prefix_append _ _, Nat.le_succ _, suspended_late rfl, Nat.le_refl _, ?_,
    fun _ member => .inl member, freezes⟩
  intro other requested
  rcases phases other with unchanged | ⟨rfl, _⟩
  · exact .inl (unchanged ▸ requested)
  · exact .inr ⟨(client.nextCall, ⟨task, stage⟩), List.mem_append_right _ (List.mem_singleton_self _), Nat.le_refl _, about⟩

/-- A request that is taken back at once leaves no trace. -/
theorem retract {id : ChannelId} {channel : Channel} (found : client.channels[id]? = some channel)
    (live : channel.phase ≠ .ended) : Proceeds client ((client.moveTo id .requested).1.rollBack id) := by
  let moved := (client.moveTo id .requested).1
  have requested : moved.phase? id = some .requested := moveTo_phase? found fun ended => absurd ended live
  have back : moved.rollBack id = (moved.moveTo id .initial).1 := by rw [rollBack_eq, if_pos requested]
  have first (other : ChannelId) := moveTo_phase?_cases client id other .requested
  have phases (other : ChannelId) (now : (moved.rollBack id).phase? other = some .requested) :
      client.phase? other = some .requested := by
    rw [back] at now
    rcases moveTo_phase?_cases moved id other .initial with same | ⟨_, reset⟩
    · rcases first other with unchanged | ⟨rfl, _⟩
      · exact unchanged ▸ same ▸ now
      · obtain ⟨state, here, phase⟩ := Option.map_eq_some_iff.mp requested
        have reset : (moved.moveTo other .initial).1.phase? other = some .initial :=
          moveTo_phase? here fun ended => absurd (phase ▸ ended) (by decide)
        rw [reset] at now
        contradiction
    · rw [reset] at now
      contradiction
  have names : (moved.rollBack id).names = client.names := by
    rw [back, moveTo_names, moveTo_names]
  have freezes : Freezes client (moved.rollBack id) := (Freezes.moveTo client id .requested).trans (.rollBack moved id)
  obtain ⟨channels, waiting, records, same⟩ := (Quiet.moveTo client id .requested).trans (Quiet.rollBack moved id)
  change (moved.rollBack id) = _ at same
  change Proceeds client (moved.rollBack id)
  rw [same] at phases names freezes ⊢
  exact ⟨names, .refl _, List.prefix_rfl, Nat.le_refl _, fun _ => .inl, Nat.le_refl _, fun other now => .inl (phases other now),
    fun _ member => .inl member, freezes⟩

end Proceeds

theorem Edit.proceeds {readers : ReaderId → Prop} {before after : Client} (edit : Edit readers before after) :
    Proceeds before after := by
  cases edit with
  | retract found registered live => exact .retract before found live
  | reset id => exact .moveTo before id (by decide)
  | finish id => exact .moveTo before id (by decide)
  | suspend task => exact .suspend before task _
  | @unregister gone isOver =>
    refine ⟨rfl, List.erase_sublist, List.prefix_rfl, Nat.le_refl _, fun _ => .inl, Nat.le_refl _,
      fun _ requested => .inl requested, ?_, fun _ _ found _ => found⟩
    intro id member
    by_cases same : id = gone
    · exact .inr (same ▸ isOver)
    · exact .inl ((List.mem_erase_of_ne same).mpr member)
  | clear isOver =>
    exact ⟨rfl, List.nil_sublist _, List.prefix_rfl, Nat.le_refl _, fun _ => .inl, Nat.le_refl _,
      fun _ requested => .inl requested, fun id member => .inr (isOver id member), fun _ _ found _ => found⟩
  | opened =>
    have more : before.sockets.length ≤ before.opened.sockets.length := by simp [Client.opened]
    exact .apart rfl rfl rfl rfl more
  | close socket => exact .apart rfl rfl rfl rfl (Nat.le_of_eq (List.length_modify _ _ _).symm)
  | stop =>
    unfold Client.cancel
    split <;> exact .apart rfl rfl rfl rfl (Nat.le_refl _)
  | _ => exact .apart rfl rfl rfl rfl (Nat.le_refl _)

inductive Suspends (before after : Client) : Prop where
  | nothing (calls : after.calls = before.calls) (next : after.nextCall = before.nextCall)
  | call {task : Task} {stage : Stage} (aside : stage.channel? = none)
      (calls : after.calls = before.calls ++ [(before.nextCall, ⟨task, stage⟩)])
      (next : after.nextCall = before.nextCall + 1)

private theorem Edit.suspends {readers : ReaderId → Prop} {before after : Client} (edit : Edit readers before after) :
    Suspends before after := by
  have quietly {after : Client} (quiet : Quiet before after) : Suspends before after := by
    obtain ⟨_, _, _, rfl⟩ := quiet
    exact .nothing rfl rfl
  cases edit with
  | retract => exact quietly ((Quiet.moveTo before _ .requested).trans (Quiet.rollBack _ _))
  | reset id => exact quietly (.moveTo before id .initial)
  | finish id => exact quietly (.moveTo before id .ended)
  | suspend task aside => exact .call aside rfl rfl
  | stop =>
    unfold Client.cancel
    split <;> exact .nothing rfl rfl
  | _ => exact .nothing rfl rfl

theorem Quiet.paired {before after : Client} (quiet : Quiet before after) (paired : before.Paired) : after.Paired := by
  obtain ⟨_, _, _, rfl⟩ := quiet
  exact paired

theorem Edit.paired {readers : ReaderId → Prop} {before after : Client} (edit : Edit readers before after)
    (paired : before.Paired) : after.Paired := by
  unfold Paired at paired
  cases edit with
  | retract => exact ((Quiet.moveTo before _ .requested).trans (Quiet.rollBack _ _)).paired paired
  | reset id => exact (Quiet.moveTo before id .initial).paired paired
  | finish id => exact (Quiet.moveTo before id .ended).paired paired
  | read => simpa [Paired, setReading] using paired
  | stop =>
    unfold Client.cancel
    split
    · exact paired
    · simpa [Paired] using paired
  | opened => simpa [Paired, Client.opened] using paired
  | close => simpa [Paired] using paired
  | _ => exact paired

theorem asking_calls (client : Client) (task : Task) (stage : Stage) (id : ChannelId) (channel : Channel)
    (socket : Option SocketId) :
    (client.asking task stage id channel socket).calls = client.calls ++ [(client.nextCall, ⟨task, stage⟩)] ∧
      (client.asking task stage id channel socket).nextCall = client.nextCall + 1 := by
  obtain ⟨_, _, _, same⟩ := Quiet.moveTo client id .requested
  simp only [asking, same]
  exact ⟨rfl, rfl⟩

theorem asking_rest (client : Client) (task : Task) (stage : Stage) (id : ChannelId) (channel : Channel)
    (socket : Option SocketId) :
    (client.asking task stage id channel socket).transport = client.transport ∧
      (client.asking task stage id channel socket).registered = client.registered ∧
      (client.asking task stage id channel socket).connection = client.connection := by
  obtain ⟨_, _, _, same⟩ := Quiet.moveTo client id .requested
  simp only [asking, same]
  exact ⟨rfl, rfl, rfl⟩

theorem asking_phase? {client : Client} {id : ChannelId} {channel : Channel}
    (found : client.channels[id]? = some channel) (live : channel.phase ≠ .ended) (task : Task) (stage : Stage)
    (socket : Option SocketId) : (client.asking task stage id channel socket).phase? id = some .requested :=
  moveTo_phase? found fun ended => absurd ended live

theorem Handing.proceeds {calls : Call → Prop} {before after : Client} (handing : Handing calls before after) :
    Proceeds before after := by
  cases handing with
  | ask found registered live target own about => exact .asking before _ _ about
  | dismiss id name =>
    exact ⟨rfl, .refl _, List.prefix_append _ _, Nat.le_succ _, Proceeds.suspended_late rfl, Nat.le_refl _,
      fun _ requested => .inl requested, fun _ member => .inl member, fun _ _ found _ => found⟩

/-- The call that a request was handed over for is suspended last. -/
theorem Handing.call {calls : Call → Prop} {before after : Client} (handing : Handing calls before after) :
    ∃ call, calls call ∧ after.calls = before.calls ++ [(before.nextCall, call)] ∧
      after.nextCall = before.nextCall + 1 ∧
      ∀ id, call.stage.channel? = some id → after.phase? id = some .requested := by
  cases handing with
  | @ask id channel found registered live socket target task stage own about =>
    obtain ⟨suspended, next⟩ := asking_calls before task stage id channel socket
    refine ⟨_, own, suspended, next, ?_⟩
    intro other same
    obtain rfl := Option.some.inj (about.symm.trans same)
    exact asking_phase? found live task stage socket
  | dismiss _ _ _ own => exact ⟨_, own, rfl, rfl, nofun⟩

theorem Handing.paired {calls : Call → Prop} {before after : Client} (handing : Handing calls before after)
    (paired : before.Paired) : after.Paired := by
  cases handing with
  | @ask id =>
    have moved : (before.moveTo id .requested).1.Paired := (Quiet.moveTo before id .requested).paired paired
    exact moved
  | dismiss => exact paired

theorem Ordered.append {before after : Client} (ordered : before.Ordered) {call : Call}
    (calls : after.calls = before.calls ++ [(before.nextCall, call)]) (next : after.nextCall = before.nextCall + 1) :
    after.Ordered := by
  have suspended := ordered.suspend call.task call.stage
  rw [Ordered, calls, next]
  exact suspended

section
variable {readers : ReaderId → Prop} {before after : Client}

theorem Suspends.tidy (suspends : Suspends before after) (ordered : before.Ordered)
    (proper : ∀ entry ∈ before.calls, entry.2.Proper) : after.Ordered ∧ ∀ entry ∈ after.calls, entry.2.Proper := by
  cases suspends with
  | nothing calls next => exact ⟨by rwa [Ordered, calls, next], calls ▸ proper⟩
  | call aside calls next =>
    refine ⟨ordered.append calls next, ?_⟩
    intro entry member
    rcases List.mem_append.mp (calls ▸ member) with old | last
    · exact proper entry old
    · exact List.mem_singleton.mp last ▸ Call.proper_of_aside aside

theorem Handing.tidy {calls : Call → Prop} (handing : Handing calls before after)
    (own : ∀ call, calls call → call.Proper) (ordered : before.Ordered)
    (proper : ∀ entry ∈ before.calls, entry.2.Proper) : after.Ordered ∧ ∀ entry ∈ after.calls, entry.2.Proper := by
  obtain ⟨call, proposed, calls, next, _⟩ := handing.call
  refine ⟨ordered.append calls next, ?_⟩
  intro entry member
  rcases List.mem_append.mp (calls ▸ member) with old | last
  · exact proper entry old
  · exact List.mem_singleton.mp last ▸ own call proposed

/-- From a tidy client, an operation proceeds to a tidy client. -/
theorem Acts.tidy {calls : Call → Prop} (acts : Acts readers calls before after)
    (own : ∀ call, calls call → call.Proper) (tidy : before.Tidy) : after.Tidy ∧ Proceeds before after := by
  have proceeds : Proceeds before after :=
    acts.keep (.refl before) (fun _ _ edit proceeds => proceeds.trans edit.proceeds)
      fun _ _ handing proceeds => proceeds.trans handing.proceeds
  have registry : after.Registry :=
    tidy.registry.of_sublist (proceeds.names ▸ List.prefix_rfl) proceeds.registered
  have calls : after.Ordered ∧ ∀ entry ∈ after.calls, entry.2.Proper :=
    acts.keep (motive := fun client => client.Ordered ∧ ∀ entry ∈ client.calls, entry.2.Proper)
      ⟨tidy.ordered, tidy.proper⟩ (fun _ _ edit kept => edit.suspends.tidy kept.1 kept.2)
      fun _ _ handing kept => handing.tidy own kept.1 kept.2
  have paired : after.Paired :=
    acts.keep tidy.paired (fun _ _ edit kept => edit.paired kept) fun _ _ handing kept => handing.paired kept
  exact ⟨⟨registry, calls.1, calls.2, paired⟩, proceeds⟩

/-- Edits suspend no call for the request of a channel. -/
theorem Edits.asked (edits : Edits readers before after) :
    ∀ entry ∈ after.calls, ∀ id, entry.2.stage.channel? = some id → entry ∈ before.calls := by
  refine edits.keep (motive := fun client =>
    ∀ entry ∈ client.calls, ∀ id, entry.2.stage.channel? = some id → entry ∈ before.calls) ?_ ?_
  · exact fun entry member _ _ => member
  · intro middle next edit kept entry member id about
    cases edit.suspends with
    | nothing calls _ => exact kept entry (calls ▸ member) id about
    | call aside calls _ =>
      rcases List.mem_append.mp (calls ▸ member) with old | last
      · exact kept entry old id about
      · rw [List.mem_singleton.mp last, aside] at about
        contradiction

/-- A call for the request of a channel is suspended just after the channel came to the requested phase. -/
theorem Acts.asked {calls : Call → Prop} (acts : Acts readers calls before after) {entry : CallId × Call}
    (member : entry ∈ after.calls) {id : ChannelId} (about : entry.2.stage.channel? = some id) :
    entry ∈ before.calls ∨ after.phase? id = some .requested := by
  cases acts with
  | edits edits => exact .inl (edits.asked entry member id about)
  | hands edits handing =>
    obtain ⟨call, _, calls, _, requested⟩ := handing.call
    rcases List.mem_append.mp (calls ▸ member) with old | last
    · exact .inl (edits.asked entry old id about)
    · rw [List.mem_singleton.mp last] at about
      exact .inr (requested id about)

end

end Client

def Event.Owns (event : Event) (call : Call) : Prop :=
  call.Proper ∧ (call.stage = .unsubscribing → ∃ task name, event = .unsubscribe task name)

private theorem Channel.receive_ok {channel : Channel} {event : Text} {frame : Frame} {reaction : Reaction}
    (ok : channel.receive event frame = .ok reaction) :
    reaction.channel.name = channel.name ∧
      (reaction.channel.phase = channel.phase ∨ reaction.channel.phase = .subscribed ∧ channel.phase ≠ .ended) := by
  cases accepted : channel.accepted event frame with
  | none =>
    obtain ⟨error, refused⟩ | ⟨records, ignored⟩ := Channel.receive_of_refused accepted
    · rw [refused] at ok
      contradiction
    · rw [ignored] at ok
      cases ok
      exact ⟨rfl, .inl rfl⟩
  | some acceptance =>
    have live : channel.phase ≠ .ended := by
      intro ended
      rw [Channel.accepted, if_pos ended] at accepted
      contradiction
    obtain ⟨records, received⟩ := Channel.receive_of_accepted accepted
    rw [received] at ok
    cases ok
    cases acceptance with
    | success token => exact ⟨rfl, .inr ⟨rfl, live⟩⟩
    | announcement event envelope => exact ⟨rfl, .inl rfl⟩

namespace Client

structure Hears (before after : Client) : Prop where
  quiet : Quiet before after
  names : after.names = before.names
  phases : ∀ id, after.phase? id = before.phase? id ∨ after.phase? id = some .subscribed ∧ before.phase? id ≠ some .ended

namespace Hears

theorem refl (client : Client) : Hears client client := ⟨.refl client, rfl, fun _ => .inl rfl⟩

variable (client : Client)

theorem change (id : ChannelId) {update : Channel → Except Error Channel}
    (kept : ∀ channel changed, update channel = .ok changed → changed.name = channel.name ∧ changed.phase = channel.phase) :
    Hears client (client.change id update) := by
  refine ⟨.change client id update, ?_, ?_⟩
  · exact change_map client id update (·.name) fun channel changed updated => (kept channel changed updated).1
  · intro other
    have phases := change_map client id update (·.phase) fun channel changed updated => (kept channel changed updated).2
    refine .inl ?_
    rw [phase?, ← List.getElem?_map, phases, List.getElem?_map, phase?]

theorem receive (id : ChannelId) (event : Text) (frame : Frame) : Hears client (client.receive id event frame).1 := by
  have quiet := Quiet.receive client id event frame
  cases found : client.channels[id]? with
  | none =>
    simp only [Client.receive, found]
    exact refl client
  | some channel =>
    cases received : channel.receive event frame with
    | error error =>
      simp only [Client.receive, found, received]
      exact refl client
    | ok reaction =>
      obtain ⟨named, phased⟩ := Channel.receive_ok received
      obtain ⟨inside, _⟩ := List.getElem?_eq_some_iff.mp found
      have channels : (client.receive id event frame).1.channels = client.channels.set id reaction.channel := by
        simp only [Client.receive, found, received, react, setChannel, submit_fst]
      refine ⟨quiet, ?_, ?_⟩
      · rw [Client.names, channels, set_names found named]
      · intro other
        by_cases same : other = id
        · subst same
          rw [phase?, channels, List.getElem?_set_self inside, Option.map_some, phase?_of_found found]
          exact phased.imp (congrArg some) fun subscribed =>
            ⟨congrArg some subscribed.1, fun ended => subscribed.2 (Option.some.inj ended)⟩
        · exact .inl (by rw [phase?, channels, List.getElem?_set_ne (Ne.symm same), phase?])

theorem deliver (name event : Text) (frame : Frame) : Hears client (client.deliver name event frame).1 := by
  unfold Client.deliver
  split
  · exact ⟨.log client _ _ _ _, rfl, fun _ => .inl rfl⟩
  · exact receive client _ event frame

end Hears

end Client

def Event.heard : Event → Bool
  | .bind _ _ _ | .unbind _ _ _ | .setToken _ _ | .setLifecycle _ _ | .receive _ _ _ | .deliver _ _ _ => true
  | _ => false

namespace Client

theorem perform_hears (client : Client) {event : Event} (heard : event.heard = true) :
    Hears client (client.perform event) := by
  have changed {id : ChannelId} {update : Channel → Except Error Channel} (asked : event.update = some (id, update)) :
      Hears client (client.change id update) := by
    refine .change client id ?_
    intro channel changed updated
    obtain ⟨_, _, rfl⟩ | ⟨_, _, rfl⟩ | ⟨_, _, rfl⟩ | ⟨_, rfl⟩ := Event.update_ok asked updated <;> exact ⟨rfl, rfl⟩
  cases event with
  | bind => exact changed rfl
  | unbind => exact changed rfl
  | setToken => exact changed rfl
  | setLifecycle => exact changed rfl
  | receive id event frame => exact .receive client id event frame
  | deliver name event frame => exact .deliver client name event frame
  | _ => contradiction

def Registers (client : Client) (event : Event) (channel : Channel) : Prop :=
  ∃ task name listener events, event = .subscribe task name listener events ∧
    client.newChannel name listener events = .ok channel

/-- How an event begins: a channel may be made or registered, hear of something or be moved, and a call may be taken
up or abandoned. -/
structure Begins (client : Client) (event : Event) (start : Client) : Prop where
  names : client.names <+: start.names
  registered : start.registered = client.registered ∨ ∃ channel, Registers client event channel ∧ start = client.register channel
  calls : start.calls.Sublist client.calls
  next : start.nextCall = client.nextCall
  sent : start.sent = client.sent
  sockets : start.sockets.length = client.sockets.length
  readers : start.readers.length = client.readers.length
  requested : ∀ id, start.phase? id = some .requested →
    client.phase? id = some .requested ∨ event = .move id .requested
  freezes : event.update = none → Freezes client start

namespace Begins
variable {client : Client} {event : Event}

theorem refl (client : Client) (event : Event) : Begins client event client :=
  ⟨List.prefix_rfl, .inl rfl, .refl _, rfl, rfl, rfl, rfl, fun _ requested => .inl requested, fun _ _ _ found _ => found⟩

theorem hears {start : Client} (hears : Hears client start) (freezes : event.update = none → Freezes client start) :
    Begins client event start := by
  have requested (id : ChannelId) (now : start.phase? id = some .requested) : client.phase? id = some .requested := by
    rcases hears.phases id with same | ⟨subscribed, _⟩
    · exact same ▸ now
    · exact absurd (subscribed.symm.trans now) (by decide)
  have names := hears.names
  obtain ⟨_, _, _, rfl⟩ := hears.quiet
  exact ⟨names ▸ List.prefix_rfl, .inl rfl, .refl _, rfl, rfl, rfl, rfl, fun id now => .inl (requested id now), freezes⟩

/-- A new channel is in the initial phase. -/
theorem append {channel : Channel} (new : channel.phase = .initial) {start : Client}
    (channels : start.channels = client.channels ++ [channel])
    (registered : start.registered = client.registered ∨
      ∃ channel, Registers client event channel ∧ start = client.register channel)
    (calls : start.calls = client.calls) (next : start.nextCall = client.nextCall) (sent : start.sent = client.sent)
    (sockets : start.sockets = client.sockets) (readers : start.readers = client.readers) : Begins client event start := by
  have freezes : Freezes client start := by
    intro id old found _
    obtain ⟨inside, _⟩ := List.getElem?_eq_some_iff.mp found
    rw [channels, List.getElem?_append_left inside, found]
  refine ⟨by simp [Client.names, channels], registered, calls ▸ .refl _, next, sent, by rw [sockets], by rw [readers], ?_,
    fun _ => freezes⟩
  intro id requested
  rw [phase?, channels] at requested
  obtain ⟨found, here, phase⟩ := Option.map_eq_some_iff.mp requested
  by_cases old : id < client.channels.length
  · rw [List.getElem?_append_left old] at here
    exact .inl (by rw [phase?, here, Option.map_some, phase])
  · have last : found = channel := by
      rw [List.getElem?_append_right (Nat.le_of_not_lt old)] at here
      exact List.mem_singleton.mp (List.mem_of_getElem? here)
    rw [last, new] at phase
    contradiction

theorem moveTo (id : ChannelId) (phase : Phase) : Begins client (.move id phase) (client.moveTo id phase).1 := by
  have requested (other : ChannelId) (now : (client.moveTo id phase).1.phase? other = some .requested) :
      client.phase? other = some .requested ∨ Event.move id phase = .move other .requested := by
    rcases moveTo_phase?_cases client id other phase with same | ⟨rfl, moved⟩
    · exact .inl (same ▸ now)
    · exact .inr (by rw [Option.some.inj (moved.symm.trans now)])
  have names := moveTo_names client id phase
  have freezes := Freezes.moveTo client id phase
  obtain ⟨_, _, _, same⟩ := Quiet.moveTo client id phase
  rw [same] at requested names freezes ⊢
  exact ⟨names ▸ List.prefix_rfl, .inl rfl, .refl _, rfl, rfl, rfl, rfl, requested, fun _ => freezes⟩

end Begins

theorem newChannel_new {client : Client} {name : Option Text} {listener : Option Listener}
    {events : List (Option Text)} {channel : Channel} (made : client.newChannel name listener events = .ok channel) :
    channel.phase = .initial ∧ client.lookup channel.name = none := by
  obtain ⟨given, rfl, shape⟩ := newChannel_shape made
  have unknown : client.lookup given = none := by
    simp only [newChannel, Option.getD_some] at made
    split at made
    · contradiction
    · split at made
      · contradiction
      next free => simpa using free
  rw [shape]
  exact ⟨rfl, unknown⟩

/-- An event may leave a call that requests what is left of the registered channels, for a reader in its own task. -/
theorem Tidy.owns {client : Client} (tidy : client.Tidy) (event : Event) (task : Task) (reader : Option ReaderId)
    (own : ∀ waiting, reader = some waiting → task = .reader waiting) (id : ChannelId) (rest : List ChannelId)
    (suffix : id :: rest <:+ client.listing) : event.Owns ⟨task, .resubscribing id rest reader⟩ :=
  ⟨Call.proper_of_nodup tidy.registry.listing own id rest suffix, nofun⟩

/-- What a reader takes is counted and offered to a channel before anything else comes of it. -/
theorem turn_course {client : Client} (tidy : client.Tidy) {reader : ReaderId}
    (going : client.isCancelling (.reader reader) = false) :
    ∃ start, Begins client (.turn reader) start ∧
      Acts (fun _ => True) (Event.turn reader).Owns start (client.turn reader).1 := by
  cases next : client.next reader with
  | none => exact ⟨client, .refl client _, .edits (turn_of_nothing trivial next going)⟩
  | some arrival =>
    obtain ⟨socket, rest, _, _, turned⟩ := turn_of_next next
    rw [turned]
    have sockets : (client.leave socket rest).sockets.length = client.sockets.length := List.length_modify _ _ _
    have left : Begins client (.turn reader) (client.leave socket rest) :=
      ⟨List.prefix_rfl, .inl rfl, .refl _, rfl, rfl, sockets, rfl, fun _ requested => .inl requested,
        fun _ _ _ found _ => found⟩
    have counted : Begins client (.turn reader) (client.leave socket rest).counted :=
      ⟨List.prefix_rfl, .inl rfl, .refl _, rfl, rfl, sockets, rfl, fun _ requested => .inl requested,
        fun _ _ _ found _ => found⟩
    cases arrival with
    | ending ending => exact ⟨_, left, .edits (.ending _ trivial socket ending)⟩
    | frame frame =>
      cases addressed : (client.leave socket rest).addressed frame with
      | none =>
        have own : ∀ waiting, some reader = some waiting → Task.reader reader = .reader waiting :=
          fun _ same => congrArg Task.reader (Option.some.inj same)
        exact ⟨_, counted, handle_of_unaddressed trivial addressed socket (tidy.owns _ (.reader reader) (some reader) own)⟩
      | some offer =>
        have hears := Hears.receive (client.leave socket rest).counted offer.channel offer.event offer.frame
        have received : Begins _ (.turn reader) _ := .hears hears fun _ => .receive _ offer.channel offer.event offer.frame
        obtain ⟨_, _, _, same⟩ := hears.quiet
        have begins : Begins client (.turn reader) _ :=
          ⟨received.names, .inl (by rw [same]; rfl), received.calls, received.next, received.sent,
            received.sockets.trans sockets, received.readers, received.requested, received.freezes⟩
        exact ⟨_, begins, .edits (handle_of_addressed trivial addressed socket)⟩

private theorem perform_course {client : Client} (tidy : client.Tidy) {event : Event}
    (possible : client.possible event = true) :
    ∃ start, Begins client event start ∧ Acts (fun _ => True) event.Owns start (client.perform event) := by
  have atOnce {after : Client} (begins : Begins client event after) :
      ∃ start, Begins client event start ∧ Acts (fun _ => True) event.Owns start after := ⟨after, begins, .edits (.refl after)⟩
  have acting {after : Client} (acts : Acts (fun _ => True) event.Owns client after) :
      ∃ start, Begins client event start ∧ Acts (fun _ => True) event.Owns start after :=
    ⟨client, .refl client event, acts⟩
  have plainly {after : Client} (edits : Edits (fun _ => True) client after) := acting (.edits edits)
  cases event with
  | make name family =>
    simp only [perform]
    cases made : Channel.make name family with
    | error error => exact atOnce (.refl client _)
    | ok channel =>
      obtain ⟨given, _, rfl⟩ := Channel.make_shape made
      exact atOnce (.append rfl rfl (.inl rfl) rfl rfl rfl rfl rfl)
  | bind | unbind | setToken | setLifecycle => exact atOnce (.hears (perform_hears client rfl) fun silent => by cases silent)
  | receive id event frame =>
    exact atOnce (.hears (perform_hears client rfl) fun _ => .receive client id event frame)
  | deliver name event frame =>
    exact atOnce (.hears (perform_hears client rfl) fun _ => .deliver client name event frame)
  | move id phase => exact atOnce (.moveTo id phase)
  | subscribe task name listener events =>
    cases made : client.newChannel name listener events with
    | error error =>
      simp only [perform, subscribe_of_refused task made]
      exact atOnce (.refl client _)
    | ok channel =>
      have registers : Registers client (.subscribe task name listener events) channel := ⟨_, _, _, _, rfl, made⟩
      exact ⟨client.register channel, .append (newChannel_new made).1 rfl (.inr ⟨channel, registers, rfl⟩) rfl rfl rfl rfl rfl,
        (Goes.subscribe client made ⟨trivial, by simp⟩).acts⟩
  | unsubscribe task name => exact acting (Goes.unsubscribe client ⟨trivial, fun _ => ⟨task, name, rfl⟩⟩ name).acts
  | resubscribe task => exact acting (Goes.resubscribeAll client task none (tidy.owns _ task none (by simp))).acts
  | lose resumable =>
    cases resumable with
    | true => exact plainly (.suspendAll client)
    | false => exact plainly (.endAll client)
  | attach | callback | shutDown =>
    exact atOnce ⟨List.prefix_rfl, .inl rfl, .refl _, rfl, rfl, rfl, rfl, fun _ requested => .inl requested,
      fun _ _ _ found _ => found⟩
  | arrive | jam =>
    exact atOnce ⟨List.prefix_rfl, .inl rfl, .refl _, rfl, rfl, List.length_modify _ _ _, rfl,
      fun _ requested => .inl requested, fun _ _ _ found _ => found⟩
  | failure => exact plainly (.log client _ _ _ _)
  | connect task => exact plainly (.connect client task)
  | send task text => exact plainly (.message client task text)
  | disconnect task => exact plainly (.disconnect client (fun _ _ => trivial) task)
  | resume call outcome =>
    have begins : Begins client (.resume call outcome) (client.drop call) :=
      ⟨List.prefix_rfl, .inl rfl, List.filter_sublist, rfl, rfl, rfl, rfl, fun _ requested => .inl requested,
        fun _ _ _ found _ => found⟩
    refine ⟨client.drop call, begins, .resume client (present_of_possible possible) outcome (fun _ _ _ _ _ => trivial) ?_⟩
    intro task channel rest reader held id after suffix
    obtain ⟨nodup, own⟩ := tidy.proper _ (call?_mem held)
    exact ⟨Call.proper_of_nodup (List.nodup_cons.mp nodup).2 own id after suffix, by simp⟩
  | unwind reader =>
    have begins : Begins client (.unwind reader) (client.abandon reader) :=
      ⟨List.prefix_rfl, .inl rfl, List.filter_sublist, rfl, rfl, rfl, List.length_modify _ _ _,
        fun _ requested => .inl requested, fun _ _ _ found _ => found⟩
    exact ⟨client.abandon reader, begins, .edits (.unwind client trivial)⟩
  | turn reader => exact turn_course tidy (by simpa [Client.possible] using possible)

theorem step_course {client : Client} (tidy : client.Tidy) (event : Event) :
    ∃ start, Begins client event start ∧ Acts (fun _ => True) event.Owns start (client.step event) := by
  refine step_induction (motive := fun after =>
    ∃ start, Begins client event start ∧ Acts (fun _ => True) event.Owns start after) ?_ ?_
  · exact ⟨client, .refl client event, .edits (.refl client)⟩
  · exact perform_course tidy

theorem Begins.tidy {client start : Client} {event : Event} (begins : Begins client event start) (tidy : client.Tidy) :
    start.Tidy := by
  refine ⟨?_, ?_, fun entry member => tidy.proper entry (begins.calls.subset member), ?_⟩
  · rcases begins.registered with same | ⟨channel, ⟨_, _, _, _, _, made⟩, rfl⟩
    · exact tidy.registry.of_sublist begins.names (same ▸ .refl _)
    · exact tidy.registry.register (newChannel_new made).2
  · rw [Ordered, begins.next]
    exact tidy.ordered.sublist ((begins.calls.map _).append (.refl _))
  · exact begins.sockets.trans (tidy.paired.trans begins.readers.symm)

theorem step_proceeds {client : Client} (tidy : client.Tidy) (event : Event) :
    ∃ start, Begins client event start ∧ Proceeds start (client.step event) ∧ (client.step event).Tidy := by
  obtain ⟨start, begins, acts⟩ := step_course tidy event
  obtain ⟨later, proceeds⟩ := acts.tidy (fun _ owned => owned.1) (begins.tidy tidy)
  exact ⟨start, begins, proceeds, later⟩

theorem step_tidy {client : Client} (event : Event) (tidy : client.Tidy) : (client.step event).Tidy := by
  obtain ⟨_, _, _, later⟩ := step_proceeds tidy event
  exact later

theorem Tidy.run {client : Client} (tidy : client.Tidy) (events : List Event) : (client.run events).Tidy :=
  run_induction (fun _ event => step_tidy event) tidy events

theorem run_tidy (url : Text) (events : List Event) : ((fresh url).run events).Tidy := (fresh_tidy url).run events

theorem step_sockets {client : Client} (tidy : client.Tidy) (event : Event) :
    client.sockets.length ≤ (client.step event).sockets.length := by
  obtain ⟨start, begins, proceeds, _⟩ := step_proceeds tidy event
  exact begins.sockets ▸ proceeds.sockets

theorem step_names {client : Client} (tidy : client.Tidy) (event : Event) :
    client.names <+: (client.step event).names := by
  obtain ⟨start, begins, proceeds, _⟩ := step_proceeds tidy event
  exact proceeds.names ▸ begins.names

theorem step_nextCall {client : Client} (tidy : client.Tidy) (event : Event) :
    client.nextCall ≤ (client.step event).nextCall := by
  obtain ⟨start, begins, proceeds, _⟩ := step_proceeds tidy event
  exact begins.next ▸ proceeds.next

/-- A number that was given out is not given out again, so what is suspended under it has been all along. -/
theorem step_held {client : Client} (tidy : client.Tidy) {event : Event} {call : CallId} (early : call < client.nextCall)
    {held : Call} (now : (client.step event).call? call = some held) : client.call? call = some held := by
  obtain ⟨start, begins, proceeds, _⟩ := step_proceeds tidy event
  rcases proceeds.late _ (call?_mem now) with old | late
  · exact tidy.ordered.call?_of_mem (begins.calls.subset old)
  · rw [begins.next] at late
    exact absurd early (Nat.not_lt.mpr late)

/-- A channel comes to the requested phase by the application, or with a call that waits for its request. -/
theorem step_requested {client : Client} (tidy : client.Tidy) {event : Event} {id : ChannelId}
    (requested : (client.step event).phase? id = some .requested) :
    client.phase? id = some .requested ∨ event = .move id .requested ∨
      (client.step event).Asking client.nextCall id := by
  obtain ⟨start, begins, proceeds, _⟩ := step_proceeds tidy event
  rcases proceeds.requested id requested with before | asking
  · exact (begins.requested id before).imp_right .inl
  · exact .inr (.inr (begins.next ▸ asking))

theorem step_asked {client : Client} (tidy : client.Tidy) {event : Event} {entry : CallId × Call}
    (member : entry ∈ (client.step event).calls) {id : ChannelId} (about : entry.2.stage.channel? = some id) :
    entry ∈ client.calls ∨ (client.step event).phase? id = some .requested := by
  obtain ⟨start, begins, acts⟩ := step_course tidy event
  exact (acts.asked member about).imp_left (begins.calls.subset ·)

end Client
end Pubsub
