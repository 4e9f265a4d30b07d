import Pubsub.Proofs.Alike
import Pubsub.Proofs.Link
import Pubsub.Proofs.Listing
import Pubsub.Proofs.Rollback
import Pubsub.Proofs.Stretch

/-! A call that requests the registered channels in turn, whatever happens while its frames are being sent. It follows
the listing of its start. Each channel that has not changed hands or ended when its turn comes is requested once, and
the first failure ends the call. -/

namespace Pubsub.Client

/-- A moment at which a call that requests channels in turn starts or goes on. -/
structure Moment where
  before : Client
  /-- What became of the frame that the call waited for; one that starts has waited for none. -/
  outcome : Except Error Unit
  /-- What the call makes of the client, and comes to itself. -/
  after : Client × Progress

def Moment.frames (moment : Moment) : List Sent := moment.after.1.sent.drop moment.before.sent.length

structure Turn where
  moment : Moment
  channel : ChannelId

/-- The frame that is due when the turn of a channel comes, with the token that the channel has by then. -/
def Turn.frame (turn : Turn) : Option Sent :=
  match turn.moment.before.wanted turn.channel, turn.moment.before.target with
  | some channel, .ok socket => some ⟨socket, .request turn.channel channel.request⟩
  | _, _ => none

/-- The turns of channels at the moments of a call. A frame that is due uses its moment up; a failure ends them. -/
def turns : List ChannelId → List Moment → List Turn
  | id :: rest, moment :: later =>
    match moment.outcome with
    | .error _ => []
    | .ok () => ⟨moment, id⟩ ::
      match moment.before.wanted id, moment.before.target with
      | none, _ => turns rest (moment :: later)
      | some _, .ok _ => turns rest later
      | some _, .error _ => []
  | _, _ => []

/-- What a call that requests channels in turn comes to itself when it goes on, before a reader that waits is told. -/
def goOn (client : Client) (own : CallId) (outcome : Except Error Unit) : Client × Progress :=
  match client.call? own with
  | some ⟨task, .resubscribing id rest reader⟩ =>
    match outcome with
    | .ok () => resubscribe task reader rest (client.drop own)
    | .error error => ((client.drop own).rollBack id, .done (.error error))
  | _ => client.resume own outcome

private def waiter (client : Client) (own : CallId) : Option ReaderId :=
  match client.call? own with
  | some ⟨_, .resubscribing _ _ reader⟩ => reader
  | _ => none

private theorem resume_eq_goOn (client : Client) (own : CallId) (outcome : Except Error Unit) :
    client.resume own outcome = passOn (client.waiter own) (client.goOn own outcome) := by
  unfold goOn waiter
  cases held : client.call? own with
  | none => simp only [resume, held, passOn]
  | some call =>
    obtain ⟨task, stage⟩ := call
    cases stage with
    | resubscribing id rest reader =>
      simp only [resume, held]
      cases outcome <;> rfl
    | _ =>
      dsimp only
      generalize client.resume own outcome = result
      obtain ⟨after, progress⟩ := result
      cases progress <;> rfl

def goesOn (client : Client) (own : CallId) : Event → Option (Except Error Unit)
  | .resume call outcome => if call = own ∧ client.canResume own then some outcome else none
  | _ => none

/-- The moments at which a call goes on in a run, from what it has come to. -/
def moments : Progress → Client → List Event → List Moment
  | .suspended own, client, event :: rest =>
    match client.goesOn own event with
    | none => moments (.suspended own) (client.step event) rest
    | some outcome =>
      ⟨client, outcome, client.goOn own outcome⟩ :: moments (client.goOn own outcome).2 (client.step event) rest
  | _, _, _ => []

/-- The last turn of a call that fails: it was the request of that channel that failed, in flight or at once. -/
structure Fails (turn : Turn) (moment : Moment) (error : Error) : Prop where
  cause : moment.outcome = .error error ∧ turn.frame.isSome ∨ turn.moment = moment ∧ moment.before.target = .error error
  others : ∀ id, id ≠ turn.channel → moment.after.1.channels[id]? = moment.before.channels[id]?
  /-- Nobody touches a channel between its request and a failure at once. -/
  back : turn.moment = moment ∨
      moment.before.channels[turn.channel]? = turn.moment.after.1.channels[turn.channel]? →
    moment.after.1.phase? turn.channel = some .initial

/-- What a call does at its moments follows the turns of the channels that it has left. Turns that it had before count
for what is touched, and for what a failure takes back. -/
structure InTurn (earlier : List Turn) (ids : List ChannelId) (moments : List Moment) : Prop where
  frames : moments.flatMap (·.frames) = (turns ids moments).filterMap (·.frame)
  sent : ∀ moment ∈ moments, moment.after.1.sent = moment.before.sent ++ moment.frames
  order : (turns ids moments).map (·.channel) <+: ids
  finished : ∀ moment ∈ moments, ∀ result, moment.after.2 = .done (.ok result) →
    (turns ids moments).map (·.channel) = ids
  untouched : ∀ moment ∈ moments, ∀ id, id ∉ (earlier ++ turns ids moments).map (·.channel) →
    moment.after.1.channels[id]? = moment.before.channels[id]?
  requested : ∀ turn ∈ turns ids moments, turn.frame.isSome → turn.moment.after.1.phase? turn.channel = some .requested
  failed : ∀ moment ∈ moments, ∀ error, moment.outcome = .error error → moment.after.2 = .done (.error error)
  left : ∀ moment ∈ moments, ∀ error, moment.after.2 = .done (.error error) →
    ∃ turn, (earlier ++ turns ids moments).getLast? = some turn ∧ Fails turn moment error

private theorem turns_nil (ids : List ChannelId) : turns ids [] = [] := by cases ids <;> rfl

theorem InTurn.nil (earlier : List Turn) (ids : List ChannelId) : InTurn earlier ids [] := by
  constructor <;> simp [turns_nil]

section
variable {moment : Moment} (going : moment.outcome = .ok ())
include going

private theorem turns_pass {passed : List ChannelId} (unwanted : ∀ id ∈ passed, moment.before.wanted id = none)
    (rest : List ChannelId) (later : List Moment) :
    turns (passed ++ rest) (moment :: later) = passed.map (⟨moment, ·⟩) ++ turns rest (moment :: later) := by
  induction passed with
  | nil => rfl
  | cons id passed ih =>
    obtain ⟨first, others⟩ := List.forall_mem_cons.mp unwanted
    simp only [List.cons_append, turns, going, first, ih others, List.map_cons]

private theorem turns_over {ids : List ChannelId} (unwanted : ∀ id ∈ ids, moment.before.wanted id = none)
    (later : List Moment) :
    turns ids (moment :: later) = ids.map (⟨moment, ·⟩) := by
  simpa [turns] using turns_pass going unwanted [] later

private theorem turns_asks {passed rest : List ChannelId} {id : ChannelId}
    (unwanted : ∀ other ∈ passed, moment.before.wanted other = none) {channel : Channel}
    (wanted : moment.before.wanted id = some channel) {socket : Option SocketId}
    (target : moment.before.target = .ok socket) (later : List Moment) :
    turns (passed ++ id :: rest) (moment :: later) = passed.map (⟨moment, ·⟩) ++ ⟨moment, id⟩ :: turns rest later := by
  rw [turns_pass going unwanted]
  simp only [turns, going, wanted, target]

private theorem turns_fails {passed rest : List ChannelId} {id : ChannelId}
    (unwanted : ∀ other ∈ passed, moment.before.wanted other = none) {channel : Channel}
    (wanted : moment.before.wanted id = some channel) {error : Error} (target : moment.before.target = .error error)
    (later : List Moment) :
    turns (passed ++ id :: rest) (moment :: later) = passed.map (⟨moment, ·⟩) ++ [⟨moment, id⟩] := by
  rw [turns_pass going unwanted]
  simp only [turns, going, wanted, target]

end

/-- No frame is due from a channel that is passed over. -/
theorem frame_of_passed {moment : Moment} {passed : List ChannelId}
    (unwanted : ∀ id ∈ passed, moment.before.wanted id = none) :
    ∀ turn ∈ passed.map fun id => (⟨moment, id⟩ : Turn), turn.frame = none := by
  intro turn member
  obtain ⟨id, inside, rfl⟩ := List.mem_map.mp member
  simp only [Turn.frame, unwanted id inside]

private theorem channels_of_passed (moment : Moment) (passed : List ChannelId) :
    (passed.map fun id => (⟨moment, id⟩ : Turn)).map (·.channel) = passed := by
  rw [List.map_map]
  exact List.map_id passed

/-- Channels that are passed over make no difference. -/
theorem InTurn.pass {earlier : List Turn} {rest : List ChannelId} {moment : Moment} {later : List Moment}
    (inTurn : InTurn earlier rest (moment :: later)) (going : moment.outcome = .ok ()) {passed : List ChannelId}
    (unwanted : ∀ id ∈ passed, moment.before.wanted id = none) (some : turns rest (moment :: later) ≠ []) :
    InTurn earlier (passed ++ rest) (moment :: later) := by
  have split := turns_pass going unwanted rest later
  have channels := channels_of_passed moment passed
  constructor
  · rw [split, List.filterMap_append, List.filterMap_eq_nil_iff.mpr (frame_of_passed unwanted), List.nil_append]
    exact inTurn.frames
  · exact inTurn.sent
  · rw [split, List.map_append, channels]
    exact (List.prefix_append_right_inj passed).mpr inTurn.order
  · intro moment member result isOver
    rw [split, List.map_append, channels, inTurn.finished moment member result isOver]
  · intro moment member id apart
    refine inTurn.untouched moment member id fun among => apart ?_
    rw [split, List.map_append, List.map_append]
    rw [List.map_append] at among
    exact (List.mem_append.mp among).elim (List.mem_append_left _) fun mine =>
      List.mem_append_right _ (List.mem_append_right _ mine)
  · intro turn member due
    rw [split] at member
    rcases List.mem_append.mp member with gone | mine
    · rw [frame_of_passed unwanted turn gone] at due
      contradiction
    · exact inTurn.requested turn mine due
  · exact inTurn.failed
  · intro moment member error failed
    obtain ⟨turn, last, fails⟩ := inTurn.left moment member error failed
    refine ⟨turn, ?_, fails⟩
    rw [split, ← List.append_assoc, List.getLast?_append_of_ne_nil _ some]
    rwa [List.getLast?_append_of_ne_nil _ some] at last

section
variable {moment : Moment} {start : Client} (same : start.channels = moment.before.channels)
  (before : start.sent = moment.before.sent) {id : ChannelId} {channel : Channel}
include same before

theorem InTurn.ends (earlier : List Turn) (going : moment.outcome = .ok ()) {ids : List ChannelId}
    (unwanted : ∀ id ∈ ids, moment.before.wanted id = none) (after : moment.after = (start, .done (.ok none))) :
    InTurn earlier ids [moment] := by
  have turned := turns_over going unwanted []
  have channels : (turns ids [moment]).map (·.channel) = ids := by rw [turned, channels_of_passed]
  have silent : moment.frames = [] := by rw [Moment.frames, after, before, List.drop_length]
  constructor
  · rw [turned, List.filterMap_eq_nil_iff.mpr (frame_of_passed unwanted), List.flatMap_singleton, silent]
  · intro other member
    rw [List.mem_singleton.mp member, silent, after, before, List.append_nil]
  · exact ⟨[], (List.append_nil _).trans channels⟩
  · exact fun _ _ _ _ => channels
  · intro other member id apart
    rw [List.mem_singleton.mp member, after, same]
  · intro turn member due
    rw [frame_of_passed unwanted turn (turned ▸ member)] at due
    contradiction
  · intro other member error failed
    rw [List.mem_singleton.mp member, going] at failed
    contradiction
  · intro other member error failed
    rw [List.mem_singleton.mp member, after] at failed
    cases failed

theorem InTurn.asks (earlier : List Turn) (going : moment.outcome = .ok ())
    (wanted : moment.before.wanted id = some channel) {socket : Option SocketId}
    (target : moment.before.target = .ok socket) {task : Task} {stage : Stage} {own : CallId}
    (after : moment.after = (start.asking task stage id channel socket, .suspended own))
    {rest : List ChannelId} {later : List Moment} (next : InTurn [⟨moment, id⟩] rest later) :
    InTurn earlier (id :: rest) (moment :: later) := by
  obtain ⟨found, _, live⟩ := wanted_eq_some.mp wanted
  have turned : turns (id :: rest) (moment :: later) = ⟨moment, id⟩ :: turns rest later :=
    turns_asks going (List.forall_mem_nil _) wanted target later
  have due : (⟨moment, id⟩ : Turn).frame = some ⟨socket, .request id channel.request⟩ := by
    simp only [Turn.frame, wanted, target]
  have sent : moment.after.1.sent = moment.before.sent ++ [⟨socket, .request id channel.request⟩] := by
    rw [after, asking_sent, before]
  have frames : moment.frames = [⟨socket, .request id channel.request⟩] := by
    rw [Moment.frames, sent, List.drop_left]
  have suspended {result : Except Error (Option ChannelId)} : moment.after.2 ≠ .done result := by
    rw [after]
    exact nofun
  have requested : moment.after.1.phase? id = some .requested := by
    rw [after]
    exact asking_phase? (same ▸ found) live task stage socket
  constructor
  · rw [turned, List.flatMap_cons, frames, List.filterMap_cons_some due, next.frames, List.singleton_append]
  · exact List.forall_mem_cons.mpr ⟨by rw [sent, frames], next.sent⟩
  · rw [turned]
    exact (List.cons_prefix_cons).mpr ⟨rfl, next.order⟩
  · refine List.forall_mem_cons.mpr ⟨fun result isOver => absurd isOver suspended, fun other member result isOver => ?_⟩
    rw [turned, List.map_cons, next.finished other member result isOver]
  · rw [turned]
    refine List.forall_mem_cons.mpr ⟨fun other apart => ?_, fun moment member other apart => ?_⟩
    · have ne : other ≠ id := fun same => apart (same ▸ by simp)
      rw [after, ← same]
      exact moveTo_found_of_ne start .requested ne
    · refine next.untouched moment member other fun among => apart ?_
      rw [List.map_append]
      exact List.mem_append_right _ among
  · rw [turned]
    exact List.forall_mem_cons.mpr ⟨fun _ => requested, next.requested⟩
  · exact List.forall_mem_cons.mpr ⟨fun error failed => absurd (going.symm.trans failed) nofun, next.failed⟩
  · refine List.forall_mem_cons.mpr ⟨fun error isOver => absurd isOver suspended, fun moment member error failed => ?_⟩
    obtain ⟨turn, last, fails⟩ := next.left moment member error failed
    refine ⟨turn, ?_, fails⟩
    rw [turned, List.getLast?_append_of_ne_nil _ (List.cons_ne_nil _ _)]
    exact last

omit same in
/-- A call that fails hands nothing over then. -/
theorem InTurn.stops {earlier : List Turn} {ids : List ChannelId} {turn : Turn} {error : Error}
    (last : (earlier ++ turns ids [moment]).getLast? = some turn)
    (undue : ∀ turn ∈ turns ids [moment], turn.frame = none)
    (order : (turns ids [moment]).map (·.channel) <+: ids)
    (quiet : Quiet start moment.after.1) (stopped : moment.after.2 = .done (.error error))
    (failed : ∀ other, moment.outcome = .error other → other = error) (fails : Fails turn moment error) :
    InTurn earlier ids [moment] := by
  have unsaid : moment.after.1.sent = moment.before.sent := by
    obtain ⟨_, _, _, same⟩ := quiet
    rw [same, before]
  have silent : moment.frames = [] := by rw [Moment.frames, unsaid, List.drop_length]
  constructor
  · rw [List.flatMap_singleton, silent, List.filterMap_eq_nil_iff.mpr undue]
  · exact List.forall_mem_singleton.mpr (by rw [unsaid, silent, List.append_nil])
  · exact order
  · refine List.forall_mem_singleton.mpr fun result finished => ?_
    rw [stopped] at finished
    cases finished
  · refine List.forall_mem_singleton.mpr fun other apart => fails.others other ?_
    rintro rfl
    exact apart (List.mem_map_of_mem (List.mem_of_getLast? last))
  · intro turn member due
    rw [undue turn member] at due
    contradiction
  · exact List.forall_mem_singleton.mpr fun other same => by rw [stopped, failed other same]
  · refine List.forall_mem_singleton.mpr fun other ended => ⟨turn, last, ?_⟩
    rw [stopped] at ended
    cases ended
    exact fails

/-- A request that is refused at once is taken back before anything else happens. -/
theorem InTurn.fails (earlier : List Turn) (going : moment.outcome = .ok ())
    (wanted : moment.before.wanted id = some channel) {error : Error} (target : moment.before.target = .error error)
    (after : moment.after = ((start.moveTo id .requested).1.rollBack id, .done (.error error)))
    (rest : List ChannelId) : InTurn earlier (id :: rest) [moment] := by
  obtain ⟨found, _, live⟩ := wanted_eq_some.mp wanted
  have turned : turns (id :: rest) [moment] = [⟨moment, id⟩] := turns_fails going (List.forall_mem_nil _) wanted target []
  have undue : (⟨moment, id⟩ : Turn).frame = none := by simp only [Turn.frame, wanted, target]
  have others (other : ChannelId) (ne : other ≠ id) :
      moment.after.1.channels[other]? = moment.before.channels[other]? := by
    rw [after, rollBack_found_of_ne _ ne, moveTo_found_of_ne _ .requested ne, same]
  have back : moment.after.1.phase? id = some .initial := by
    rw [after]
    exact (retract_phase? (same ▸ found) live id).trans (if_pos rfl)
  have fails : Fails ⟨moment, id⟩ moment error := ⟨.inr ⟨rfl, target⟩, others, fun _ => back⟩
  refine .stops before ?_ ?_ ?_ ?_ (congrArg Prod.snd after) ?_ fails
  · rw [turned, List.getLast?_append_of_ne_nil _ (List.cons_ne_nil _ _)]
    rfl
  · rw [turned]
    exact List.forall_mem_singleton.mpr undue
  · rw [turned]
    exact List.cons_prefix_cons.mpr ⟨rfl, List.nil_prefix⟩
  · rw [after]
    exact (Quiet.moveTo start id .requested).trans (.rollBack _ id)
  · exact fun other failed => absurd (going.symm.trans failed) nofun

/-- A frame that could not be sent ends the call, and takes back what is left of its request. -/
theorem InTurn.failing {turn : Turn} {error : Error} (failed : moment.outcome = .error error)
    (after : moment.after = (start.rollBack turn.channel, .done (.error error))) (going : turn.moment.outcome = .ok ())
    (sent : turn.frame.isSome) (requested : turn.moment.after.1.phase? turn.channel = some .requested)
    (rest : List ChannelId) : InTurn [turn] rest [moment] := by
  have turned : turns rest [moment] = [] := by cases rest <;> simp only [turns, failed]
  have others (other : ChannelId) (ne : other ≠ turn.channel) :
      moment.after.1.channels[other]? = moment.before.channels[other]? := by
    rw [after, rollBack_found_of_ne _ ne, same]
  have back (untouched : moment.before.channels[turn.channel]? = turn.moment.after.1.channels[turn.channel]?) :
      moment.after.1.phase? turn.channel = some .initial := by
    have standing : start.phase? turn.channel = some .requested := by rw [phase?, same, untouched, ← phase?, requested]
    have resets := rollBack_resets start turn.channel
    rw [if_pos standing] at resets
    rw [after, resets.phase?, if_pos (List.mem_singleton_self _), standing, Option.map_some]
  refine .stops before ?_ ?_ ?_ ?_ (congrArg Prod.snd after) ?_ ⟨.inl ⟨failed, sent⟩, others, ?_⟩
  · rw [turned]
    rfl
  · rw [turned]
    exact List.forall_mem_nil _
  · rw [turned]
    exact List.nil_prefix
  · rw [after]
    exact .rollBack start turn.channel
  · exact fun other ended => Except.error.inj (ended.symm.trans failed)
  · rintro (again | untouched)
    · rw [again, failed] at going
      contradiction
    · exact back untouched

end

/-- From one stretch on, what a call does follows the turns, if what it does later does. -/
theorem Stretch.inTurn {moment : Moment} (going : moment.outcome = .ok ()) {start : Client}
    (same : start.channels = moment.before.channels) (before : start.sent = moment.before.sent)
    (wants : start.wanted = moment.before.wanted) (reach : start.target = moment.before.target) {task : Task}
    {reader : Option ReaderId} {ids : List ChannelId} (stretch : Stretch start task reader ids moment.after)
    (earlier : List Turn) {later : List Moment} (ended : ∀ result, moment.after.2 = .done result → later = [])
    (next : ∀ id rest, moment.after.2 = .suspended start.nextCall →
      moment.after.1.calls = start.calls ++ [(start.nextCall, ⟨task, .resubscribing id rest reader⟩)] →
      moment.after.1.nextCall = start.nextCall + 1 → (⟨moment, id⟩ : Turn).frame.isSome →
      moment.after.1.phase? id = some .requested → InTurn [⟨moment, id⟩] rest later) :
    InTurn earlier ids (moment :: later) := by
  generalize comes : moment.after = after at stretch
  have logged (records : List Record) : ({ start with records } : Client).channels = moment.before.channels := same
  have turned (id : ChannelId) (rest : List ChannelId) : turns (id :: rest) (moment :: later) ≠ [] := by
    simp [turns, going]
  cases stretch with
  | ends passed records =>
    obtain rfl := ended (.ok none) (by rw [comes])
    exact .ends (logged records) before earlier going (wants ▸ passed) comes
  | @asks passed rest id split unwanted channel wanted socket target records =>
    subst split
    rw [wants] at wanted unwanted
    rw [reach] at target
    obtain ⟨found, _, live⟩ := wanted_eq_some.mp wanted
    obtain ⟨calls, nextCall⟩ := asking_calls { start with records } task (.resubscribing id rest reader) id channel socket
    have due : (⟨moment, id⟩ : Turn).frame.isSome := by simp only [Turn.frame, wanted, target, Option.isSome_some]
    have requested : moment.after.1.phase? id = some .requested := by
      rw [comes]
      exact asking_phase? (logged records ▸ found) live task _ socket
    have later := next id rest (by rw [comes]) (by rw [comes, calls]) (by rw [comes, nextCall]) due requested
    exact (InTurn.asks (logged records) before earlier going wanted target comes later).pass going unwanted (turned id rest)
  | @fails passed rest id split unwanted channel wanted error target records =>
    subst split
    rw [wants] at wanted unwanted
    rw [reach] at target
    obtain rfl := ended (.error error) (by rw [comes])
    exact (InTurn.fails (logged records) before earlier going wanted target comes rest).pass going unwanted (turned id rest)

theorem goesOn_eq_some {client : Client} {own : CallId} {event : Event} {outcome : Except Error Unit}
    (resumes : client.goesOn own event = some outcome) : event = .resume own outcome ∧ client.canResume own = true := by
  unfold goesOn at resumes
  split at resumes
  · split at resumes
    next both =>
      cases resumes
      exact ⟨both.1 ▸ rfl, both.2⟩
    · contradiction
  · contradiction

private theorem passOn_of_suspended {result : Client × Progress} {call : CallId} (waits : result.2 = .suspended call)
    (reader : Option ReaderId) : (passOn reader result).1 = result.1 := by
  obtain ⟨client, progress⟩ := result
  cases waits
  rfl

theorem moments_of_done (result : Except Error (Option ChannelId)) (client : Client) (events : List Event) :
    moments (.done result) client events = [] := by
  cases events <;> rfl

private theorem Ordered.held_last {client : Client} (ordered : client.Ordered) {others : List (CallId × Call)}
    {own : CallId}
    {held : Call} (calls : client.calls = others ++ [(own, held)]) :
    ∀ call, client.call? own = some call → call = held := by
  intro call now
  have member : (own, held) ∈ client.calls := calls ▸ List.mem_append_right others (List.mem_singleton_self _)
  exact Option.some.inj (now.symm.trans (ordered.call?_of_mem member))

/-- A call that waits for the frame of a turn follows the turns that are left, whatever happens meanwhile. -/
theorem moments_inTurn {client : Client} (tidy : client.Tidy) {own : CallId} (early : own < client.nextCall) {turn : Turn}
    {task : Task} {rest : List ChannelId} {reader : Option ReaderId}
    (held : ∀ call, client.call? own = some call → call = ⟨task, .resubscribing turn.channel rest reader⟩)
    (going : turn.moment.outcome = .ok ()) (sent : turn.frame.isSome)
    (requested : turn.moment.after.1.phase? turn.channel = some .requested) (events : List Event) :
    InTurn [turn] rest (moments (.suspended own) client events) := by
  induction events generalizing client own turn rest with
  | nil => exact .nil [turn] rest
  | cons event later ih =>
    have tidyAfter := step_tidy event tidy
    simp only [moments]
    cases resumes : client.goesOn own event with
    | none =>
      -- whatever happens meanwhile, the number of the call is not given out again
      exact ih tidyAfter (Nat.lt_of_lt_of_le early (step_nextCall tidy event))
        (fun call now => held call (step_held tidy early now)) going sent requested
    | some outcome =>
      obtain ⟨rfl, can⟩ := goesOn_eq_some resumes
      have possible : client.possible (.resume own outcome) = true := can
      obtain ⟨call, found⟩ := Option.isSome_iff_exists.mp (present_of_possible possible)
      obtain rfl := held call found
      have stepped : client.step (.resume own outcome) = (passOn reader (client.goOn own outcome)).1 := by
        have waits : client.waiter own = reader := by simp only [waiter, found]
        rw [Client.step, if_pos possible, ← waits, ← resume_eq_goOn]
        rfl
      have channels : (client.drop own).channels = client.channels := rfl
      have unsaid : (client.drop own).sent = client.sent := rfl
      dsimp only
      cases outcome with
      | error error =>
        have comes : client.goOn own (.error error) = ((client.drop own).rollBack turn.channel, .done (.error error)) := by
          simp only [goOn, found]
        rw [comes, moments_of_done]
        exact .failing channels unsaid rfl rfl going sent requested rest
      | ok =>
        have comes : client.goOn own (.ok ()) = resubscribe task reader rest (client.drop own) := by
          simp only [goOn, found]
        have stretch := resubscribe_stretch (client.drop own) task reader rest
        rw [← comes] at stretch
        let moment : Moment := ⟨client, .ok (), client.goOn own (.ok ())⟩
        refine Stretch.inTurn (show moment.outcome = .ok () from rfl) channels unsaid rfl rfl stretch [turn] ?_ ?_
        · intro result isOver
          rw [show (client.goOn own (.ok ())).2 = .done result from isOver, moments_of_done]
        · intro id rest suspended calls next due requested
          have waits : (client.goOn own (.ok ())).2 = .suspended client.nextCall := suspended
          have same : client.step (.resume own (.ok ())) = (client.goOn own (.ok ())).1 := by
            rw [stepped]
            exact passOn_of_suspended waits reader
          rw [waits, same]
          rw [same] at tidyAfter
          have held := tidyAfter.ordered.held_last calls
          exact ih tidyAfter (next ▸ Nat.lt_succ_self client.nextCall) held rfl due requested

/-- What a call does at its later moments is what becomes of the client there. -/
theorem moments_resume {client : Client} (tidy : client.Tidy) (progress : Progress) (events : List Event) :
    ∀ moment ∈ moments progress client events, client.names <+: moment.before.names ∧
      ∃ own reader, moment.before.resume own moment.outcome = passOn reader moment.after := by
  induction events generalizing client progress with
  | nil => cases progress <;> exact List.forall_mem_nil _
  | cons event later ih =>
    cases progress with
    | done => exact List.forall_mem_nil _
    | suspended own =>
      have named {moment : Moment} (later : (client.step event).names <+: moment.before.names) :
          client.names <+: moment.before.names := (step_names tidy event).trans later
      simp only [moments]
      split
      · exact fun moment member => (ih (step_tidy event tidy) _ moment member).imp_left named
      next outcome _ =>
        have resumes := resume_eq_goOn client own outcome
        refine List.forall_mem_cons.mpr ⟨⟨List.prefix_rfl, own, client.waiter own, resumes⟩, ?_⟩
        exact fun moment member => (ih (step_tidy event tidy) _ moment member).imp_left named

/-- An event starts a call that requests the registered channels: with what client, on whose behalf, and who waits. -/
inductive Starts (client : Client) : Event → Client → Task → Option ReaderId → Prop where
  | application (task : Task) : Starts client (.resubscribe task) client task none
  /-- A reader confirms the connection. -/
  | reader {reader : ReaderId} {socket : SocketId} {frame : Frame} {rest : List Arrival} {middle : Client}
      {members : Members} (idle : client.readers[reader]? = some { reading := .idle socket })
      (arrived : client.sockets[socket]?.map (·.incoming) = some (.frame frame :: rest))
      (alike : Alike (client.leave socket rest) middle)
      (taken : client.turn reader = middle.confirm reader socket members) :
      Starts client (.turn reader) ((middle.established members).setReading reader (.busy socket)) (.reader reader)
        (some reader)

/-- A frame that confirms the connection starts a call, unless it exceeds the limits. -/
theorem starts_of_confirms {client : Client} {reader : ReaderId} {frame : Frame}
    (next : client.next reader = some (.frame frame)) (within : frame.exceeds = false) (confirms : frame.confirms = true) :
    ∃ start, Starts client (.turn reader) start (.reader reader) (some reader) := by
  obtain ⟨socket, rest, reading, arrived, turned⟩ := turn_of_next next
  have idle : client.readers[reader]? = some { reading := .idle socket } := by
    have going : client.isCancelling (.reader reader) = false := by
      simpa [possible] using possible_of_next next
    obtain ⟨⟨_, cancelling⟩, found, rfl⟩ := Option.map_eq_some_iff.mp reading
    simp only [isCancelling, found, Option.any_some] at going
    rw [found, going]
  unfold Frame.confirms at confirms
  split at confirms
  next envelope decoded =>
    have named := of_decide_eq_true confirms
    simp only [take, handle, decoded, if_pos named, establish] at turned
    split at turned
    · exact ⟨_, .reader idle arrived ⟨_, _, rfl⟩ turned⟩
    · exact ⟨_, .reader idle arrived ⟨_, _, rfl⟩ turned⟩
    next error malformed refused =>
      obtain ⟨cause, rfl⟩ := Payload.undecodable_of_within refused (Frame.confirmation_within within decoded named)
      exact absurd rfl (malformed cause)
  · contradiction

section
variable {client start : Client} {event : Event} {task : Task} {reader : Option ReaderId}
  (starts : Starts client event start task reader)
include starts

theorem Starts.same :
    start.channels = client.channels ∧ start.registered = client.registered ∧ start.sent = client.sent := by
  cases starts with
  | application => exact ⟨rfl, rfl, rfl⟩
  | reader idle arrived alike taken =>
    obtain ⟨_, _, rfl⟩ := alike
    exact ⟨rfl, rfl, rfl⟩

theorem Starts.listing : start.listing = client.listing := by
  obtain ⟨channels, registered, _⟩ := starts.same
  simp only [Client.listing, nameOf, channels, registered]

theorem Starts.step : client.step event = (passOn reader (start.resubscribeAll task reader)).1 := by
  cases starts with
  | application =>
    have same : client.step (.resubscribe task) = (client.resubscribeAll task none).1 := rfl
    rw [same]
    generalize client.resubscribeAll task none = result
    obtain ⟨after, progress⟩ := result
    cases progress <;> rfl
  | @reader reader socket frame rest middle members idle arrived alike taken =>
    have possible : client.possible (.turn reader) = true := by simp [Client.possible, isCancelling, idle]
    have found : middle.readers[reader]? = some { reading := .idle socket } := by
      obtain ⟨_, _, rfl⟩ := alike
      exact idle
    let start := (middle.established members).setReading reader (.busy socket)
    have busy : start.readers[reader]? = some { reading := .busy socket } := setReading_found found _
    have spares : Spares (fun _ => True) (fun _ => True) start (start.resubscribeAll (.reader reader) (some reader)).1 :=
      .resubscribe start _ _ _
    rw [passOn_of_busy (spares.reader reader _ trivial busy), ← confirm_settled, ← taken, Client.step, if_pos possible]
    rfl

/-- What a call does from its start on follows the turns of the channels that are registered then. -/
theorem Starts.inTurn (tidy : client.Tidy) (events : List Event) :
    InTurn [] client.listing (⟨start, .ok (), start.resubscribeAll task reader⟩ ::
      moments (start.resubscribeAll task reader).2 (client.step event) events) := by
  have stretch := resubscribe_stretch start task reader start.listing
  let first : Moment := ⟨start, .ok (), start.resubscribeAll task reader⟩
  rw [← starts.listing]
  refine Stretch.inTurn (show first.outcome = .ok () from rfl) rfl rfl rfl rfl stretch [] ?_ ?_
  · intro result isOver
    rw [show (start.resubscribeAll task reader).2 = .done result from isOver, moments_of_done]
  · intro id rest suspended calls next due requested
    have waits : (start.resubscribeAll task reader).2 = .suspended start.nextCall := suspended
    have same : client.step event = (start.resubscribeAll task reader).1 := by
      rw [starts.step]
      exact passOn_of_suspended waits reader
    have tidyAfter : (start.resubscribeAll task reader).1.Tidy := same ▸ step_tidy event tidy
    rw [waits, same]
    have held := tidyAfter.ordered.held_last calls
    exact moments_inTurn tidyAfter (next ▸ Nat.lt_succ_self start.nextCall) held rfl due requested events

end

/-- A call that requests the registered channels sends, on its own account, one request for each channel that is still
registered and has not ended when its turn comes, by name, with the token that it has by then, and sends nothing else.
A failure ends the call and takes that request back. -/
theorem resubscription_in_turn (url : Text) (transport : Transport) (past : List Event) {event : Event} {start : Client}
    {task : Task} {reader : Option ReaderId} (starts : Starts ((initial url transport).run past) event start task reader)
    (events : List Event) :
    let client := (initial url transport).run past
    let first : Moment := ⟨start, .ok (), start.resubscribeAll task reader⟩
    let others := moments first.after.2 (client.step event) events
    start.channels = client.channels ∧ start.registered = client.registered ∧ start.sent = client.sent ∧
      client.step event = (passOn reader first.after).1 ∧
      (∀ moment ∈ others, client.names <+: moment.before.names ∧
        ∃ own reader, moment.before.resume own moment.outcome = passOn reader moment.after) ∧
      client.listing.Perm client.registered ∧ (client.listing.map client.nameOf).Pairwise (· < ·) ∧
      InTurn [] client.listing (first :: others) := by
  intro client first others
  have tidy : client.Tidy := (initial_tidy url transport).run past
  obtain ⟨channels, registered, sent⟩ := starts.same
  refine ⟨channels, registered, sent, starts.step, ?_, client.listing_perm, tidy.registry.increasing,
    starts.inTurn tidy events⟩
  intro moment member
  obtain ⟨named, goes⟩ := moments_resume (step_tidy event tidy) first.after.2 events moment member
  exact ⟨(step_names tidy event).trans named, goes⟩

def three : List Event :=
  [.subscribe .application (some "feed") none [], .subscribe .application (some "news") none [],
    .subscribe .application (some "odds") none [], .attach (.direct true)]

/-- While they are requested in turn, the second is replaced and the last is assigned a token; then sending fails. -/
def replacing : List Event :=
  [.unsubscribe .application (some "news"), .subscribe .application (some "news") none [], .setToken 2 (some "41"),
    .resume 0 (.ok ()), .resume 3 (.error (.system "down"))]

/-- The call passes the replaced channel over, and sends the token of the last. -/
theorem resubscription_in_turn_replacing :
    let client := (initial "url" (.direct false)).run three
    let first : Moment := ⟨client, .ok (), client.resubscribeAll .application none⟩
    let others := moments first.after.2 (client.step (.resubscribe .application)) replacing
    InTurn [] [0, 1, 2] (first :: others) ∧
      ((first :: others).flatMap (·.frames)).map (·.content.text) =
        [Request.encode (.subscribe "feed" none), Request.encode (.subscribe "odds" (some "41"))] := by
  intro client first others
  have listed : client.listing = [0, 1, 2] := List.mergeSort_of_pairwise (by decide +kernel)
  obtain ⟨_, _, _, _, _, _, _, inTurn⟩ :=
    resubscription_in_turn "url" (.direct false) three (.application .application) replacing
  refine ⟨listed ▸ inTurn, ?_⟩
  have starts : client.resubscribeAll .application none = resubscribe .application none [0, 1, 2] client := by
    rw [resubscribeAll, listed]
  have steps : client.step (.resubscribe .application) = (resubscribe .application none [0, 1, 2] client).1 :=
    congrArg Prod.fst starts
  simp only [others, first, starts, steps]
  decide +kernel

end Pubsub.Client
