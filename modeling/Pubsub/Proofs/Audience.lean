import Pubsub.Proofs.Admission

/-! The listeners of an event are those that were bound to it last, and not unbound, over every run. Only an accepted
request to bind or to unbind, or the subscription that makes the channel, can be the last. -/

namespace Pubsub

def Event.rebinds : Event → Bool
  | .bind _ _ _ | .unbind _ _ _ => true
  | _ => false

namespace Client

/-- Whether a listener is bound to an event of a channel. -/
def hears (client : Client) (id : ChannelId) (name : Text) (who : Listener) : Bool :=
  client.channels[id]?.any fun channel => (channel.bindings.listenersFor name).contains who

def allows (client : Client) (id : ChannelId) (update : Channel → Except Error Channel) : Bool :=
  client.channels[id]?.any fun channel => (update channel).isOk

/-- What an event makes of a listener of a channel's event: it is bound now, or unbound, if the event succeeds. -/
def rebound (client : Client) (id : ChannelId) (name : Text) (who : Listener) : Event → Option Bool
  | .bind other event listener =>
    if other = id ∧ event = some name ∧ listener = some who ∧ client.allows id (·.bind event listener) then some true else none
  | .unbind other event listener =>
    if other = id ∧ event = some name ∧ listener = some who ∧ client.allows id (·.unbind event listener) then some false
    else none
  | .subscribe _ given listener events =>
    if id = client.channels.length ∧ listener = some who ∧ events.contains (some name) ∧
        (client.newChannel given listener events).isOk then some true
    else none
  | _ => none

/-- The times that a listener was bound or unbound in a run. -/
def rebindings (id : ChannelId) (name : Text) (who : Listener) : Client → List Event → List Bool
  | _, [] => []
  | client, event :: rest => (client.rebound id name who event).toList ++ rebindings id name who (client.step event) rest

variable {client : Client} {id : ChannelId} {name : Text} {who : Listener}

private theorem hears_eq (client : Client) (id : ChannelId) (name : Text) (who : Listener) :
    client.hears id name who =
      ((client.channels.map (·.bindings))[id]?).any fun bindings => (bindings.listenersFor name).contains who := by
  rw [hears, List.getElem?_map, Option.any_map]

private theorem hears_of_found {channel : Channel} (found : client.channels[id]? = some channel) :
    client.hears id name who = (channel.bindings.listenersFor name).contains who := by
  rw [hears, found, Option.any_some]

private theorem hears_of_missing (missing : client.channels.length ≤ id) : client.hears id name who = false := by
  rw [hears, List.getElem?_eq_none missing, Option.any_none]

private theorem change_hears_of_ne (other : ChannelId) (update : Channel → Except Error Channel) (apart : other ≠ id) :
    (client.change other update).hears id name who = client.hears id name who := by
  unfold change
  split
  · rfl
  · split
    · rfl
    · simp only [hears, setChannel, List.getElem?_set_ne apart]

/-- A change of a channel that settles one pair, and leaves all others as they are, settles it if it is not refused. -/
theorem change_hears {update : Channel → Except Error Channel} {event : Option Text} {listener : Option Listener}
    {bound : Bool} (other : ChannelId)
    (settles : ∀ channel changed, client.channels[other]? = some channel → update channel = .ok changed →
      (changed.bindings.listenersFor name).contains who =
        if event = some name ∧ listener = some who then bound else (channel.bindings.listenersFor name).contains who) :
    (client.change other update).hears id name who =
      (if other = id ∧ event = some name ∧ listener = some who ∧ client.allows id update then some bound else none).getD
        (client.hears id name who) := by
  by_cases same : other = id
  · subst same
    cases found : client.channels[other]? with
    | none => simp [change, allows, found]
    | some channel =>
      cases updated : update channel with
      | error error => simp [change, allows, found, updated, Except.isOk, Except.toBool]
      | ok changed =>
        have allowed : client.allows other update = true := by
          simp [allows, found, updated, Except.isOk, Except.toBool]
        have inside := (List.getElem?_eq_some_iff.mp found).choose
        have replaced : (client.change other update).channels[other]? = some changed := by
          simp only [change, found, updated, setChannel, List.getElem?_set_self inside]
        rw [hears_of_found replaced, hears_of_found found, settles channel changed found updated]
        simp only [allowed, true_and, and_true]
        split <;> rfl
  · rw [change_hears_of_ne other update same, if_neg fun all => same all.1]
    rfl

private theorem bind_hears (other : ChannelId) (event : Option Text) (listener : Option Listener) :
    (client.change other (·.bind event listener)).hears id name who =
      (client.rebound id name who (.bind other event listener)).getD (client.hears id name who) := by
  refine change_hears other fun channel changed _ binds => ?_
  obtain ⟨given, known, rfl, rfl, rfl⟩ := Channel.bind_ok binds
  rw [Bool.eq_iff_iff, List.contains_iff_mem, Bindings.mem_listenersFor_add]
  simp only [Option.some.injEq]
  split
  next same => simp only [same, and_self, true_or]
  next apart => simp only [apart, false_or, List.contains_iff_mem]

private theorem unbind_hears (keyed : client.Binds Bindings.Keyed) (other : ChannelId) (event : Option Text)
    (listener : Option Listener) :
    (client.change other (·.unbind event listener)).hears id name who =
      (client.rebound id name who (.unbind other event listener)).getD (client.hears id name who) := by
  refine change_hears other fun channel changed found unbinds => ?_
  have keyed := keyed _ (List.mem_map_of_mem (List.mem_of_getElem? found))
  obtain ⟨given, known, rfl, rfl, rfl⟩ := Channel.unbind_ok unbinds
  rw [Bool.eq_iff_iff, List.contains_iff_mem, Bindings.mem_listenersFor_remove keyed]
  simp only [Option.some.injEq]
  split
  next same => simp only [same, and_self, not_true_eq_false, false_and, Bool.false_eq_true]
  next apart => simp only [apart, not_false_eq_true, true_and, List.contains_iff_mem]

/-- Nothing but a request to bind or to unbind changes what is bound on a channel that is there. -/
theorem step_bindings (client : Client) {event : Event} (other : event.rebinds = false) :
    ∃ made, (client.step event).channels.map (·.bindings) = client.channels.map (·.bindings) ++ made ∧
      ∀ bindings ∈ made, ∃ channel, Creates client event channel ∧ channel.bindings = bindings := by
  have unmade {after : Client} (same : after.channels.map (·.bindings) = client.channels.map (·.bindings)) :
      ∃ made, after.channels.map (·.bindings) = client.channels.map (·.bindings) ++ made ∧
        ∀ bindings ∈ made, ∃ channel, Creates client event channel ∧ channel.bindings = bindings :=
    ⟨[], by rw [same, List.append_nil], nofun⟩
  have effect := step_effect client event
  generalize client.step event = after at effect
  cases effect with
  | @taken _ accepted _ taker takes =>
    refine unmade ?_
    have found := taker_found taker
    obtain ⟨inside, held⟩ := List.getElem?_eq_some_iff.mp found
    have bound : accepted.id < (client.channels.map (·.bindings)).length := by simpa using inside
    have kept : (accepted.acceptance.update accepted.channel).bindings = (client.channels.map (·.bindings))[accepted.id] := by
      rw [List.getElem_map, held]
      cases accepted.acceptance <;> rfl
    rw [bindings_eq_of_profiles takes.profiles, List.map_set, kept, List.set_getElem_self]
  | moved _ _ moves => exact unmade (bindings_eq_of_profiles moves.profiles)
  | changed asked =>
    refine unmade (change_map client _ _ (·.bindings) ?_)
    intro channel changed updated
    cases event with
    | bind | unbind => contradiction
    | setToken | setLifecycle =>
      cases asked
      cases updated
      rfl
    | _ => contradiction
  | @added _ channel _ _ creates moves =>
    exact ⟨[channel.bindings], by rw [bindings_eq_of_profiles moves.profiles]; simp, fun _ member =>
      ⟨channel, creates, (List.mem_singleton.mp member).symm⟩⟩
  | called => exact unmade rfl
  | closed => exact unmade rfl

private theorem hears_of_grown {after : Client} {made : List Bindings}
    (grown : after.channels.map (·.bindings) = client.channels.map (·.bindings) ++ made) :
    after.hears id name who = if id < client.channels.length then client.hears id name who
      else made[id - client.channels.length]?.any fun bindings => (bindings.listenersFor name).contains who := by
  rw [hears_eq, grown, hears_eq]
  split
  next inside => rw [List.getElem?_append_left (by simpa using inside)]
  next outside => rw [List.getElem?_append_right (by simpa using outside), List.length_map]

private theorem subscribe_hears (task : Task) (given : Option Text) (listener : Option Listener)
    (events : List (Option Text)) :
    (client.subscribe task given listener events).1.hears id name who =
      (client.rebound id name who (.subscribe task given listener events)).getD (client.hears id name who) := by
  rcases newChannel_cases client given listener events with ⟨_, error, refused, _⟩ | ⟨_, text, channel, _, admitted, made⟩
  · rw [subscribe_of_refused task refused]
    simp [rebound, refused, Except.isOk, Except.toBool]
  · have moves := subscribe_of_new task admitted
    have grown : (client.subscribe task given listener events).1.channels.map (·.bindings) =
        client.channels.map (·.bindings) ++ [channel.bindings] := by
      rw [bindings_eq_of_profiles moves.profiles, List.map_append, List.map_singleton]
    rw [hears_of_grown grown]
    split
    next inside =>
      rw [rebound, if_neg fun all => Nat.ne_of_lt inside all.1]
      rfl
    next outside =>
      rw [hears_of_missing (Nat.le_of_not_lt outside), rebound]
      by_cases new : id = client.channels.length
      · subst new
        have accepted : (client.newChannel given listener events).isOk = true := by
          simp [admitted, Except.isOk, Except.toBool]
        rw [Nat.sub_self, List.getElem?_cons_zero, Option.any_some, made.bindings name]
        simp only [accepted, List.contains_iff_mem, true_and, and_true]
        by_cases among : some name ∈ events
        · cases listener with
          | none => simp [among]
          | some known => by_cases same : who = known <;> simp [among, same, eq_comm]
        · simp [among]
      · have beyond : [channel.bindings][id - client.channels.length]? = none :=
          List.getElem?_eq_none (Nat.sub_pos_of_lt (Nat.lt_of_le_of_ne (Nat.le_of_not_lt outside) (Ne.symm new)))
        rw [beyond, if_neg fun all => new all.1]
        rfl

/-- What neither binds nor unbinds nor subscribes lets the same listeners hear: a channel that it makes has none. -/
theorem step_hears_of_other {event : Event} (other : event.rebinds = false)
    (unsubscribing : ∀ task given listener events, event ≠ .subscribe task given listener events) :
    (client.step event).hears id name who = client.hears id name who := by
  obtain ⟨made, grown, fresh⟩ := step_bindings client other
  rw [hears_of_grown grown]
  split
  · rfl
  next outside =>
    rw [hears_of_missing (Nat.le_of_not_lt outside)]
    cases found : made[id - client.channels.length]? with
    | none => rfl
    | some bindings =>
      obtain ⟨channel, creates, rfl⟩ := fresh bindings (List.mem_of_getElem? found)
      cases creates with
      | make named =>
        obtain ⟨given, _, rfl⟩ := Channel.make_shape named
        rfl
      | subscribe => exact absurd rfl (unsubscribing _ _ _ _)

private theorem step_hears (keyed : client.Binds Bindings.Keyed) (event : Event) :
    (client.step event).hears id name who = (client.rebound id name who event).getD (client.hears id name who) := by
  cases event with
  | bind other event listener => exact bind_hears other event listener
  | unbind other event listener => exact unbind_hears keyed other event listener
  | subscribe task given listener events => exact subscribe_hears task given listener events
  | _ => exact step_hears_of_other rfl nofun

private theorem run_hears (keyed : client.Binds Bindings.Keyed) (events : List Event) :
    (client.run events).hears id name who = (rebindings id name who client events).getLastD (client.hears id name who) := by
  induction events generalizing client with
  | nil => rfl
  | cons event rest ih =>
    rw [run_cons, ih ((step_effect client event).binds Bindings.Keyed.lasting keyed), step_hears keyed, rebindings]
    cases client.rebound id name who event with
    | none => rfl
    | some bound => simp only [Option.toList_some, List.singleton_append, List.getLastD_cons, Option.getD_some]

private theorem fit_of_rebound {event : Event} (bound : client.rebound id name who event = some true) :
    ¬Envelope.Unfit (some name) := by
  intro unfit
  cases event with
  | bind other event listener =>
    simp only [rebound] at bound
    split at bound
    next all =>
      obtain ⟨_, rfl, _, allowed⟩ := all
      obtain ⟨channel, _, taken⟩ := (Option.any_eq_true _ _).mp allowed
      obtain ⟨error, _, refused, _⟩ := Channel.rebind_of_unfit channel (.inl unfit : _ ∨ listener = none)
      simp only [refused] at taken
      contradiction
    · contradiction
  | unbind other event listener =>
    simp only [rebound] at bound
    split at bound <;> contradiction
  | subscribe task given listener events =>
    simp only [rebound] at bound
    split at bound
    next all =>
      obtain ⟨_, known, member, admitted⟩ := all
      rcases newChannel_cases client given listener events with ⟨_, error, refused, _⟩ | ⟨admits, _⟩
      · rw [refused] at admitted
        contradiction
      · exact admits (.unfit known (List.contains_iff_mem.mp member) unfit)
    · contradiction
  | _ => contradiction

private theorem fit_of_rebindings (events : List Event) (bound : true ∈ rebindings id name who client events) :
    ¬Envelope.Unfit (some name) := by
  induction events generalizing client with
  | nil => contradiction
  | cons event rest ih =>
    rcases List.mem_append.mp bound with now | later
    · exact fit_of_rebound (Option.mem_toList.mp now)
    · exact ih later

/-- A request to bind or to unbind that is refused changes nothing. -/
theorem change_of_refused {channel : Channel} {error : Error} (update : Channel → Except Error Channel)
    (found : client.channels[id]? = some channel) (refused : update channel = .error error) :
    client.change id update = client := by
  simp only [change, found, refused]

/-- Over every run, the listeners of an event on a channel are those for whom the last request to bind or to unbind that
succeeded was one to bind, each of them once. Such a request fails exactly if the event has no name or a reserved one or
there is no listener, or else if the channel has ended, and then changes nothing; nothing else changes what is bound. -/
theorem bound_is_last_rebinding (url : Text) (transport : Transport) (events : List Event) (id : ChannelId)
    (channel : Channel) (found : ((initial url transport).run events).channels[id]? = some channel) :
    let client := (initial url transport).run events
    (∀ name, (channel.bindings.listenersFor name).Nodup ∧ ∀ who, who ∈ channel.bindings.listenersFor name ↔
      (rebindings id name who (initial url transport) events).getLastD false = true) ∧
    (∀ event listener, Envelope.Unfit event ∨ listener = none → ∃ error, error.kind = .invalidArgument ∧
      channel.bind event listener = .error error ∧ channel.unbind event listener = .error error) ∧
    (∀ name who, ¬Envelope.Unfit (some name) → channel.phase = .ended → ∃ error, error.kind = .illegalState ∧
      channel.bind (some name) (some who) = .error error ∧ channel.unbind (some name) (some who) = .error error) ∧
    (∀ name who, ¬Envelope.Unfit (some name) → channel.phase ≠ .ended →
      channel.bind (some name) (some who) = .ok { channel with bindings := channel.bindings.add name who } ∧
      channel.unbind (some name) (some who) = .ok { channel with bindings := channel.bindings.remove name who }) ∧
    (∀ event listener error,
      (channel.bind event listener = .error error → client.step (.bind id event listener) = client) ∧
      (channel.unbind event listener = .error error → client.step (.unbind id event listener) = client)) ∧
    (∀ event, event.rebinds = false →
      ∃ after, (client.step event).channels[id]? = some after ∧ after.bindings = channel.bindings) ∧
    ∀ name, channel.bindings.listenersFor name ≠ [] → ¬Envelope.Unfit (some name) := by
  intro client
  have distinct : client.Distinct := run_binds Bindings.Distinct.lasting (initial_binds url transport) events
  have last (name : Text) (who : Listener) : who ∈ channel.bindings.listenersFor name ↔
      (rebindings id name who (initial url transport) events).getLastD false = true := by
    have nothing : (initial url transport).hears id name who = false := rfl
    rw [← List.contains_iff_mem, ← hears_of_found found, run_hears (initial_binds url transport) events, nothing]
  refine ⟨fun name => ⟨(distinct _ (List.mem_map_of_mem (List.mem_of_getElem? found))).listenersFor name, last name⟩,
    fun event listener unfit => Channel.rebind_of_unfit channel unfit,
    fun name who fit ended => Channel.rebind_of_ended fit ended who,
    fun name who fit live => Channel.rebind_of_fit fit live who,
    fun event listener error =>
      ⟨change_of_refused (·.bind event listener) found, change_of_refused (·.unbind event listener) found⟩, ?_, ?_⟩
  · intro event other
    obtain ⟨made, grown, _⟩ := step_bindings client other
    have before : (client.channels.map (·.bindings))[id]? = some channel.bindings := by rw [List.getElem?_map, found]; rfl
    have after : ((client.step event).channels.map (·.bindings))[id]? = some channel.bindings := by
      rw [grown, List.getElem?_append_left (List.getElem?_eq_some_iff.mp before).choose, before]
    rw [List.getElem?_map] at after
    exact Option.map_eq_some_iff.mp after
  · intro name heard
    obtain ⟨who, member⟩ := List.exists_mem_of_ne_nil _ heard
    have bound := (last name who).mp member
    rw [List.getLastD_eq_getLast?] at bound
    cases ending : (rebindings id name who (initial url transport) events).getLast? with
    | none => rw [ending] at bound; contradiction
    | some ever =>
      rw [ending, Option.getD_some] at bound
      exact fit_of_rebindings events (bound ▸ List.mem_of_getLast? ending)

/-- A listener that is bound with the subscription, unbound and bound again, before the channel ends. -/
def boundAgain : List Event :=
  [.subscribe .application (some "feed") (some "ada") [some "price"], .unbind 0 (some "price") (some "ada"),
    .bind 0 (some "price") (some "ada"), .bind 0 (some "price") none, .move 0 .ended, .unbind 0 (some "price") (some "ada")]

theorem bound_is_last_rebinding_again :
    ∃ channel, ((initial "url" .absent).run boundAgain).channels[0]? = some channel ∧ channel.phase = .ended ∧
      rebindings 0 "price" "ada" (initial "url" .absent) boundAgain = [true, false, true] ∧
      ("ada" : Text) ∈ channel.bindings.listenersFor "price" := by
  let channel : Channel :=
    { name := "feed", phase := .ended, lifecycle := some "ada", bindings := ⟨[("price", ["ada"])]⟩ }
  have found : ((initial "url" .absent).run boundAgain).channels[0]? = some channel := by decide +kernel
  have bindings : rebindings 0 "price" "ada" (initial "url" .absent) boundAgain = [true, false, true] := by decide +kernel
  obtain ⟨last, _⟩ := bound_is_last_rebinding "url" .absent boundAgain 0 channel found
  refine ⟨channel, found, rfl, bindings, ((last "price").2 "ada").mpr ?_⟩
  rw [bindings]
  rfl

end Client
end Pubsub
