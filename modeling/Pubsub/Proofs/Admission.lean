import Pubsub.Proofs.Bindings
import Pubsub.Proofs.Families
import Pubsub.Proofs.Rollback

/-! Which subscriptions are refused. A refusal leaves no trace; any other subscription adds one channel with all of
its bindings, and what becomes of its request cannot take that back. -/

namespace Pubsub

/-- An event that no listener can be bound to. -/
inductive Envelope.Unfit : Option Text → Prop where
  | missing : Unfit none
  | empty : Unfit (some [])
  | reserved {event : Text} (reserved : Envelope.reservedPrefix <+: event) : Unfit (some event)

namespace Envelope

private theorem unfit_some {event : Text} : Unfit (some event) ↔ event = [] ∨ reservedPrefix <+: event := by
  refine ⟨?_, ?_⟩
  · rintro (_ | _ | reserved)
    · exact .inl rfl
    · exact .inr reserved
  · rintro (rfl | reserved)
    · exact .empty
    · exact .reserved reserved

end Envelope

namespace Channel
variable {channel : Channel} {event : Option Text} {listener : Option Listener}

/-- What is wrong with a binding itself is reported first, whatever the phase. -/
theorem checkBinding_of_unfit (channel : Channel) (unfit : Envelope.Unfit event ∨ listener = none) :
    ∃ error, channel.checkBinding event listener = .error error ∧ error.kind = .invalidArgument := by
  unfold checkBinding
  split
  · exact ⟨_, rfl, rfl⟩
  · exact ⟨_, rfl, rfl⟩
  · exact ⟨_, rfl, rfl⟩
  next name who named =>
    have reserved : Envelope.reservedPrefix <+: name :=
      (Envelope.unfit_some.mp (unfit.resolve_right nofun)).resolve_left named
    exact ⟨_, if_pos (List.isPrefixOf_iff_prefix.mpr reserved), rfl⟩

private theorem checkBinding_of_fit {name : Text} (fit : ¬Envelope.Unfit (some name)) (who : Listener) :
    channel.checkBinding (some name) (some who) =
      if channel.phase = .ended then .error (.bindingEnded channel.name) else .ok (name, who) := by
  rw [Envelope.unfit_some, not_or] at fit
  have unreserved : ¬Envelope.reservedPrefix.isPrefixOf name = true := fun reserved =>
    fit.2 (List.isPrefixOf_iff_prefix.mp reserved)
  cases name with
  | nil => exact absurd rfl fit.1
  | cons first rest => exact if_neg unreserved

/-- A binding that is in order is made, or taken back, unless the channel has ended. -/
theorem rebind_of_fit {name : Text} (fit : ¬Envelope.Unfit (some name)) (live : channel.phase ≠ .ended) (who : Listener) :
    channel.bind (some name) (some who) = .ok { channel with bindings := channel.bindings.add name who } ∧
      channel.unbind (some name) (some who) = .ok { channel with bindings := channel.bindings.remove name who } := by
  rw [Channel.bind, Channel.unbind, checkBinding_of_fit fit, if_neg live]
  exact ⟨rfl, rfl⟩

theorem rebind_of_ended {name : Text} (fit : ¬Envelope.Unfit (some name)) (ended : channel.phase = .ended) (who : Listener) :
    ∃ error, error.kind = .illegalState ∧ channel.bind (some name) (some who) = .error error ∧
      channel.unbind (some name) (some who) = .error error := by
  rw [Channel.bind, Channel.unbind, checkBinding_of_fit fit, if_pos ended]
  exact ⟨_, rfl, rfl, rfl⟩

theorem rebind_of_unfit (channel : Channel) (unfit : Envelope.Unfit event ∨ listener = none) :
    ∃ error, error.kind = .invalidArgument ∧ channel.bind event listener = .error error ∧
      channel.unbind event listener = .error error := by
  obtain ⟨error, refused, kind⟩ := checkBinding_of_unfit channel unfit
  rw [Channel.bind, Channel.unbind, refused]
  exact ⟨error, kind, rfl, rfl⟩

/-- A channel that has not ended takes the bindings to several events, or refuses all for the first that is unfit. -/
theorem bindAll_cases (channel : Channel) (live : channel.phase ≠ .ended) (who : Listener) (events : List (Option Text)) :
    ((∃ event ∈ events, Envelope.Unfit event) ∧
      ∃ error, channel.bindAll who events = .error error ∧ error.kind = .invalidArgument) ∨
    ∃ (names : List Text) (bound : Channel), events = names.map some ∧ (∀ event ∈ events, ¬Envelope.Unfit event) ∧
      channel.bindAll who events = .ok bound := by
  induction events generalizing channel with
  | nil => exact .inr ⟨[], channel, rfl, nofun, rfl⟩
  | cons event rest ih =>
    by_cases unfit : Envelope.Unfit event
    · obtain ⟨error, kind, refused, _⟩ := rebind_of_unfit channel (.inl unfit : _ ∨ some who = none)
      refine .inl ⟨⟨event, List.mem_cons_self, unfit⟩, error, ?_, kind⟩
      simp only [bindAll, refused, Bind.bind, Except.bind]
    · cases event with
      | none => exact absurd .missing unfit
      | some name =>
        have binds := (rebind_of_fit unfit live who).1
        have first : channel.bindAll who (some name :: rest) =
            bindAll { channel with bindings := channel.bindings.add name who } who rest := by
          simp only [bindAll, binds, Bind.bind, Except.bind]
        rw [first]
        rcases ih { channel with bindings := channel.bindings.add name who } live with
          ⟨⟨event, member, bad⟩, refused⟩ | ⟨names, bound, rfl, fit, ok⟩
        · exact .inl ⟨⟨event, List.mem_cons_of_mem _ member, bad⟩, refused⟩
        · exact .inr ⟨name :: names, bound, rfl, List.forall_mem_cons.mpr ⟨unfit, fit⟩, ok⟩

end Channel

namespace Client
variable {client : Client} {name : Option Text} {listener : Option Listener} {events : List (Option Text)}

/-- Why a client does not subscribe to a name. -/
inductive Refuses (client : Client) (name : Option Text) (listener : Option Listener) (events : List (Option Text)) :
    Prop where
  | missing (missing : name = none)
  | empty (empty : name = some [])
  | personal {given : Text} (named : name = some given) (restricted : Family.personalPrefix <+: given)
  | presence {given : Text} (named : name = some given) (restricted : Family.presencePrefix <+: given)
  | taken {id : ChannelId} (registered : id ∈ client.registered) (named : name = some (client.nameOf id))
  | unfit {who : Listener} {event : Option Text} (known : listener = some who) (member : event ∈ events)
      (unfit : Envelope.Unfit event)

/-- A channel as it is made for a subscription: nothing is known of it but its name and who listens to it. -/
structure Made (name : Text) (listener : Option Listener) (events : List (Option Text)) (channel : Channel) : Prop where
  name : channel.name = name
  family : channel.family = .general
  phase : channel.phase = .initial
  token : channel.token = none
  lifecycle : channel.lifecycle = listener
  bindings : ∀ event, channel.bindings.listenersFor event = if some event ∈ events then listener.toList else []

theorem Made.plain {name : Text} (events : List (Option Text)) : Made name none events { name } where
  name := rfl
  family := rfl
  phase := rfl
  token := rfl
  lifecycle := rfl
  bindings := fun _ => (ite_self []).symm

theorem Made.heard {given : Text} {who : Listener} {names : List Text} {channel : Channel}
    (bound : Channel.bindAll { name := given, lifecycle := some who } who (names.map some) = .ok channel) :
    Made given (some who) (names.map some) channel := by
  have shape := Channel.bindAll_shape bound
  have unbound (event : Text) : ({} : Bindings).listenersFor event = if event ∈ ([] : List Text) then [who] else [] := rfl
  have bindings := (Channel.bindAll_listenersFor unbound bound).1
  refine ⟨by rw [shape], by rw [shape], by rw [shape], by rw [shape], by rw [shape], fun event => ?_⟩
  rw [bindings event]
  simp

private theorem not_refuses {given : Text} (named : given ≠ []) (free : ¬(Family.ofName given).restricted = true)
    (new : client.lookup given = none)
    (fit : ∀ who, listener = some who → ∀ event ∈ events, ¬Envelope.Unfit event) :
    ¬client.Refuses (some given) listener events := by
  rw [Family.restricted_iff, not_or] at free
  rintro (_ | empty | ⟨same, restricted⟩ | ⟨same, restricted⟩ | ⟨registered, same⟩ | ⟨known, member, unfit⟩)
  · contradiction
  · exact named (Option.some.inj empty)
  · exact free.1 (Option.some.inj same ▸ restricted)
  · exact free.2 (Option.some.inj same ▸ restricted)
  · exact lookup_eq_none.mp new _ registered (Option.some.inj same).symm
  · exact fit _ known _ member unfit

/-- A channel is made for a subscription exactly if there is no reason against it. -/
theorem newChannel_cases (client : Client) (name : Option Text) (listener : Option Listener) (events : List (Option Text)) :
    (client.Refuses name listener events ∧
      ∃ error, client.newChannel name listener events = .error error ∧ error.kind = .invalidArgument) ∨
    ¬client.Refuses name listener events ∧
      ∃ given channel, name = some given ∧ client.newChannel name listener events = .ok channel ∧
        Made given listener events channel := by
  simp only [newChannel]
  split
  next restricted =>
    cases name with
    | none => contradiction
    | some given =>
      exact .inl ⟨(Family.restricted_iff.mp restricted).elim (.personal rfl) (.presence rfl), _, rfl, rfl⟩
  next free =>
    cases name with
    | none => exact .inl ⟨.missing rfl, by split <;> exact ⟨_, rfl, rfl⟩⟩
    | some given =>
      rw [Option.getD_some] at free ⊢
      cases found : client.lookup given with
      | some id =>
        have named : client.nameOf id = given := by simpa using List.find?_some found
        exact .inl ⟨.taken (lookup_mem found) (congrArg some named.symm), _, rfl, rfl⟩
      | none =>
        by_cases empty : given = []
        · subst empty
          exact .inl ⟨.empty rfl, _, rfl, rfl⟩
        have made : Channel.make (some given) .general = .ok { name := given } := by
          rw [Channel.make, Family.validate_of_unrestricted empty (Bool.not_eq_true _ ▸ free)]
          rfl
        rw [made]
        cases listener with
        | none =>
          refine .inr ⟨not_refuses empty free found fun who heard => ?_, given, _, rfl, rfl, .plain events⟩
          contradiction
        | some who =>
          have live : ({ name := given, lifecycle := some who } : Channel).phase ≠ .ended := by simp
          rcases Channel.bindAll_cases { name := given, lifecycle := some who } live who events with
            ⟨⟨event, member, unfit⟩, refused⟩ | ⟨names, bound, rfl, fit, ok⟩
          · exact .inl ⟨.unfit rfl member unfit, refused⟩
          · exact .inr ⟨not_refuses empty free found fun _ _ => fit, given, bound, rfl, ok, .heard ok⟩

private theorem requestChannel_of_live {id : ChannelId} {channel : Channel} {socket : Option SocketId}
    (found : client.channels[id]? = some channel) (known : client.lookup channel.name = some id)
    (live : channel.phase ≠ .ended) (target : client.target = .ok socket) (task : Task) (stage : Stage) :
    client.requestChannel task id stage = (client.asking task stage id channel socket, .suspended client.nextCall) := by
  apply requestChannel_cases (motive := fun result =>
    result = (client.asking task stage id channel socket, .suspended client.nextCall))
  · exact fun ended => absurd (ended channel found) live
  · intro other here unregistered
    obtain rfl := Option.some.inj (found.symm.trans here)
    exact absurd known unregistered
  · intro other next here _ _ same
    obtain rfl := Option.some.inj (found.symm.trans here)
    obtain rfl := Except.ok.inj (target.symm.trans same)
    rfl
  · exact fun _ _ _ _ _ refused => absurd (target.symm.trans refused) nofun

/-- A channel that has just been made is requested, without a token, as soon as it is registered. -/
theorem asking_of_made (client : Client) {given : Text} {channel : Channel} (made : Made given listener events channel) (task : Task)
    (stage : Stage) (socket : Option SocketId) :
    ∃ records, (client.register channel).asking task stage client.channels.length channel socket =
      { client with
        channels := client.channels ++ [{ channel with phase := .requested }]
        registered := client.registered ++ [client.channels.length]
        sent := client.sent ++ [⟨socket, .request client.channels.length (.subscribe given none)⟩]
        calls := client.calls ++ [(client.nextCall, ⟨task, stage⟩)]
        nextCall := client.nextCall + 1
        records } := by
  have found : (client.register channel).channels[client.channels.length]? = some channel := by
    simp [Client.register, log]
  have live : channel.phase ≠ .ended := by
    rw [made.phase]
    decide
  have moved := moveTo_of_live found (fun ended => absurd ended live) (show Phase.requested ≠ .subscribed by decide)
  have request : channel.request = .subscribe given none := by rw [Channel.request, made.name, made.token]
  have placed : (client.register channel).channels.set client.channels.length { channel with phase := .requested } =
      client.channels ++ [{ channel with phase := .requested }] := by
    simp [Client.register, log]
  refine ⟨((client.register channel).moveTo client.channels.length .requested).1.records, ?_⟩
  simp only [asking, moved, placed, request]
  rfl

private theorem subscribe_sending (registry : client.Registry) {given : Text} {channel : Channel}
    (admitted : client.newChannel name listener events = .ok channel) (made : Made given listener events channel)
    (sendable : client.canSend = true) (task : Task) :
    ∃ socket records, client.target = .ok socket ∧ client.subscribe task name listener events =
      ({ client with
          channels := client.channels ++ [{ channel with phase := .requested }]
          registered := client.registered ++ [client.channels.length]
          sent := client.sent ++ [⟨socket, .request client.channels.length (.subscribe given none)⟩]
          calls := client.calls ++ [(client.nextCall, ⟨task, .subscribing client.channels.length⟩)]
          nextCall := client.nextCall + 1
          records }, .suspended client.nextCall) := by
  let id := client.channels.length
  obtain ⟨initial, new⟩ := newChannel_new admitted
  obtain ⟨socket, target⟩ := target_of_canSend sendable
  have found : (client.register channel).channels[id]? = some channel := by simp [id, Client.register, log]
  have known : (client.register channel).lookup channel.name = some id := by
    refine (registry.register new).lookup_iff.mpr ⟨?_, nameOf_of_found found⟩
    simp [id, Client.register, log]
  have live : channel.phase ≠ .ended := by
    rw [initial]
    decide
  have requested := requestChannel_of_live found known live target task (.subscribing id)
  obtain ⟨records, asked⟩ := asking_of_made client made task (.subscribing id) socket
  refine ⟨socket, records, target, ?_⟩
  have able : (client.register channel).canSend = true := sendable
  simp only [subscribe, admitted, able, if_true, requested, id] at asked ⊢
  rw [asked]
  rfl

private theorem subscribe_unsent {channel : Channel} (admitted : client.newChannel name listener events = .ok channel)
    (unsendable : client.canSend = false) (task : Task) :
    ∃ records, client.subscribe task name listener events =
      ({ client with
          channels := client.channels ++ [channel]
          registered := client.registered ++ [client.channels.length]
          records }, .done (.ok (some client.channels.length))) := by
  have unable : ¬(client.register channel).canSend = true := fun able => Bool.false_ne_true (unsendable.symm.trans able)
  refine ⟨(client.register channel).records, ?_⟩
  simp only [subscribe, admitted, if_neg unable]
  rfl

private theorem resume_subscribing {call : CallId} {task : Task} {id : ChannelId}
    (held : client.call? call = some ⟨task, .subscribing id⟩) :
    client.resume call (.ok ()) = (client.drop call, .done (.ok (some id))) ∧
      ∀ error, client.resume call (.error error) = ((client.drop call).rollBack id, .done (.error error)) := by
  simp only [resume, held, implies_true, and_self]

/-- A subscription is refused exactly if there is a reason to, and leaves everything as it is. Any other one registers
one new channel, bound to all of the events, and asks for it without a token if frames can be sent. When that is sent
the channel is the result; when it fails so does the subscription, but the channel stays registered as it is by then,
unless it is requested still: then it goes back to the initial phase. -/
theorem subscribe_all_or_nothing (url : Text) (transport : Transport) (past : List Event) (task : Task)
    (name : Option Text) (listener : Option Listener) (events : List (Option Text)) :
    let client := (initial url transport).run past
    let id := client.channels.length
    let call := client.nextCall
    let result := client.subscribe task name listener events
    (client.Refuses name listener events ↔ ∃ error, result.2 = .done (.error error)) ∧
    (∀ error, result.2 = .done (.error error) → error.kind = .invalidArgument ∧ result.1 = client) ∧
    (¬client.Refuses name listener events → ∃ given channel, name = some given ∧ Made given listener events channel ∧
      (client.canSend = false → ∃ records, result =
        ({ client with channels := client.channels ++ [channel], registered := client.registered ++ [id], records },
          .done (.ok (some id)))) ∧
      (client.canSend = true → ∃ socket records, client.target = .ok socket ∧ result =
        ({ client with
            channels := client.channels ++ [{ channel with phase := .requested }]
            registered := client.registered ++ [id]
            sent := client.sent ++ [⟨socket, .request client.channels.length (.subscribe given none)⟩]
            calls := client.calls ++ [(call, ⟨task, .subscribing id⟩)]
            nextCall := call + 1
            records }, .suspended call))) ∧
    ∀ meanwhile, (result.1.run meanwhile).call? call = some ⟨task, .subscribing id⟩ →
      let after := result.1.run meanwhile
      after.resume call (.ok ()) = (after.drop call, .done (.ok (some id))) ∧
      ∀ error, ∃ rolled, after.resume call (.error error) = (rolled, .done (.error error)) ∧
        rolled.registered = after.registered ∧
        Resets (if after.phase? id = some .requested then [id] else []) (after.drop call) rolled := by
  intro client id call result
  have tidy : client.Tidy := (initial_tidy url transport).run past
  refine and_assoc.mp (and_assoc.mp ⟨?_, ?flight⟩)
  case flight =>
    intro meanwhile held after
    obtain ⟨sent, failed⟩ := resume_subscribing held
    have rolled := rollBack_resets (after.drop call) id
    obtain ⟨channels, records, same⟩ := rolled.rest
    exact ⟨sent, fun error => ⟨(after.drop call).rollBack id, failed error, by rw [same]; rfl, rolled⟩⟩
  rcases newChannel_cases client name listener events with
    ⟨refuses, error, refused, kind⟩ | ⟨admits, given, channel, rfl, admitted, made⟩
  · have unchanged : result = (client, .done (.error error)) := subscribe_of_refused task refused
    refine ⟨⟨⟨fun _ => ⟨error, by rw [unchanged]⟩, fun _ => refuses⟩, ?_⟩, fun admits => absurd refuses admits⟩
    rw [unchanged]
    rintro _ ⟨⟩
    exact ⟨kind, rfl⟩
  · have unsent := fun unable => subscribe_unsent admitted unable task
    have sending := fun able => subscribe_sending tidy.registry admitted made able task
    have accepted (error : Error) : result.2 ≠ .done (.error error) := by
      cases able : client.canSend with
      | false =>
        obtain ⟨records, same⟩ := unsent able
        simp only [result, same]
        nofun
      | true =>
        obtain ⟨socket, records, _, same⟩ := sending able
        simp only [result, same]
        nofun
    refine ⟨⟨⟨fun refuses => absurd refuses admits, ?_⟩, fun error failed => absurd failed (accepted error)⟩, fun _ => ?_⟩
    · rintro ⟨error, failed⟩
      exact absurd failed (accepted error)
    · exact ⟨given, channel, rfl, made, unsent, sending⟩

/-- A subscription on an established connection fails with its request, and its channel stays. -/
theorem subscribe_all_or_nothing_failed :
    let client := (initial "url" .connection).run connected
    let id := client.channels.length
    let subscribed := (client.subscribe .application (some "feed") (some "ada") [some "price", some "price"]).1
    let failed := (subscribed.resume client.nextCall (.error (.system "boom"))).1
    subscribed.call? client.nextCall = some ⟨.application, .subscribing id⟩ ∧ subscribed.phase? id = some .requested ∧
      failed.registered = [id] ∧ failed.phase? id = some .initial := by
  intro client id subscribed failed
  have flying : subscribed.call? client.nextCall = some ⟨.application, .subscribing id⟩ := by decide +kernel
  have requested : subscribed.phase? id = some .requested := by decide +kernel
  have registered : subscribed.registered = [id] := by decide +kernel
  obtain ⟨_, _, _, flight⟩ := subscribe_all_or_nothing "url" .connection connected .application (some "feed") (some "ada")
    [some "price", some "price"]
  obtain ⟨_, passed⟩ := flight [] flying
  obtain ⟨rolled, same, kept, resets⟩ := passed (.system "boom")
  have after : failed = rolled := congrArg Prod.fst same
  refine ⟨flying, requested, ?_, ?_⟩
  · rw [after, kept]
    exact registered
  · have taken : Resets [id] (subscribed.drop client.nextCall) rolled := by
      change Resets (if subscribed.phase? id = some .requested then [id] else []) _ _ at resets
      rwa [if_pos requested] at resets
    have before : (subscribed.drop client.nextCall).phase? id = some .requested := requested
    rw [after, taken.phase?, if_pos (List.mem_singleton_self id), before, Option.map_some]

end Client
end Pubsub
