import Pubsub.Proofs.Footprint

/-! Every name belongs to one family. Which family that is, is told by prefixes, and which names a family refuses,
by patterns; the two agree on all names. -/

namespace Pubsub
namespace Family
variable {name text : Text}

private theorem applies_beginning : (Pattern.beginning text).applies name = true ↔ text <+: name := by
  unfold Pattern.applies Pattern.beginning
  by_cases begun : text <+: name <;> simp [Pattern.match?, begun]

private theorem applies_notBeginning : (Pattern.notBeginning text).applies name = true ↔ ¬text <+: name := by
  unfold Pattern.applies Pattern.notBeginning
  by_cases begun : text <+: name <;> simp [Pattern.match?, begun]

/-- No name begins in both ways. -/
theorem prefixes_apart (personal : personalPrefix <+: name) : ¬presencePrefix <+: name := by
  intro presence
  have nested : personalPrefix <+: presencePrefix := List.prefix_of_prefix_length_le personal presence (by decide)
  exact absurd nested (by decide)

private theorem ofName_personal_iff : ofName name = .personal ↔ personalPrefix <+: name := by
  rw [← List.isPrefixOf_iff_prefix]
  unfold ofName
  split
  next begun => simp [begun]
  next other => split <;> simp [other]

private theorem ofName_presence_iff : ofName name = .presence ↔ presencePrefix <+: name := by
  unfold ofName
  split
  next begun => simp [prefixes_apart (List.isPrefixOf_iff_prefix.mp begun)]
  next other =>
    rw [← List.isPrefixOf_iff_prefix]
    split <;> simp_all

theorem ofName_general_iff : ofName name = .general ↔ ¬personalPrefix <+: name ∧ ¬presencePrefix <+: name := by
  rw [← ofName_personal_iff, ← ofName_presence_iff]
  cases ofName name <;> decide

theorem restricted_iff : (ofName name).restricted = true ↔ personalPrefix <+: name ∨ presencePrefix <+: name := by
  rw [← ofName_personal_iff, ← ofName_presence_iff]
  cases ofName name <;> decide

private theorem unrestricted_iff : (ofName name).restricted = false ↔ ofName name = .general := by
  cases ofName name <;> decide

/-- A family refuses the names of the others. -/
theorem refuses_iff (family : Family) : family.refusals.any (·.applies name) = true ↔ family ≠ ofName name := by
  cases family with
  | general =>
    have other : (ofName name).restricted = true ↔ general ≠ ofName name := by cases ofName name <;> decide
    rw [← other, restricted_iff]
    simp [refusals, applies_beginning]
  | personal =>
    rw [ne_comm, ne_eq, ofName_personal_iff]
    simp [refusals, applies_notBeginning]
  | presence =>
    rw [ne_comm, ne_eq, ofName_presence_iff]
    simp [refusals, applies_notBeginning]

theorem validate_of_named (family : Family) (named : name ≠ []) :
    family.validate (some name) = if family = ofName name then .ok name else .error (.refusedName name family) := by
  have refuses : family.refusals.any (·.applies name) = true ↔ family ≠ ofName name := refuses_iff family
  cases name with
  | nil => contradiction
  | cons first rest =>
    by_cases own : family = ofName (first :: rest)
    · rw [if_pos own]
      exact if_neg fun refused => refuses.mp refused own
    · rw [if_neg own]
      exact if_pos (refuses.mpr own)

/-- A name that is there and is not restricted is one of the general family. -/
theorem validate_of_unrestricted (named : name ≠ []) (free : (ofName name).restricted = false) :
    general.validate (some name) = .ok name := by
  rw [validate_of_named general named, if_pos (unrestricted_iff.mp free).symm]

end Family

/-- What is wrong with a binding is not the channel's name. -/
theorem Channel.checkBinding_unrestricted (channel : Channel) (event : Option Text) (listener : Option Listener)
    (name : Text) : channel.checkBinding event listener ≠ .error (.restrictedName name) := by
  unfold checkBinding
  split
  · nofun
  · nofun
  · nofun
  · split
    · nofun
    · split <;> nofun

private theorem Channel.bindAll_unrestricted (channel : Channel) (listener : Listener) (events : List (Option Text))
    (name : Text) :
    channel.bindAll listener events ≠ .error (.restrictedName name) := by
  induction events generalizing channel with
  | nil => nofun
  | cons event rest ih =>
    intro failed
    cases checked : channel.checkBinding event (some listener) with
    | error error =>
      simp only [bindAll, Channel.bind, checked, Except.map, Bind.bind, Except.bind, Except.error.injEq] at failed
      exact channel.checkBinding_unrestricted event (some listener) name (failed ▸ checked)
    | ok pair =>
      simp only [bindAll, Channel.bind, checked, Except.map, Bind.bind, Except.bind] at failed
      exact ih _ failed

namespace Client
open Family (ofName)
variable (client : Client) {name : Text} (listener : Option Listener) (events : List (Option Text))

private theorem newChannel_of_restricted (restricted : (ofName name).restricted = true) :
    client.newChannel (some name) listener events = .error (.restrictedName name) := by
  simp only [newChannel, Option.getD_some, if_pos restricted]

private theorem newChannel_of_unrestricted (named : name ≠ []) (free : (ofName name).restricted = false) :
    client.newChannel (some name) listener events ≠ .error (.restrictedName name) := by
  have made : Channel.make (some name) .general = .ok { name } := by
    rw [Channel.make, Family.validate_of_unrestricted named free]
    rfl
  intro refused
  simp only [newChannel, Option.getD_some, free, Bool.false_eq_true, if_false, made, Bind.bind, Except.bind] at refused
  split at refused
  · cases refused
  · cases listener with
    | none => contradiction
    | some who => exact Channel.bindAll_unrestricted _ who events name refused

end Client

namespace Family

/-- Every name but the empty one has one family that accepts it, and as it is: the family that is told by its prefix.
The others refuse it. So a client refuses to subscribe to a name as restricted exactly if it could not make the channel,
since the general family refuses the name. A missing or empty name is refused by all. -/
theorem one_family_for_each_name (name : Text) :
    (name ≠ [] →
      (∀ family accepted, family.validate (some name) = .ok accepted ↔ family = ofName name ∧ accepted = name) ∧
      (∀ family, family ≠ ofName name → family.validate (some name) = .error (.refusedName name family)) ∧
      ∀ (client : Client) (task : Task) (listener : Option Listener) (events : List (Option Text)),
        ((ofName name).restricted = true →
          client.subscribe task (some name) listener events = (client, .done (.error (.restrictedName name))) ∧
          Channel.make (some name) .general = .error (.refusedName name .general)) ∧
        ((ofName name).restricted = false →
          client.newChannel (some name) listener events ≠ .error (.restrictedName name) ∧
          Channel.make (some name) .general = .ok { name })) ∧
    (∀ family : Family, family.validate none = .error (.emptyName family) ∧
      family.validate (some []) = .error (.emptyName family)) ∧
    ∀ family, (Error.refusedName name family).kind = .invalidArgument ∧ (Error.emptyName family).kind = .invalidArgument := by
  refine ⟨fun named => ⟨fun family accepted => ?_, fun family other => ?_, fun client task listener events => ⟨?_, ?_⟩⟩,
    fun family => ⟨rfl, rfl⟩, fun family => ⟨rfl, rfl⟩⟩
  · rw [validate_of_named family named]
    split
    next own => simp [own, eq_comm]
    next other => simp [other]
  · rw [validate_of_named family named, if_neg other]
  · intro restricted
    have other : general ≠ ofName name := fun own => by
      rw [← own] at restricted
      contradiction
    refine ⟨Client.subscribe_of_refused task (client.newChannel_of_restricted listener events restricted), ?_⟩
    rw [Channel.make, validate_of_named general named, if_neg other]
    rfl
  · intro free
    refine ⟨client.newChannel_of_unrestricted listener events named free, ?_⟩
    rw [Channel.make, validate_of_unrestricted named free]
    rfl

/-- A prefix counts at the very beginning of a name only, whatever lines the name has. -/
example : general.validate (some "\nprivate-a") = .ok "\nprivate-a" ∧
    personal.validate (some "private-presence-\n") = .ok "private-presence-\n" ∧
    presence.validate (some "private-presence-\n") = .error (.refusedName "private-presence-\n" .presence) :=
  ⟨rfl, rfl, rfl⟩

end Family
end Pubsub
