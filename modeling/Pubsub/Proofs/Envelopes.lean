import Pubsub.Frame.Envelope
import Pubsub.Proofs.Decoding
import Pubsub.Proofs.Documents

/-! Which texts are envelopes. An envelope is a document of one object in which the last members of four
names are of the right kind; whatever else the object holds, and however it is written, is of no account. -/

namespace Pubsub

namespace Members

def last? (members : Members) (name : Text) : Option Json := get? members.reverse name

private theorem get?_cons (member : Text × Json) (members : Members) (name : Text) :
    get? (member :: members) name = if member.1 = name then some member.2 else get? members name := by
  by_cases same : member.1 = name <;> simp [get?, same]

private theorem get?_append (first second : Members) (name : Text) :
    get? (first ++ second) name = (get? first name).or (get? second name) := by
  simp [get?, List.find?_append, Option.map_or]

private theorem isSome_get? (members : Members) (name : Text) :
    (get? members name).isSome = members.any (·.1 == name) := by
  simp [get?, List.isSome_find?]

private theorem get?_replace (members : Members) (name other : Text) (value : Json) :
    get? (members.map fun member => if member.1 == name then (name, value) else member) other =
      if name = other then (get? members name).map fun _ => value else get? members other := by
  induction members with
  | nil => simp [get?]
  | cons member rest ih =>
    rw [List.map_cons, get?_cons, get?_cons, get?_cons, ih]
    by_cases own : member.1 = name
    · subst own
      by_cases asked : member.1 = other <;> simp [asked]
    · by_cases asked : name = other
      · simp [own, ← asked]
      · simp [own, asked]

private theorem get?_put (members : Members) (name other : Text) (value : Json) :
    get? (members.put name value) other = if name = other then some value else get? members other := by
  unfold put
  split
  next listed =>
    rw [← isSome_get?] at listed
    obtain ⟨old, found⟩ := Option.isSome_iff_exists.mp listed
    rw [get?_replace, found]
    rfl
  next fresh =>
    rw [← isSome_get?, Option.not_isSome_iff_eq_none] at fresh
    rw [get?_append, get?_cons]
    split
    next same =>
      rw [← same, fresh]
      rfl
    · simp [get?]

/-- Of several members of one name the last one counts. -/
theorem get?_ofList (written : Members) (name : Text) : get? (ofList written) name = written.last? name := by
  have kept (members : Members) :
      get? (written.foldl (fun kept member => kept.put member.1 member.2) members) name =
        (get? written.reverse name).or (get? members name) := by
    induction written generalizing members with
    | nil => simp [get?]
    | cons member rest ih =>
      rw [List.foldl_cons, ih, get?_put, List.reverse_cons, get?_append, Option.or_assoc, get?_cons]
      split <;> simp [get?]
  exact (kept []).trans Option.or_none

theorem last?_around (earlier later : Members) (own name : Text) (found : Json) :
    last? (earlier ++ (own, found) :: later) name =
      (later.last? name).or (if own = name then some found else earlier.last? name) := by
  simp [last?, get?_append, get?_cons]

end Members

namespace Document

theorem not_scalar_object {bound : Nat} {text : Text} {members : Members} :
    ¬SpellsScalar bound text (.object members) := by
  intro spelled
  cases spelled with
  | word known => simp [words] at known
  | number spelled => cases spelled

/-- The documents that are objects, and the members that are kept of those that are written. -/
theorem spellsDocument_object_iff {text : Text} {members : Members} :
    SpellsDocument text (.object members) ↔ ∃ written, SpellsObject text written ∧ members = Members.ofList written := by
  constructor
  · rintro ⟨before, used, after, nothing, ⟨bound, depth, spelled⟩, empty, rfl⟩
    cases depth with
    | zero => exact absurd spelled not_scalar_object
    | succ depth =>
      cases spelled with
      | scalar spelled => exact absurd spelled not_scalar_object
      | object listed => exact ⟨_, ⟨before, _, after, nothing, empty, ⟨bound, depth, listed⟩, by simp⟩, rfl⟩
  · rintro ⟨written, ⟨before, inner, after, nothing, empty, ⟨bound, depth, listed⟩, rfl⟩, rfl⟩
    exact ⟨before, _, after, nothing, ⟨bound, depth + 1, .object listed⟩, empty, by simp⟩

/-- A text within the limits of the reader that is no document is refused for what it is. -/
theorem parse_malformed {depth : Nat} {text : Text} (within : ¬Beyond depth text) (none : ∀ found, ¬SpellsDocument text found) :
    ∃ problem position line column, parse depth text = .error (.malformed problem position line column) := by
  cases parsed : read depth text with
  | ok found => exact absurd ((read_eq_ok_iff within).mp parsed) (none found)
  | error stop =>
    cases stop with
    | malformed problem rest =>
      unfold parse
      rw [parsed]
      exact ⟨_, _, _, _, rfl⟩
    | tooManyDigits | tooDeep => exact absurd (beyond_of_read parsed rfl) within

theorem parse_spelled {depth : Nat} {text : Text} {found : Json} (within : ¬Beyond depth text) (spelled : SpellsDocument text found) :
    parse depth text = .ok found := by
  unfold parse
  rw [(read_eq_ok_iff within).mpr spelled]

theorem parse_beyond {depth : Nat} {text : Text} (beyond : Beyond depth text) : ∃ refusal, parse depth text = .error refusal := by
  obtain ⟨stop, failed⟩ := read_beyond beyond
  unfold parse
  rw [failed]
  cases stop <;> exact ⟨_, rfl⟩

end Document

namespace Envelope
open Document (Beyond SpellsDocument SpellsObject SpellsWithin digitLimit)

def names : List Text := ["event", "data", "id", "channel"]

/-- Whether a member of the envelope may have this value: null and texts anywhere, an object as the data. -/
def fits (name : Text) : Json → Bool
  | .null | .text _ => true
  | .object _ => name == "data"
  | _ => false

def misfit (written : Members) (name : Text) : Option Json := (written.last? name).filter fun value => !fits name value

def offender (written : Members) : Option (Text × Json) :=
  names.findSome? fun name => (misfit written name).map (name, ·)

def textOf : Option Json → Option Text
  | some (.text value) => some value
  | _ => none

def payloadOf : Option Json → Payload
  | some (.text value) => .text value
  | some (.object members) => .object members
  | _ => .absent

def ofWritten (written : Members) : Envelope where
  event := textOf (written.last? "event")
  data := payloadOf (written.last? "data")
  id := textOf (written.last? "id")
  channel := textOf (written.last? "channel")

def taken {α : Type} (written : Members) (name content : Text) (value : α) : Except Error α :=
  match misfit written name with
  | none => .ok value
  | some wrong => .error (.undecodable (.field name wrong.kindName content))

section
variable {members written : Members} (same : ∀ name, members.get? name = written.last? name)
include same

private theorem field_eq {name : Text} (other : name ≠ "data") (content : Text) :
    field members name content = taken written name content (textOf (written.last? name)) := by
  unfold field taken misfit
  rw [same]
  cases written.last? name with
  | none => rfl
  | some value => cases value <;> simp [fits, textOf, other, Option.filter]

private theorem payload_eq (content : Text) :
    payload members content = taken written "data" content (payloadOf (written.last? "data")) := by
  unfold payload field taken misfit
  rw [same]
  cases written.last? "data" with
  | none => rfl
  | some value => cases value <;> simp [fits, payloadOf, Option.filter, Except.map]

/-- The members are checked in their order, and the first offender is named. -/
theorem ofMembers_eq (content : Text) :
    ofMembers members content =
      match offender written with
      | none => .ok (ofWritten written)
      | some (name, value) => .error (.undecodable (.field name value.kindName content)) := by
  unfold ofMembers offender names
  rw [field_eq same (by decide), payload_eq same, field_eq same (by decide), field_eq same (by decide)]
  unfold taken
  simp only [List.findSome?_cons, List.findSome?_nil]
  cases misfit written "event" with
  | some => rfl
  | none =>
  cases misfit written "data" with
  | some => rfl
  | none =>
  cases misfit written "id" with
  | some => rfl
  | none => cases misfit written "channel" <;> rfl

end

private theorem offender_none_iff {written : Members} :
    offender written = none ↔ ∀ name ∈ names, ∀ value ∈ written.last? name, fits name value = true := by
  simp [offender, misfit, List.findSome?_eq_none_iff, Option.filter_eq_none_iff]

theorem offender_of_misfits {first second : Members} (same : ∀ name ∈ names, misfit first name = misfit second name) :
    offender first = offender second := by
  unfold offender
  generalize names = listed at same ⊢
  induction listed with
  | nil => rfl
  | cons name rest ih =>
    obtain ⟨own, later⟩ := List.forall_mem_cons.mp same
    rw [List.findSome?_cons, List.findSome?_cons, own, ih later]

/-- What becomes of an object depends on the last members of the four names. -/
theorem offender_congr {first second : Members} (same : ∀ name ∈ names, first.last? name = second.last? name) :
    offender first = offender second :=
  offender_of_misfits fun name listed => by rw [misfit, misfit, same name listed]

private theorem ofWritten_congr {first second : Members} (same : ∀ name ∈ names, first.last? name = second.last? name) :
    ofWritten first = ofWritten second := by
  have last (name : Text) (listed : name ∈ names) : first.last? name = second.last? name := same name listed
  unfold ofWritten
  rw [last "event" (by decide), last "data" (by decide), last "id" (by decide), last "channel" (by decide)]

theorem ofText_object {depth : Nat} {text : Text} {written : Members} (within : ¬Beyond depth text) (spelled : SpellsObject text written) :
    ofText depth text =
      match offender written with
      | none => .ok (ofWritten written)
      | some (name, value) => .error (.undecodable (.field name value.kindName text)) := by
  have parsed := Document.parse_spelled within (Document.spellsDocument_object_iff.mpr ⟨written, spelled, rfl⟩)
  rw [← ofMembers_eq (Members.get?_ofList written)]
  simp [ofText, document, parsed, Bind.bind, Except.bind]

private theorem ofText_other {depth : Nat} {text : Text} {value : Json} (within : ¬Beyond depth text)
    (spelled : SpellsDocument text value)
    (other : ∀ members, value ≠ .object members) :
    ofText depth text = .error (.undecodable (.envelopeKind value.kindName text)) := by
  have parsed := Document.parse_spelled within spelled
  simp only [ofText, document, parsed, Bind.bind, Except.bind]

private theorem ofText_malformed {depth : Nat} {text : Text} (within : ¬Beyond depth text)
    (none : ∀ value, ¬SpellsDocument text value) :
    ∃ problem position line column,
      ofText depth text = .error (.undecodable (.envelope (.malformed problem position line column) text)) := by
  obtain ⟨problem, position, line, column, failed⟩ := Document.parse_malformed within none
  refine ⟨problem, position, line, column, ?_⟩
  simp [ofText, document, failed, Bind.bind, Except.bind]

private theorem ofText_beyond {depth : Nat} {text : Text} (beyond : Beyond depth text) :
    ∃ error, ofText depth text = .error error := by
  obtain ⟨refusal, failed⟩ := Document.parse_beyond beyond
  cases refusal <;> simp [ofText, document, failed, Bind.bind, Except.bind]

/-- Only an object with fitting members is accepted. -/
theorem accepted_written {depth : Nat} {text : Text} {envelope : Envelope} (within : ¬Beyond depth text)
    (accepted : ofText depth text = .ok envelope) :
    ∃ written, SpellsObject text written ∧ offender written = none ∧ envelope = ofWritten written := by
  have spelled : ∃ members, SpellsDocument text (.object members) := by
    apply Classical.byContradiction
    intro none
    by_cases document : ∃ value, SpellsDocument text value
    · obtain ⟨value, spelled⟩ := document
      have other : ∀ members, value ≠ .object members := fun members same => none ⟨members, same ▸ spelled⟩
      rw [ofText_other within spelled other] at accepted
      contradiction
    · obtain ⟨_, _, _, _, failed⟩ := ofText_malformed within fun value spelled => document ⟨value, spelled⟩
      rw [failed] at accepted
      contradiction
  obtain ⟨members, spelled⟩ := spelled
  obtain ⟨written, spelled, -⟩ := Document.spellsDocument_object_iff.mp spelled
  rw [ofText_object within spelled] at accepted
  split at accepted
  next fitting =>
    cases accepted
    exact ⟨written, spelled, fitting, rfl⟩
  · contradiction

/-- Which texts are envelopes, and what becomes of those that are not. -/
theorem ofFrame_text_exact (depth : Nat) (room : Room) (text : Text) :
    (¬Beyond depth text →
      (∀ envelope, ofFrame depth (.text text room) = .ok envelope ↔
        ∃ written, SpellsObject text written ∧ (∀ name ∈ names, ∀ value ∈ written.last? name, fits name value = true) ∧
          envelope = ofWritten written) ∧
      (∀ written name value, SpellsObject text written → offender written = some (name, value) →
        ofFrame depth (.text text room) = .error (.undecodable (.field name value.kindName text))) ∧
      (∀ value, SpellsDocument text value → (∀ members, value ≠ .object members) →
        ofFrame depth (.text text room) = .error (.undecodable (.envelopeKind value.kindName text))) ∧
      ((∀ value, ¬SpellsDocument text value) → ∃ problem position line column,
        ofFrame depth (.text text room) = .error (.undecodable (.envelope (.malformed problem position line column) text))) ∧
      ∀ other first second, ¬Beyond depth other → SpellsObject text first → SpellsObject other second →
        (∀ name ∈ names, first.last? name = second.last? name) →
        ∀ envelope, ofFrame depth (.text text room) = .ok envelope ↔ ofFrame depth (.text other room) = .ok envelope) ∧
    (Beyond depth text → ∃ error, ofFrame depth (.text text room) = .error error ∧ error.Decoding) ∧
    ∀ value, SpellsWithin digitLimit depth text value → ¬Beyond depth text := by
  refine ⟨fun within => ⟨fun envelope => ?_, ?_, ?_, ofText_malformed within, ?_⟩, fun beyond => ?_,
    fun value spelled => ?_⟩
  · constructor
    · intro accepted
      obtain ⟨written, spelled, fitting, same⟩ := accepted_written within accepted
      exact ⟨written, spelled, offender_none_iff.mp fitting, same⟩
    · rintro ⟨written, spelled, fitting, rfl⟩
      exact (ofText_object within spelled).trans (by rw [offender_none_iff.mpr fitting])
  · intro written name value spelled offends
    exact (ofText_object within spelled).trans (by rw [offends])
  · exact fun value spelled other => ofText_other within spelled other
  · intro other first second bounded spelled respelled same envelope
    show ofText depth text = _ ↔ ofText depth other = _
    rw [ofText_object within spelled, ofText_object bounded respelled, offender_congr same, ofWritten_congr same]
    cases offender second <;> simp
  · obtain ⟨error, failed⟩ := ofText_beyond beyond
    exact ⟨error, failed, ofText_error failed⟩
  · exact spelled.not_beyond

end Envelope
end Pubsub
