import Pubsub.Client.Reading
import Pubsub.Proofs.RoundTrip

/-! The data of a control event may be an object or the text of one. A frame in which an object stands as
such, and one that has a string of the same text in its place, come to the same. -/

namespace Pubsub

namespace Document

theorem Lists.mono {α : Type} {first second : Text → α → Prop}
    (implies : ∀ {text value}, first text value → second text value)
    {inner : Text} {values : List α} (listed : Lists first inner values) : Lists second inner values := by
  cases listed with
  | none nothing => exact .none nothing
  | some lead passes own nothing => exact .some lead (passes.mono implies) (implies own) nothing

theorem Spells.deeper {bound depth : Nat} {text : Text} {value : Json} (spelled : Spells bound depth text value) :
    Spells bound (depth + 1) text value := by
  induction depth generalizing text value with
  | zero => exact .scalar spelled
  | succ depth ih =>
    cases spelled with
    | scalar spelled => exact .scalar spelled
    | list listed => exact .list (listed.mono ih)
    | object listed => exact .object (listed.mono (SpellsMember.mono ih))

theorem Spells.within {bound depth limit : Nat} {text : Text} {value : Json} (spelled : Spells bound depth text value)
    (more : depth ≤ limit) : Spells bound limit text value := by
  induction more with
  | refl => exact spelled
  | step _ ih => exact ih.deeper

section
variable {α : Type} {element : Text → α → Prop}

theorem Passes.append {first second : Text} {values more : List α} (head : Passes element first values)
    (tail : Passes element second more) : Passes element (first ++ second) (values ++ more) := by
  induction head with
  | nil => exact tail
  | cons own nothing empty _ ih =>
    rw [List.append_assoc]
    exact .cons own nothing empty ih

theorem Passes.split {passed : Text} {earlier later : List α} {value : α}
    (passes : Passes element passed (earlier ++ value :: later)) :
    ∃ before text after gap rest, Passes element before earlier ∧ element text value ∧ Blank after ∧ Blank gap ∧
      Passes element rest later ∧ passed = before ++ (text ++ after ++ .char ',' :: gap ++ rest) := by
  induction earlier generalizing passed with
  | nil =>
    cases passes with
    | cons own nothing empty tail => exact ⟨[], _, _, _, _, .nil, own, nothing, empty, tail, rfl⟩
  | cons first earlier ih =>
    cases passes with
    | cons own nothing empty tail =>
      obtain ⟨before, text, after, gap, rest, head, spelled, blank, bare, passes, rfl⟩ := ih tail
      exact ⟨_, text, after, gap, rest, .cons own nothing empty head, spelled, blank, bare, passes, by simp⟩

/-- What follows an element in its container: nothing, or a comma and further elements. -/
inductive Rest (element : Text → α → Prop) : Text → List α → Prop
  | done {blank : Text} (nothing : Blank blank) : Rest element blank []
  | more {blank inner : Text} {values : List α} (nothing : Blank blank) (listed : Lists element inner values)
    (any : values ≠ []) : Rest element (blank ++ .char ',' :: inner) values

private theorem Rest.pad {blank rest : Text} {values : List α} (nothing : Blank blank)
    (others : Rest element rest values) :
    Rest element (blank ++ rest) values := by
  have both {more : Text} (empty : Blank more) : Blank (blank ++ more) := fun point listed =>
    (List.mem_append.mp listed).elim (nothing point) (empty point)
  cases others with
  | done empty => exact .done (both empty)
  | more empty listed any =>
    rw [← List.append_assoc]
    exact .more (both empty) listed any

theorem Rest.mono {other : Text → α → Prop} (implies : ∀ {text value}, element text value → other text value)
    {rest : Text} {values : List α} (others : Rest element rest values) : Rest other rest values := by
  cases others with
  | done nothing => exact .done nothing
  | more nothing listed any => exact .more nothing (listed.mono implies) any

private theorem Lists.around {before passed text rest : Text} {earlier later : List α} {value : α} (lead : Blank before)
    (passes : Passes element passed earlier) (spelled : element text value) (others : Rest element rest later) :
    Lists element (before ++ passed ++ text ++ rest) (earlier ++ value :: later) := by
  cases others with
  | done nothing => exact .some lead passes spelled nothing
  | more nothing listed any =>
    cases listed with
    | none => contradiction
    | some gap more own empty =>
      have whole := Lists.some lead (passes.append (.cons spelled nothing gap more)) own empty
      simpa using whole

theorem Lists.split {inner : Text} {earlier later : List α} {value : α}
    (listed : Lists element inner (earlier ++ value :: later)) :
    ∃ before passed text rest, Blank before ∧ Passes element passed earlier ∧ element text value ∧
      Rest element rest later ∧ inner = before ++ passed ++ text ++ rest := by
  generalize same : earlier ++ value :: later = values at listed
  cases listed with
  | none => simp at same
  | @some before passed text after values last lead passes own nothing =>
    rcases List.eq_nil_or_concat later with rfl | ⟨others, final, rfl⟩
    · obtain ⟨rfl, ending⟩ := List.append_inj' same rfl
      obtain rfl := List.singleton_inj.mp ending
      exact ⟨before, passed, text, after, lead, passes, own, .done nothing, rfl⟩
    · have parted : (earlier ++ value :: others) ++ [final] = values ++ [last] := by simpa using same
      obtain ⟨rfl, ending⟩ := List.append_inj' parted rfl
      obtain rfl := List.singleton_inj.mp ending
      obtain ⟨first, used, blank, gap, rest, head, spelled, empty, bare, tail, rfl⟩ := passes.split
      refine ⟨before, first, used, blank ++ .char ',' :: (gap ++ rest ++ text ++ after), lead, head, spelled, ?_,
        by simp⟩
      exact List.concat_eq_append ▸ .more empty (.some bare tail own nothing) (by simp)

end

/-- An object but for the value of its last member of a name: what is written before and after that value, and
the members before and after that one. -/
inductive Hole (value : Text → Json → Prop) (name : Text) : Text → Text → Members → Members → Prop
  | mk {margin lead passed quoted blank gap rest foot : Text} {earlier later : Members} (empty : Blank margin)
    (indent : Blank lead) (passes : Passes (SpellsMember value) passed earlier) (named : SpellsText quoted name)
    (nothing : Blank blank) (bare : Blank gap) (others : Rest (SpellsMember value) rest later) (ends : Blank foot)
    (last : later.last? name = none) :
    Hole value name (margin ++ .char '{' :: (lead ++ passed ++ (quoted ++ blank ++ .char ':' :: gap)))
      (rest ++ .char '}' :: foot) earlier later

section
variable {value other : Text → Json → Prop} {name before after : Text} {earlier later : Members}

theorem Hole.last (hole : Hole value name before after earlier later) : later.last? name = none := by
  cases hole
  assumption

theorem Hole.mono (implies : ∀ {text found}, value text found → other text found)
    (hole : Hole value name before after earlier later) : Hole other name before after earlier later := by
  obtain ⟨empty, indent, passes, named, nothing, bare, others, ends, last⟩ := hole
  exact ⟨empty, indent, passes.mono (SpellsMember.mono implies), named, nothing, bare,
    others.mono (SpellsMember.mono implies), ends, last⟩

/-- White space around a value belongs to what is around it. -/
theorem Hole.pad {front back : Text} (hole : Hole value name before after earlier later) (empty : Blank front)
    (nothing : Blank back) : Hole value name (before ++ front) (back ++ after) earlier later := by
  obtain ⟨margin, indent, passes, named, blank, bare, others, ends, last⟩ := hole
  have wider := Hole.mk margin indent passes named blank
    (fun point listed => (List.mem_append.mp listed).elim (bare point) (empty point)) (others.pad nothing) ends last
  simpa using wider

/-- A value in the hole makes an object. -/
theorem Hole.fill {text : Text} {found : Json} (hole : Hole value name before after earlier later)
    (spelled : value text found) :
    ∃ margin inner foot, Blank margin ∧ Blank foot ∧
      Lists (SpellsMember value) inner (earlier ++ (name, found) :: later) ∧
      before ++ text ++ after = margin ++ .char '{' :: inner ++ .char '}' :: foot := by
  obtain ⟨empty, indent, passes, named, nothing, bare, others, ends, last⟩ := hole
  exact ⟨_, _, _, empty, ends, Lists.around indent passes (.mk named nothing bare spelled) others, by simp⟩

/-- Around the value that counts of a name, an object has a hole. -/
theorem exists_hole {margin inner foot : Text} {written : Members} {found : Json} (empty : Blank margin)
    (ends : Blank foot) (listed : Lists (SpellsMember value) inner written) (counts : written.last? name = some found) :
    ∃ before text after earlier later, Hole value name before after earlier later ∧ value text found ∧
      written = earlier ++ (name, found) :: later ∧
      margin ++ .char '{' :: inner ++ .char '}' :: foot = before ++ text ++ after := by
  obtain ⟨⟨own, _⟩, first, rfl⟩ := Option.map_eq_some_iff.mp counts
  obtain ⟨same, later, earlier, split, others⟩ := List.find?_eq_some_iff_append.mp first
  obtain rfl : own = name := beq_iff_eq.mp same
  obtain rfl := List.reverse_eq_iff.mp split
  rw [List.reverse_append, List.reverse_cons, List.append_assoc, List.singleton_append] at listed ⊢
  have last : Members.last? later.reverse own = none := by
    simpa [Members.last?, Members.get?, List.find?_eq_none] using others
  obtain ⟨lead, passed, text, rest, indent, passes, own, others, rfl⟩ := listed.split
  obtain ⟨named, nothing, bare, spelled⟩ := own
  exact ⟨_, _, _, _, _, .mk empty indent passes named nothing bare others ends last, spelled, rfl, by simp⟩

end
end Document

inductive Frame.Carries (room : Room) : Frame → Text → Prop
  | text (content : Text) : Carries room (.text content room) content
  | bytes {bytes : List UInt8} {content : Text} (decoded : Utf8.decode bytes = .ok content) :
    Carries room (.bytes bytes room) content

theorem Frame.Carries.room {room : Room} {frame : Frame} {content : Text} (carries : frame.Carries room content) :
    frame.room = room := by
  cases carries <;> rfl

theorem Frame.Carries.decoded {room : Room} {frame : Frame} {content : Text} (carries : frame.Carries room content)
    (depth : Nat) : Envelope.ofFrame depth frame = Envelope.ofText depth content := by
  cases carries with
  | text => rfl
  | bytes decoded => simp only [Envelope.ofFrame, decoded]

private theorem Payload.members_of_parse {depth : Nat} {content : Text} {members : Members}
    (accepted : Document.parse depth content = .ok (.object members)) :
    (Payload.text content).members depth = .ok members := by
  simp [Payload.members, Envelope.document, accepted, Bind.bind, Except.bind]

/-- A document that is read is taken for the same envelope where there is more room. -/
theorem Envelope.ofText_mono {here there : Nat} {content : Text} {found : Json}
    (parsed : Document.parse here content = .ok found) (more : here ≤ there) : ofText there content = ofText here content := by
  simp only [ofText, document, parsed, Document.parse_mono parsed more]

namespace Envelope
open Document (Beyond Blank Hole Lists Spells SpellsMember SpellsObject SpellsText SpellsWithin digitLimit)

private def withData (earlier later : Members) (value : Json) : Members :=
  earlier ++ (("data" : Text), value) :: later

section
variable {earlier later : Members} {one two : Json} (last : later.last? "data" = none)
include last

private theorem last?_withData : (withData earlier later one).last? "data" = some one := by
  rw [withData, Members.last?_around, last, if_pos rfl, Option.none_or]

private theorem misfit_withData (fitting : fits "data" one = true) (fit : fits "data" two = true) (name : Text) :
    misfit (withData earlier later one) name = misfit (withData earlier later two) name := by
  unfold misfit
  by_cases own : ("data" : Text) = name
  · subst own
    simp [last?_withData last, Option.filter, fitting, fit]
  · simp [withData, Members.last?_around, own]

private theorem ofWritten_withData :
    ofWritten (withData earlier later two) =
      { ofWritten (withData earlier later one) with data := payloadOf (some two) } := by
  have others {name : Text} (other : ("data" : Text) ≠ name) :
      (withData earlier later two).last? name = (withData earlier later one).last? name := by
    rw [withData, withData, Members.last?_around, Members.last?_around, if_neg other, if_neg other]
  unfold ofWritten
  rw [last?_withData last, others (by decide), others (by decide), others (by decide)]

end

section
variable {depth inner : Nat} {before after content quoted : Text} {earlier later members : Members}
  (hole : Hole (Spells digitLimit depth) "data" before after earlier later)
  (accepted : Document.parse inner content = .ok (.object members))
  (embedded : ∃ found, Document.parse (depth + 1) (before ++ content ++ after) = .ok found)
  (literal : SpellsText quoted content)
include hole

include accepted embedded in
private theorem spliced_object :
    ¬Beyond (depth + 1) (before ++ content ++ after) ∧
      SpellsObject (before ++ content ++ after) (withData earlier later (.object members)) := by
  obtain ⟨found, parsed⟩ := embedded
  have within : ¬Beyond (depth + 1) (before ++ content ++ after) := fun beyond => by
    obtain ⟨refusal, failed⟩ := Document.parse_beyond beyond
    rw [parsed] at failed
    contradiction
  obtain ⟨front, used, back, empty, spelled, nothing, rfl⟩ := Document.read_sound (Document.read_of_parse accepted)
  -- On its own the object may be as deep as a frame may be; that the frame is not too deep is known from `embedded`.
  have surrounds := hole.mono fun spelled => spelled.within (Nat.le_max_left depth inner)
  obtain ⟨margin, inside, foot, lead, ends, listed, split⟩ :=
    (surrounds.pad empty nothing).fill (spelled.within (Nat.le_max_right depth inner))
  refine ⟨within, margin, inside, foot, lead, ends, ⟨_, _, listed⟩, ?_⟩
  rw [← split]
  simp

include literal in
private theorem encoded_object :
    ¬Beyond (depth + 1) (before ++ quoted ++ after) ∧
      SpellsObject (before ++ quoted ++ after) (withData earlier later (.text content)) := by
  obtain ⟨margin, inside, foot, lead, ends, listed, split⟩ := hole.fill (Document.spells_text literal _ _)
  refine ⟨?_, margin, inside, foot, lead, ends, ⟨_, _, listed⟩, split⟩
  have spelled : Spells digitLimit (depth + 1) (.char '{' :: inside ++ [.char '}']) (.object (Members.ofList _)) :=
    .object listed
  exact SpellsWithin.not_beyond ⟨margin, _, foot, lead, spelled, ends, by simp [split]⟩

include accepted embedded literal in
/-- Both frames are envelopes that differ in their data, or both are refused for the same other member. -/
theorem ofText_around {there : Nat} (more : depth < there) :
    (∃ envelope : Envelope, envelope.data = .object members ∧ ofText there (before ++ content ++ after) = .ok envelope ∧
        ofText there (before ++ quoted ++ after) = .ok { envelope with data := .text content }) ∨
      ∃ name kind,
        ofText there (before ++ content ++ after) = .error (.undecodable (.field name kind (before ++ content ++ after))) ∧
        ofText there (before ++ quoted ++ after) = .error (.undecodable (.field name kind (before ++ quoted ++ after))) := by
  obtain ⟨within, spelled⟩ := spliced_object hole accepted embedded
  obtain ⟨found, parsed⟩ := embedded
  obtain ⟨bounded, respelled⟩ := encoded_object hole literal
  have reparsed := Document.parse_spelled bounded (Document.spellsDocument_object_iff.mpr ⟨_, respelled, rfl⟩)
  have offends :
      offender (withData earlier later (.text content)) = offender (withData earlier later (.object members)) :=
    offender_of_misfits fun name _ => misfit_withData hole.last rfl rfl name
  rw [ofText_mono parsed more, ofText_mono reparsed more, ofText_object within spelled, ofText_object bounded respelled, offends]
  cases offender (withData earlier later (.object members)) with
  | none =>
    exact .inl ⟨_, congrArg payloadOf (last?_withData hole.last), rfl,
      congrArg Except.ok (ofWritten_withData hole.last)⟩
  | some found => exact .inr ⟨found.1, found.2.kindName, rfl, rfl⟩

end

/-- Around the data of any envelope there is a hole. -/
theorem exists_hole {depth : Nat} {text : Text} {members : Members} {found : Json}
    (parsed : Document.parse (depth + 1) text = .ok (.object members)) (data : members.get? "data" = some found) :
    ∃ before used after earlier later, Hole (Spells digitLimit depth) "data" before after earlier later ∧
      Spells digitLimit depth used found ∧ text = before ++ used ++ after := by
  obtain ⟨margin, inner, foot, empty, spelled, ends, rfl⟩ := Document.read_sound (Document.read_of_parse parsed)
  cases spelled with
  | scalar spelled => exact absurd spelled Document.not_scalar_object
  | object listed =>
    rw [Members.get?_ofList] at data
    obtain ⟨before, used, after, earlier, later, hole, own, -, split⟩ := Document.exists_hole empty ends listed data
    exact ⟨before, used, after, earlier, later, hole, own, by simpa using split⟩

end Envelope

/-- The same comes of both, or both refuse the frame for a fault of its own. -/
inductive Coincides {α : Type} : Except Error α → Except Error α → Prop
  | done (value : α) : Coincides (.ok value) (.ok value)
  | faulty (first second : Undecodable) : Coincides (.error (.undecodable first)) (.error (.undecodable second))

/-- The data are only named where the token is refused. -/
theorem Channel.tokenOf_coincides (channel : Channel) (members : Members) (data other : Payload) :
    Coincides (channel.tokenOf members data) (channel.tokenOf members other) := by
  unfold tokenOf
  split <;> constructor

private theorem Channel.succeed_coincides {channel : Channel} (live : channel.phase ≠ .ended) {depth : Nat}
    {data other : Payload}
    {members : Members} (one : data.members depth = .ok members) (two : other.members depth = .ok members) :
    Coincides (channel.succeed depth data) (channel.succeed depth other) := by
  have same := channel.tokenOf_coincides members data other
  simp only [succeed, one, two, Bind.bind, Except.bind]
  generalize channel.tokenOf members data = first, channel.tokenOf members other = second at same ⊢
  cases same with
  | done token =>
    have free : ¬(channel.phase = .ended ∧ Phase.subscribed ≠ .ended) := fun refused => live refused.1
    simp only [moveTo, if_neg free]
    exact .done _
  | faulty first second => exact .faulty first second

/-- A channel that is told of its success comes to the same either way. -/
theorem Channel.receive_coincides (channel : Channel) {frame other : Frame} {members : Members} {envelope : Envelope}
    {data : Payload} (one : Envelope.ofDelivery frame = .ok envelope)
    (two : Envelope.ofDelivery other = .ok { envelope with data }) (room : other.room.success = frame.room.success)
    (first : envelope.data.members frame.room.success = .ok members)
    (second : data.members frame.room.success = .ok members) :
    Coincides (channel.receive Envelope.succeededEvent frame) (channel.receive Envelope.succeededEvent other) := by
  unfold receive
  split
  · exact .done _
  next live =>
    simp only [one, two, room, Bind.bind, Except.bind, if_true]
    exact succeed_coincides live first second

private theorem Channel.receive_undecoded (channel : Channel) {event : Text} {frame other : Frame}
    {first second : Undecodable}
    (one : Envelope.ofDelivery frame = .error (.undecodable first))
    (two : Envelope.ofDelivery other = .error (.undecodable second)) :
    Coincides (channel.receive event frame) (channel.receive event other) := by
  unfold receive
  split
  · exact .done _
  · simp only [one, two, Bind.bind, Except.bind]
    exact .faulty first second

/-- A channel to which both come to the same is changed in the same way or not at all. -/
theorem Client.receive_coincides (client : Client) (id : ChannelId) {event : Text} {frame other : Frame}
    (same : ∀ channel : Channel, Coincides (channel.receive event frame) (channel.receive event other)) :
    client.receive id event frame = client.receive id event other ∨
      ∃ first second, client.receive id event frame = (client, .error (.undecodable first)) ∧
        client.receive id event other = (client, .error (.undecodable second)) := by
  unfold receive
  cases client.channels[id]? with
  | none => exact .inl rfl
  | some channel =>
    have same := same channel
    dsimp only
    generalize channel.receive event frame = first, channel.receive event other = second at same ⊢
    cases same with
    | done reaction => exact .inl rfl
    | faulty first second => exact .inr ⟨first, second, rfl, rfl⟩

private theorem Client.handle_established (client : Client) (reader : ReaderId) (socket : SocketId) {frame : Frame}
    {envelope : Envelope} {members : Members} (decoded : Envelope.ofArrival frame = .ok envelope)
    (event : envelope.event = some Envelope.establishedEvent)
    (data : envelope.data.members frame.room.confirmation = .ok members) :
    client.handle reader socket frame = client.counted.confirm reader socket members := by
  simp only [handle, decoded, event, if_true, establish, data]

namespace Envelope
open Document (Hole Spells SpellsMember SpellsText digitLimit)

/-- An object as the data of an event, and the string that is its text, come to the same, wherever there is room for the
frame with the object and for the object on its own. -/
theorem object_and_text_agree {depth inner : Nat} {before after content quoted : Text} {earlier later members : Members}
    {room : Room} {spliced encoded : Frame} (hole : Hole (Spells digitLimit depth) "data" before after earlier later)
    (accepted : Document.parse inner content = .ok (.object members))
    (embedded : ∃ found, Document.parse (depth + 1) (before ++ content ++ after) = .ok found)
    (literal : SpellsText quoted content) (one : spliced.Carries room (before ++ content ++ after))
    (other : encoded.Carries room (before ++ quoted ++ after)) (framed : depth < room.arrival ∧ depth < room.delivery)
    (alone : inner ≤ room.confirmation ∧ inner ≤ room.success) :
    (∀ limit ∈ [room.arrival, room.delivery],
      (∃ envelope : Envelope, envelope.data = .object members ∧ ofFrame limit spliced = .ok envelope ∧
        ofFrame limit encoded = .ok { envelope with data := .text content }) ∨
      ∃ name kind, ofFrame limit spliced = .error (.undecodable (.field name kind (before ++ content ++ after))) ∧
        ofFrame limit encoded = .error (.undecodable (.field name kind (before ++ quoted ++ after)))) ∧
    (∀ limit ∈ [room.confirmation, room.success],
      (Payload.object members).members limit = .ok members ∧ (Payload.text content).members limit = .ok members) ∧
    (∀ channel : Channel, Coincides (channel.receive succeededEvent spliced) (channel.receive succeededEvent encoded)) ∧
    (∀ client : Client, ∀ id, client.receive id succeededEvent spliced = client.receive id succeededEvent encoded ∨
      ∃ first second, client.receive id succeededEvent spliced = (client, .error (.undecodable first)) ∧
        client.receive id succeededEvent encoded = (client, .error (.undecodable second))) ∧
    ∀ envelope, ofArrival spliced = .ok envelope → envelope.event = some establishedEvent →
      ∀ (client : Client) reader socket, client.handle reader socket spliced = client.handle reader socket encoded := by
  have text {limit : Nat} (more : inner ≤ limit) : (Payload.text content).members limit = .ok members :=
    Payload.members_of_parse (Document.parse_mono accepted more)
  have decoded {limit : Nat} (more : depth < limit) := ofText_around hole accepted embedded literal more
  simp only [← one.decoded, ← other.decoded] at decoded
  have arrived : _ ∨ _ := decoded framed.1
  have delivered : _ ∨ _ := decoded framed.2
  have same : ∀ channel : Channel,
      Coincides (channel.receive succeededEvent spliced) (channel.receive succeededEvent encoded) := fun channel => by
    rcases delivered with ⟨envelope, data, object, string⟩ | ⟨name, kind, object, string⟩
    all_goals
      rw [← one.room] at object
      rw [← other.room] at string
    · have inside : envelope.data.members spliced.room.success = .ok members := congrArg (Payload.members _) data
      exact channel.receive_coincides object string (by rw [one.room, other.room]) inside (one.room ▸ text alone.2)
    · exact channel.receive_undecoded object string
  refine ⟨fun limit listed => ?_, fun limit listed => ⟨rfl, text ?_⟩, same, fun client id => client.receive_coincides id same,
    fun envelope found event client reader socket => ?_⟩
  · simp only [List.mem_cons, List.not_mem_nil, or_false] at listed
    rcases listed with rfl | rfl
    · exact arrived
    · exact delivered
  · simp only [List.mem_cons, List.not_mem_nil, or_false] at listed
    rcases listed with rfl | rfl
    · exact alone.1
    · exact alone.2
  · rw [ofArrival, one.room] at found
    rcases arrived with ⟨same, data, object, string⟩ | ⟨name, kind, object, -⟩
    · obtain rfl := Except.ok.inj (found.symm.trans object)
      rw [← one.room] at object
      rw [← other.room] at string
      rw [client.handle_established reader socket object event (congrArg (Payload.members _) data),
        client.handle_established reader socket string event (other.room ▸ text alone.1)]
    · rw [found] at object
      contradiction

def confirmation : Text := "\x7b\"event\":\"pusher:connection_established\", \"data\" :"

def renamed : String := " \x7b\"socket_id\": \"7\", \"socket_id\": \"\\u0038\"\x7d"

theorem object_and_text_agree_confirmation :
    Hole (Spells digitLimit 1) "data" confirmation "\x7d" [("event", .text "pusher:connection_established")] [] ∧
      Document.parse 1 renamed = .ok (.object [("socket_id", .text "8")]) ∧
      (∃ found, Document.parse 2 (confirmation ++ renamed ++ "\x7d") = .ok found) ∧
      SpellsText (Text.literal renamed) renamed ∧
      ∀ (client : Client) reader socket, client.handle reader socket (.text (confirmation ++ renamed ++ "\x7d")) =
        client.handle reader socket (.text (confirmation ++ Text.literal renamed ++ "\x7d")) := by
  have hole : Hole (Spells digitLimit 1) "data" confirmation "\x7d"
      [("event", .text "pusher:connection_established")] [] := by
    have bare : Document.Blank [] := nofun
    have space : Document.Blank [.char ' '] := by simp [Document.Blank, Document.isSpace]
    have event : SpellsMember (Spells digitLimit 1) _ ("event", _) :=
      .mk (Document.literal_spells "event") bare bare
        (Document.spells_text (Document.literal_spells "pusher:connection_established") _ _)
    exact .mk bare bare (.cons event bare space .nil) (Document.literal_spells "data") space bare (.done bare) bare rfl
  have accepted : Document.parse 1 renamed = .ok (.object [("socket_id", .text "8")]) := by rfl
  have embedded : ∃ found, Document.parse 2 (confirmation ++ renamed ++ "\x7d") = .ok found := ⟨_, rfl⟩
  have literal := Document.literal_spells renamed
  obtain ⟨-, -, -, -, established⟩ := object_and_text_agree hole accepted embedded literal (.text _) (.text _)
    (by decide : 1 < ({} : Room).arrival ∧ 1 < ({} : Room).delivery)
    (by decide : 1 ≤ ({} : Room).confirmation ∧ 1 ≤ ({} : Room).success)
  exact ⟨hole, accepted, embedded, literal, established _ rfl rfl⟩

end Envelope
end Pubsub
