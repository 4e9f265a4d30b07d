import Pubsub.Frame.Request
import Pubsub.Proofs.Envelopes

/-! A frame that is sent reads back as the message it was made of. Compact JSON is a spelling of what it
writes, so this is a case of what the reader does with documents. -/

namespace Pubsub

namespace Document

def hexDigit (n : Nat) : CodePoint := .char (Nat.digitChar n)

private theorem hexDigit?_hexDigit {n : Nat} (small : n < 16) : hexDigit? (hexDigit n) = some n := by
  have all : ∀ digit : Fin 16, hexDigit? (hexDigit digit) = some digit.val := by decide
  exact all ⟨n, small⟩

private theorem hex_one {n : Nat} (small : n < 16) : Text.hex 1 n = [hexDigit n] := by
  simp [Text.hex, Nat.toDigits_of_lt_base small, hexDigit]

/-- The last digit of a number comes after the digits of the rest of it. -/
theorem hex_succ (width n : Nat) : Text.hex (width + 2) n = Text.hex (width + 1) (n / 16) ++ [hexDigit (n % 16)] := by
  unfold Text.hex
  rcases Nat.lt_or_ge n 16 with small | large
  · rw [Nat.toDigits_of_lt_base small, Nat.div_eq_of_lt small, Nat.mod_eq_of_lt small, Nat.toDigits_zero]
    simp [hexDigit, List.replicate_succ', Nat.digitChar]
  · rw [Nat.toDigits_of_base_le (by decide) large]
    simp [hexDigit]

/-- A number of the basic plane is written in four digits. -/
theorem hex_four {n : Nat} (basic : n < 0x10000) :
    Text.hex 4 n =
      [hexDigit (n / 16 / 16 / 16), hexDigit (n / 16 / 16 % 16), hexDigit (n / 16 % 16), hexDigit (n % 16)] := by
  rw [hex_succ, hex_succ, hex_succ, hex_one (by omega)]
  rfl

private theorem spells_numbered {n : Nat} (basic : n < 0x10000) : SpellsPiece (CodePoint.numbered n) (.numbered n) := by
  have unit :
      unit? (hexDigit (n / 16 / 16 / 16)) (hexDigit (n / 16 / 16 % 16)) (hexDigit (n / 16 % 16)) (hexDigit (n % 16)) =
      some n := by
    unfold unit?
    rw [hexDigit?_hexDigit (by omega), hexDigit?_hexDigit (by omega), hexDigit?_hexDigit (by omega),
      hexDigit?_hexDigit (by omega)]
    exact congrArg some (by omega)
  unfold CodePoint.numbered
  rw [hex_four basic]
  exact .numbered unit

def Reads (pieces : List Piece) (point : CodePoint) :
    Prop := ∀ rest, Piece.text (pieces ++ rest) = point :: Piece.text rest

private theorem reads_plain (point : CodePoint) : Reads [.plain point] point := fun _ => rfl

private theorem char_range (c : Char) : c.toNat < 0xD800 ∨ 0xDFFF < c.toNat ∧ c.toNat < 0x110000 := c.valid

/-- The number of a character is no half of a pair. -/
theorem reads_numbered (c : Char) : Reads [.numbered c.toNat] (.char c) := by
  have range := char_range c
  have own : CodePoint.ofNat c.toNat = .char c := by
    unfold CodePoint.ofNat
    rw [dif_neg (by omega), Char.ofNat_toNat]
  have alone : CodePoint.isHigh c.toNat = false := by
    simp only [CodePoint.isHigh, decide_eq_false_iff_not]
    omega
  intro rest
  cases rest with
  | nil => simp [Piece.text, own]
  | cons piece rest => cases piece <;> simp [Piece.text, own, alone]

private theorem reads_pair {c : Char} (beyond : 0x10000 ≤ c.toNat) :
    Reads [.numbered (0xD800 + (c.toNat - 0x10000) / 0x400), .numbered (0xDC00 + (c.toNat - 0x10000) % 0x400)]
      (.char c) := by
  have range := char_range c
  have high : CodePoint.isHigh (0xD800 + (c.toNat - 0x10000) / 0x400) = true := by
    simp only [CodePoint.isHigh, decide_eq_true_eq]
    omega
  have low : CodePoint.isLow (0xDC00 + (c.toNat - 0x10000) % 0x400) = true := by
    simp only [CodePoint.isLow, decide_eq_true_eq]
    omega
  have joined : CodePoint.join (0xD800 + (c.toNat - 0x10000) / 0x400) (0xDC00 + (c.toNat - 0x10000) % 0x400) = .char c := by
    unfold CodePoint.join
    rw [show 0x10000 + (0xD800 + (c.toNat - 0x10000) / 0x400 - 0xD800) * 0x400 +
      (0xDC00 + (c.toNat - 0x10000) % 0x400 - 0xDC00) = c.toNat by omega, Char.ofNat_toNat]
  intro rest
  simp [Piece.text, high, low, joined]

theorem SpellsPieces.append {first second : Text} {pieces more : List Piece} (head : SpellsPieces first pieces)
    (tail : SpellsPieces second more) : SpellsPieces (first ++ second) (pieces ++ more) := by
  induction head with
  | nil => exact tail
  | cons piece _ ih =>
    rw [List.append_assoc]
    exact .cons piece ih

/-- A character is escaped as a spelling of itself. -/
theorem escaped_spells (c : Char) :
    ∃ pieces, SpellsPieces (CodePoint.char c).escaped pieces ∧ Reads pieces (.char c) := by
  have alone {text : Text} {piece : Piece} (spelled : SpellsPiece text piece) : SpellsPieces text [piece] := by
    have pieces := SpellsPieces.cons spelled .nil
    rwa [List.append_nil] at pieces
  unfold CodePoint.escaped
  split
  iterate 7
    next same =>
      cases same
      exact ⟨_, alone (.short rfl), reads_plain _⟩
  next quote escape _ _ _ _ _ =>
    split
    next printed => exact ⟨_, alone (.plain printed.1 quote escape), reads_plain _⟩
    split
    next basic => exact ⟨_, alone (spells_numbered basic), reads_numbered c⟩
    -- beyond the basic plane a character is written as the two halves of a pair, which are read as one again
    next beyond =>
      have range := char_range c
      dsimp only [CodePoint.val] at beyond ⊢
      exact ⟨_, .cons (spells_numbered (by omega)) (alone (spells_numbered (by omega))),
        reads_pair (Nat.le_of_not_lt beyond)⟩

/-- What is written point by point reads as these points when each of them reads as itself. -/
theorem spells_points {points : Text} {write : CodePoint → Text}
    (each : ∀ point ∈ points, ∃ pieces, SpellsPieces (write point) pieces ∧ Reads pieces point) :
    SpellsText (.char '"' :: points.flatMap write ++ [.char '"']) points := by
  have spelled : ∃ pieces, SpellsPieces (points.flatMap write) pieces ∧ Piece.text pieces = points := by
    induction points with
    | nil => exact ⟨[], .nil, rfl⟩
    | cons point rest ih =>
      obtain ⟨⟨pieces, head, reads⟩, others⟩ := List.forall_mem_cons.mp each
      obtain ⟨later, tail, same⟩ := ih others
      exact ⟨pieces ++ later, head.append tail, (reads later).trans (congrArg _ same)⟩
  obtain ⟨pieces, spelled, same⟩ := spelled
  exact ⟨_, pieces, spelled, rfl, same.symm⟩

/-- A string is written as a spelling of itself. -/
theorem literal_spells (content : String) : SpellsText (Text.literal content) content := by
  refine spells_points fun point listed => ?_
  obtain ⟨c, _, rfl⟩ := List.mem_map.mp listed
  exact escaped_spells c

/-- One more element before others, with nothing but a comma between. -/
theorem Lists.cons {α : Type} {element : Text → α → Prop} {text inner : Text} {value : α} {values : List α}
    (spelled : element text value) (listed : Lists element inner values) (some : values ≠ []) :
    Lists element (text ++ .char ',' :: inner) (value :: values) := by
  have bare : Blank [] := nofun
  cases listed with
  | none => contradiction
  | some lead passes own nothing =>
    have whole := Lists.some bare (.cons spelled bare lead passes) own nothing
    simpa using whole

/-- Members are written as a spelling of themselves when their names and values are. -/
theorem compactMembers_spells {inner : Text → Json → Prop} {members : Members}
    (spelled : ∀ member ∈ members, SpellsText member.1.literal member.1 ∧ inner member.2.compact member.2) :
    Lists (SpellsMember inner) (Json.compactMembers members) members := by
  have bare : Blank [] := nofun
  induction members with
  | nil => exact .none bare
  | cons member rest ih =>
    obtain ⟨name, value⟩ := member
    obtain ⟨⟨named, own⟩, later⟩ := List.forall_mem_cons.mp spelled
    have first : SpellsMember inner (name.literal ++ .char ':' :: value.compact) (name, value) := by
      have whole := SpellsMember.mk named bare bare own
      simpa using whole
    cases rest with
    | nil =>
      have whole := Lists.some bare .nil first bare
      simpa [Json.compactMembers] using whole
    | cons next rest =>
      have whole := Lists.cons first (ih later) (List.cons_ne_nil next rest)
      simpa [Json.compactMembers] using whole

/-- An object is written as a spelling of itself when no name occurs in it twice. -/
theorem compact_object_spells {bound depth : Nat} {members : Members}
    (spelled : ∀ member ∈ members, SpellsText member.1.literal member.1 ∧ Spells bound depth member.2.compact member.2)
    (distinct : Members.ofList members = members) :
    Spells bound (depth + 1) (Json.object members).compact (.object members) := by
  have whole : Spells bound (depth + 1) (Json.object members).compact (.object (Members.ofList members)) :=
    .object (compactMembers_spells spelled)
  rwa [distinct] at whole

theorem spells_text {quoted content : Text} (literal : SpellsText quoted content) (bound depth : Nat) :
    Spells bound depth quoted (.text content) := by
  have scalar : SpellsScalar bound quoted (.text content) := .text literal
  cases depth with
  | zero => exact scalar
  | succ depth => exact .scalar scalar

private theorem compact_text_spells (bound depth : Nat) (content : String) :
    Spells bound depth (Json.text content).compact (.text content) :=
  spells_text (literal_spells content) bound depth

/-- What is spelled within the limits is what is read. -/
theorem read_of_spells {depth : Nat} {text : Text} {found : Json} (spelled : Spells digitLimit depth text found)
    {limit : Nat} (within : depth ≤ limit) : read limit text = .ok found := by
  have document : SpellsWithin digitLimit depth text found := ⟨[], text, [], nofun, spelled, nofun, by simp⟩
  rcases read_complete document with parsed | ⟨beyond | beyond, _⟩
  · exact parsed
  · exact absurd beyond (Nat.lt_irrefl _)
  · exact absurd within (Nat.not_le_of_lt beyond)

end Document

private theorem Text.ofString_inj {first second : String} :
    Text.ofString first = Text.ofString second ↔ first = second := by
  unfold Text.ofString
  rw [List.map_inj_right (fun _ _ same => CodePoint.char.inj same), String.toList_inj]

def Text.Printed (text : Text) : Prop := ∀ point ∈ text, 0x20 ≤ point.val ∧ point.val ≤ 0x7e

instance (text : Text) : Decidable text.Printed :=
  inferInstanceAs (Decidable (∀ point ∈ text, 0x20 ≤ point.val ∧ point.val ≤ 0x7e))

theorem Text.Printed.append {first second : Text} (head : first.Printed) (tail : second.Printed) :
    (first ++ second).Printed :=
  fun point listed => (List.mem_append.mp listed).elim (head point) (tail point)

theorem Text.Printed.cons {point : CodePoint} {text : Text} (head : 0x20 ≤ point.val ∧ point.val ≤ 0x7e)
    (tail : text.Printed) :
    Text.Printed (point :: text) :=
  List.forall_mem_cons.mpr ⟨head, tail⟩

private theorem numbered_printed {n : Nat} (basic : n < 0x10000) : (CodePoint.numbered n).Printed := by
  have digit : ∀ digit : Fin 16, 0x20 ≤ (Document.hexDigit digit).val ∧ (Document.hexDigit digit).val ≤ 0x7e := by decide
  have hex : (Text.hex 4 n).Printed := by
    rw [Document.hex_four basic]
    exact .cons (digit ⟨_, by omega⟩) (.cons (digit ⟨_, by omega⟩)
      (.cons (digit ⟨_, by omega⟩) (.cons (digit ⟨_, by omega⟩) nofun)))
  exact .append (by decide) hex

private theorem escaped_printed (point : CodePoint) : point.escaped.Printed := by
  unfold CodePoint.escaped
  split
  iterate 7
    · decide
  · split
    next printed => exact .cons ⟨printed.1, Nat.le_of_lt_succ printed.2⟩ nofun
    split
    next basic => exact numbered_printed basic
    next beyond =>
      have range : point.val < 0x110000 := by
        cases point with
        | char c => exact (Document.char_range c).elim (fun low => Nat.lt_trans low (by decide)) And.right
        | half offset => exact Nat.lt_trans (Nat.add_lt_add_left offset.isLt _) (by decide)
      exact .append (numbered_printed (by omega)) (numbered_printed (by omega))

private theorem literal_printed (text : Text) : text.literal.Printed := by
  refine .cons (by decide) (.append (fun point listed => ?_) (by decide))
  obtain ⟨source, _, escaped⟩ := List.mem_flatMap.mp listed
  exact escaped_printed source point escaped

private theorem compactMembers_printed {members : Members} (values : ∀ member ∈ members, member.2.compact.Printed) :
    (Json.compactMembers members).Printed := by
  induction members with
  | nil => exact nofun
  | cons member rest ih =>
    obtain ⟨name, value⟩ := member
    obtain ⟨own, later⟩ := List.forall_mem_cons.mp values
    have first : (name.literal ++ .char ':' :: value.compact).Printed :=
      .append (literal_printed name) (.cons (by decide) own)
    cases rest with
    | nil => exact first
    | cons next rest =>
      have comma : 0x20 ≤ (CodePoint.char ',').val ∧ (CodePoint.char ',').val ≤ 0x7e := by decide
      have whole := first.append (.cons comma (ih later))
      simpa [Json.compactMembers] using whole

private theorem compact_object_printed {members : Members} (values : ∀ member ∈ members, member.2.compact.Printed) :
    (Json.object members).compact.Printed :=
  .cons (by decide) (.append (compactMembers_printed values) (by decide))

namespace Request
open Document (Spells SpellsText digitLimit)

inductive OfStrings : Request → Prop
  | subscribe (channel : String) (token : Option String) : OfStrings (.subscribe channel (token.map Text.ofString))
  | unsubscribe (channel : String) : OfStrings (.unsubscribe channel)

private theorem data_texts (request : Request) : ∀ member ∈ request.data, ∃ content, member.2 = .text content := by
  cases request with
  | unsubscribe => simp [data]
  | subscribe _ token => cases token <;> simp [data]

theorem OfStrings.data {request : Request} (strings : request.OfStrings) :
    ∀ member ∈ request.data, ∃ name value : String, member = ((name : Text), Json.text value) := by
  cases strings with
  | unsubscribe channel =>
    simp only [Request.data, List.mem_singleton, forall_eq]
    exact ⟨_, _, rfl⟩
  | subscribe channel token =>
    cases token with
    | none =>
      simp only [Option.map_none, Request.data, List.mem_singleton, forall_eq]
      exact ⟨_, _, rfl⟩
    | some token =>
      simp only [Option.map_some, Request.data, List.forall_mem_cons]
      exact ⟨⟨_, _, rfl⟩, ⟨_, _, rfl⟩, nofun⟩

/-- No name occurs twice. -/
theorem data_distinct (request : Request) : Members.ofList request.data = request.data := by
  cases request with
  | unsubscribe => rfl
  | subscribe _ token => cases token <;> rfl

private theorem encode_spells {request : Request} (strings : request.OfStrings) :
    Spells digitLimit 2 request.encode request.json := by
  have inner : Spells digitLimit 1 (Json.object request.data).compact (.object request.data) := by
    refine Document.compact_object_spells (fun member listed => ?_) request.data_distinct
    obtain ⟨name, value, rfl⟩ := strings.data member listed
    exact ⟨Document.literal_spells name, Document.compact_text_spells _ _ value⟩
  have event : ∃ name : String, request.event = name := by cases request <;> exact ⟨_, rfl⟩
  obtain ⟨name, named⟩ := event
  refine Document.compact_object_spells (List.forall_mem_cons.mpr ⟨⟨Document.literal_spells _, ?_⟩,
    List.forall_mem_cons.mpr ⟨⟨Document.literal_spells _, inner⟩, nofun⟩⟩) rfl
  rw [named]
  exact Document.compact_text_spells _ _ name

private theorem ofFrame_encode {request : Request} (strings : request.OfStrings) (depth : Nat) (room : Room) :
    Envelope.ofFrame (depth + 2) (.text request.encode room) =
      .ok ⟨some request.event, .object request.data, none, none⟩ := by
  have parsed : Document.read (depth + 2) request.encode = .ok request.json :=
    Document.read_of_spells (encode_spells strings) (Nat.le_add_left ..)
  simp only [Envelope.ofFrame, Envelope.ofText, Envelope.document, Document.parse, parsed]
  rfl

private theorem eq_of_members {first second : Request} (events : first.event = second.event)
    (members : first.data = second.data) :
    first = second := by
  cases first with
  | unsubscribe channel =>
    cases second with
    | subscribe => exact absurd events (show unsubscribeEvent ≠ subscribeEvent by decide)
    | unsubscribe => simpa [data] using members
  | subscribe channel token =>
    cases second with
    | unsubscribe => exact absurd events (show subscribeEvent ≠ unsubscribeEvent by decide)
    | subscribe other later => cases token <;> cases later <;> simp_all [data]

/-- Different requests are different frames. -/
theorem encode_injective {first second : Request} (strings : first.OfStrings) (others : second.OfStrings)
    (same : first.encode = second.encode) : first = second := by
  have decoded := (ofFrame_encode strings 0 {}).symm.trans (same ▸ ofFrame_encode others 0 {})
  simp only [Except.ok.injEq, Envelope.mk.injEq, Option.some.injEq, Payload.object.injEq, and_true] at decoded
  exact eq_of_members decoded.1 decoded.2

private theorem encode_printed (request : Request) : request.encode.Printed := by
  have inner : (Json.object request.data).compact.Printed := compact_object_printed fun member listed => by
    obtain ⟨content, text⟩ := request.data_texts member listed
    rw [text]
    exact literal_printed content
  exact compact_object_printed (List.forall_mem_cons.mpr ⟨literal_printed _, List.forall_mem_cons.mpr ⟨inner, nofun⟩⟩)

/-- A frame that asks for a channel or gives one back reads as the message that it was made of, whatever the
channel and the token are, wherever there is room for its two levels; it is printable, and made of these arguments only. -/
theorem ofFrame_encode_strings (channel : String) (token : Option String) (depth : Nat) (room : Room) :
    Envelope.ofFrame (depth + 2) (.text (subscribe channel (token.map Text.ofString)).encode room) =
      .ok {
        event := some "pusher:subscribe"
        data := .object
          (("channel", .text channel) :: (token.map fun token => (("resume_after" : Text), Json.text token)).toList)
        id := none
        channel := none } ∧
    Envelope.ofFrame (depth + 2) (.text (unsubscribe channel).encode room) =
      .ok { event := some "pusher:unsubscribe", data := .object [("channel", .text channel)], id := none, channel := none } ∧
    (∀ request ∈ [subscribe channel (token.map Text.ofString), unsubscribe channel],
      (Payload.object request.data).members depth = .ok request.data ∧
      (∀ point ∈ request.encode, 0x20 ≤ point.val ∧ point.val ≤ 0x7e)) ∧
    (∀ (other : String) (later : Option String), (subscribe channel (token.map Text.ofString)).encode =
      (subscribe other (later.map Text.ofString)).encode → other = channel ∧ later = token) ∧
    (∀ other : String, (unsubscribe channel).encode = (unsubscribe other).encode → other = channel) ∧
    ∀ other : String, (subscribe channel (token.map Text.ofString)).encode ≠ (unsubscribe other).encode := by
  refine ⟨?_, ofFrame_encode (.unsubscribe channel) depth room, fun request _ => ⟨rfl, request.encode_printed⟩,
    fun other later same => ?_,
    fun other same => ?_, fun other same => ?_⟩
  · rw [ofFrame_encode (.subscribe channel token)]
    cases token <;> rfl
  · have equal := encode_injective (.subscribe channel token) (.subscribe other later) same
    rw [subscribe.injEq, Text.ofString_inj] at equal
    exact ⟨equal.1.symm, (Option.map_injective (fun _ _ => Text.ofString_inj.mp) equal.2).symm⟩
  · have equal := encode_injective (.unsubscribe channel) (.unsubscribe other) same
    rw [unsubscribe.injEq, Text.ofString_inj] at equal
    exact equal.symm
  · exact absurd (encode_injective (.subscribe channel token) (.unsubscribe other) same) (by simp)

end Request
end Pubsub
