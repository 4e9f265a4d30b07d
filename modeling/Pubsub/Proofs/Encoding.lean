import Pubsub.Frame.Envelope

/-! Bytes are read as the text that they encode, and bytes that encode none are refused where the first character
is missing. -/

namespace Pubsub
namespace Utf8

def encode (content : String) : List UInt8 := content.toUTF8.data.toList

private theorem encode_eq (content : String) : encode content = content.toList.flatMap String.utf8EncodeChar := by
  have bytes : content.toUTF8 = content.toList.utf8Encode := String.utf8Encode_toList.symm
  rw [encode, bytes, List.utf8Encode, List.toList_data_toByteArray]

private theorem encode_ofList (characters : List Char) :
    encode (String.ofList characters) = characters.flatMap String.utf8EncodeChar := by
  rw [encode_eq, String.toList_ofList]

private theorem valid_iff {bytes : List UInt8} : bytes.toByteArray.IsValidUTF8 ↔ ∃ content, bytes = encode content := by
  constructor
  · rintro ⟨characters, same⟩
    refine ⟨String.ofList characters, ?_⟩
    have data := congrArg (·.data.toList) same
    rwa [List.toList_data_toByteArray, List.utf8Encode, List.toList_data_toByteArray, ← encode_ofList] at data
  · rintro ⟨content, rfl⟩
    exact ⟨content.toList, by rw [encode_eq, List.utf8Encode]⟩

/-- The bytes that finish a character, and the number of that character. -/
inductive Finishes : Unfinished → List UInt8 → Nat → Prop
  | last {partly : Unfinished} {byte : UInt8} (low : partly.low ≤ byte) (high : byte ≤ partly.high)
    (done : (partly.extend byte).left = 0) : Finishes partly [byte] (partly.extend byte).value
  | more {partly : Unfinished} {byte : UInt8} {rest : List UInt8} {value : Nat} (low : partly.low ≤ byte)
    (high : byte ≤ partly.high) (due : (partly.extend byte).left ≠ 0)
    (later : Finishes (partly.extend byte) rest value) :
    Finishes partly (byte :: rest) value

private theorem decodeFrom_finished {partly : Unfinished} {bytes : List UInt8} {value : Nat}
    (finishes : Finishes partly bytes value) (position : Nat) (read : Text) (rest : List UInt8) :
    decodeFrom position read (some partly) (bytes ++ rest) =
      decodeFrom (position + bytes.length) (.char (Char.ofNat value) :: read) none rest := by
  induction finishes generalizing position with
  | last low high done =>
    rw [List.singleton_append, decodeFrom, if_pos ⟨low, high⟩]
    exact if_pos done
  | more low high due later ih =>
    rw [List.cons_append, decodeFrom, if_pos ⟨low, high⟩]
    exact (if_neg due).trans ((ih (position + 1)).trans (by rw [List.length_cons, Nat.add_right_comm, Nat.add_assoc]))

/-- A character that is not finished is a fault where it began. -/
theorem decodeFrom_unfinished {partly : Unfinished} {bytes : List UInt8}
    (unfinished : ∀ first rest value, bytes = first ++ rest → ¬Finishes partly first value) {position : Nat}
    (seen : partly.seen ≤ position) (read : Text) :
    ∃ fault, decodeFrom position read (some partly) bytes = .error fault ∧ fault.start = position - partly.seen := by
  induction bytes generalizing partly position with
  | nil => exact ⟨_, rfl, rfl⟩
  | cons byte rest ih =>
    by_cases within : partly.low ≤ byte ∧ byte ≤ partly.high
    · have due : (partly.extend byte).left ≠ 0 := fun done =>
        unfinished [byte] rest _ rfl (.last within.1 within.2 done)
      have still : ∀ first later value, rest = first ++ later → ¬Finishes (partly.extend byte) first value :=
        fun first later value same finishes =>
          unfinished (byte :: first) later value (by rw [same, List.cons_append]) (.more within.1 within.2 due finishes)
      obtain ⟨fault, failed, start⟩ := ih still (Nat.succ_le_succ seen)
      refine ⟨fault, ?_, start.trans (Nat.add_sub_add_right position 1 partly.seen)⟩
      rw [decodeFrom, if_pos within]
      exact (if_neg due).trans failed
    · rw [decodeFrom, if_neg within]
      exact ⟨_, rfl, rfl⟩

private theorem finishes_last {partly : Unfinished} (left : partly.left = 1) {bytes : List UInt8} {value : Nat} :
    Finishes partly bytes value ↔
      ∃ byte, bytes = [byte] ∧ partly.low ≤ byte ∧ byte ≤ partly.high ∧ value = (partly.extend byte).value := by
  have done (byte : UInt8) : (partly.extend byte).left = 0 := by simp [Unfinished.extend, left]
  constructor
  · intro finishes
    cases finishes with
    | last low high => exact ⟨_, rfl, low, high, rfl⟩
    | more low high due => exact absurd (done _) due
  · rintro ⟨byte, rfl, low, high, same⟩
    rw [same]
    exact .last low high (done byte)

private theorem finishes_more {partly : Unfinished} {left : Nat} (due : partly.left = left + 2) {bytes : List UInt8}
    {value : Nat} :
    Finishes partly bytes value ↔
      ∃ byte rest, bytes = byte :: rest ∧ partly.low ≤ byte ∧ byte ≤ partly.high ∧
        Finishes (partly.extend byte) rest value := by
  have more (byte : UInt8) : (partly.extend byte).left ≠ 0 := by simp [Unfinished.extend, due]
  constructor
  · intro finishes
    cases finishes with
    | last low high done => exact absurd done (more _)
    | more low high due later => exact ⟨_, _, rfl, low, high, later⟩
  · rintro ⟨byte, rest, rfl, low, high, later⟩
    exact .more low high (more byte) later

def Tail (byte : UInt8) : Prop := 0x80 ≤ byte.toNat ∧ byte.toNat < 0xc0

/-- The number of a character in bytes: the first tells how many there are, the others have six bits each, and fewer
would not do. -/
inductive Spells : List UInt8 → Nat → Prop
  | one {a : UInt8} {value : Nat} (same : value = a.toNat) (most : value < 0x80) : Spells [a] value
  | two {a b : UInt8} {value : Nat} (lead : 0xc0 ≤ a.toNat) (second : Tail b)
    (same : value = (a.toNat - 0xc0) * 64 + (b.toNat - 0x80)) (least : 0x80 ≤ value) (most : value < 0x800) :
    Spells [a, b] value
  | three {a b c : UInt8} {value : Nat} (lead : 0xe0 ≤ a.toNat) (second : Tail b) (third : Tail c)
    (same : value = ((a.toNat - 0xe0) * 64 + (b.toNat - 0x80)) * 64 + (c.toNat - 0x80))
    (least : 0x800 ≤ value) (most : value < 0x10000) (whole : value < 0xd800 ∨ 0xdfff < value) : Spells [a, b, c] value
  | four {a b c d : UInt8} {value : Nat} (lead : 0xf0 ≤ a.toNat) (second : Tail b) (third : Tail c) (fourth : Tail d)
    (same : value = (((a.toNat - 0xf0) * 64 + (b.toNat - 0x80)) * 64 + (c.toNat - 0x80)) * 64 + (d.toNat - 0x80))
    (least : 0x10000 ≤ value) (most : value < 0x110000) : Spells [a, b, c, d] value

private theorem toNat_ofNat {n : Nat} (small : n < 256) : (UInt8.ofNat n).toNat = n := by
  rw [UInt8.toNat_ofNat']
  exact Nat.mod_eq_of_lt small

private theorem spells_encoded (c : Char) : Spells (String.utf8EncodeChar c) c.toNat := by
  have range : c.toNat < 0xd800 ∨ 0xdfff < c.toNat ∧ c.toNat < 0x110000 := c.valid
  have number : c.val.toNat = c.toNat := rfl
  unfold String.utf8EncodeChar
  rw [number]
  generalize c.toNat = n at range
  have continuation : ∀ k, k < 64 → (UInt8.ofNat (k + 128)).toNat = k + 128 := fun k small => toNat_ofNat (by omega)
  dsimp only
  split
  · have a : (UInt8.ofNat n).toNat = n := toNat_ofNat (by omega)
    exact .one a.symm (by omega)
  split
  · have a : (UInt8.ofNat (n / 64 % 32 + 192)).toNat = n / 64 % 32 + 192 := toNat_ofNat (by omega)
    have b := continuation (n % 64) (by omega)
    exact .two (by omega) ⟨by omega, by omega⟩ (by omega) (by omega) (by omega)
  split
  · have a : (UInt8.ofNat (n / 4096 % 16 + 224)).toNat = n / 4096 % 16 + 224 := toNat_ofNat (by omega)
    have b := continuation (n / 64 % 64) (by omega)
    have c := continuation (n % 64) (by omega)
    exact .three (by omega) ⟨by omega, by omega⟩ ⟨by omega, by omega⟩ (by omega) (by omega) (by omega) (by omega)
  · have a : (UInt8.ofNat (n / 262144 % 8 + 240)).toNat = n / 262144 % 8 + 240 := toNat_ofNat (by omega)
    have b := continuation (n / 4096 % 64) (by omega)
    have c := continuation (n / 64 % 64) (by omega)
    have d := continuation (n % 64) (by omega)
    exact .four (by omega) ⟨by omega, by omega⟩ ⟨by omega, by omega⟩ ⟨by omega, by omega⟩ (by omega) (by omega)
      (by omega)

/-- A number that is spelled is that of a character. -/
theorem Spells.character {bytes : List UInt8} {value : Nat} (spelled : Spells bytes value) :
    ∃ c : Char, c.toNat = value := by
  have valid : value.isValidChar := by
    cases spelled with
    | one same most => exact .inl (by omega)
    | two lead second same least most => exact .inl (by omega)
    | three lead second third same least most whole =>
      exact whole.imp_right fun above => ⟨above, by omega⟩
    | four lead second third fourth same least most => exact .inr ⟨by omega, most⟩
  exact ⟨Char.ofNatAux value valid, rfl⟩

/-- A character is spelled in one way only, as it is encoded. -/
theorem Spells.encoded {bytes : List UInt8} {c : Char} (spelled : Spells bytes c.toNat) :
    String.utf8EncodeChar c = bytes := by
  have byte (a : UInt8) {n : Nat} (same : n = a.toNat) : UInt8.ofNat n = a := by rw [same, UInt8.ofNat_toNat]
  have number : c.val.toNat = c.toNat := rfl
  unfold String.utf8EncodeChar
  rw [number]
  generalize c.toNat = n at spelled
  dsimp only
  cases spelled with
  | one same most => rw [if_pos (by omega), byte _ same]
  | @two a b _ lead second same least most =>
    obtain ⟨low, high⟩ := second
    rw [if_neg (by omega), if_pos (by omega), byte a (by omega), byte b (by omega)]
  | @three a b c _ lead second third same least most =>
    obtain ⟨low, high⟩ := second
    obtain ⟨low', high'⟩ := third
    rw [if_neg (by omega), if_neg (by omega), if_pos (by omega), byte a (by omega), byte b (by omega),
      byte c (by omega)]
  | @four a b c d _ lead second third fourth same least most =>
    obtain ⟨low, high⟩ := second
    obtain ⟨low', high'⟩ := third
    obtain ⟨low'', high''⟩ := fourth
    rw [if_neg (by omega), if_neg (by omega), if_neg (by omega), byte a (by omega), byte b (by omega),
      byte c (by omega), byte d (by omega)]

private theorem ite_toNat_le {a b first second : UInt8} {n : Nat} : (if a = b then first else second).toNat ≤ n ↔
    (a.toNat = b.toNat → first.toNat ≤ n) ∧ (a.toNat ≠ b.toNat → second.toNat ≤ n) := by
  rw [UInt8.toNat_inj, ne_eq, UInt8.toNat_inj]
  split <;> simp [*]

private theorem le_toNat_ite {a b first second : UInt8} {n : Nat} : n ≤ (if a = b then first else second).toNat ↔
    (a.toNat = b.toNat → n ≤ first.toNat) ∧ (a.toNat ≠ b.toNat → n ≤ second.toNat) := by
  rw [UInt8.toNat_inj, ne_eq, UInt8.toNat_inj]
  split <;> simp [*]

/-- The first bytes of characters that have more than one, and what each of them begins. -/
theorem begin?_eq_some_iff {a : UInt8} {partly : Unfinished} :
    begin? a = some partly ↔
      (0xc2 ≤ a.toNat ∧ a.toNat < 0xe0 ∧ partly = ⟨a, a.toNat - 0xc0, 1, 1, 0x80, 0xbf⟩) ∨
      (0xe0 ≤ a.toNat ∧ a.toNat < 0xf0 ∧ partly =
        ⟨a, a.toNat - 0xe0, 1, 2, if a = 0xe0 then 0xa0 else 0x80, if a = 0xed then 0x9f else 0xbf⟩) ∨
      (0xf0 ≤ a.toNat ∧ a.toNat < 0xf5 ∧ partly =
        ⟨a, a.toNat - 0xf0, 1, 3, if a = 0xf0 then 0x90 else 0x80, if a = 0xf4 then 0x8f else 0xbf⟩) := by
  have below (n : UInt8) : a < n ↔ a.toNat < n.toNat := UInt8.lt_iff_toNat_lt
  simp only [begin?, below, UInt8.reduceToNat]
  grind

/-- The decoder takes a character to be finished where it is spelled. -/
theorem finishes_iff {a : UInt8} {bytes : List UInt8} {value : Nat} (large : 0x80 ≤ a.toNat) :
    (∃ partly, begin? a = some partly ∧ Finishes partly bytes value) ↔ Spells (a :: bytes) value := by
  constructor
  · rintro ⟨partly, begun, finishes⟩
    rcases begin?_eq_some_iff.mp begun with ⟨lead, below, rfl⟩ | ⟨lead, below, rfl⟩ | ⟨lead, below, rfl⟩
    · obtain ⟨b, rfl, low, high, same⟩ := (finishes_last rfl).mp finishes
      simp only [UInt8.le_iff_toNat_le, UInt8.reduceToNat, Unfinished.extend] at low high same
      exact .two (by omega) ⟨by omega, by omega⟩ same (by omega) (by omega)
    · obtain ⟨b, _, rfl, low, high, rest⟩ := (finishes_more rfl).mp finishes
      obtain ⟨c, rfl, low', high', same⟩ := (finishes_last rfl).mp rest
      simp only [ite_toNat_le, le_toNat_ite, UInt8.le_iff_toNat_le, UInt8.reduceToNat, Unfinished.extend]
        at low high low' high' same
      exact .three lead ⟨by omega, by omega⟩ ⟨by omega, by omega⟩ same (by omega) (by omega) (by omega)
    · obtain ⟨b, _, rfl, low, high, rest⟩ := (finishes_more rfl).mp finishes
      obtain ⟨c, _, rfl, low', high', rest'⟩ := (finishes_more rfl).mp rest
      obtain ⟨d, rfl, low'', high'', same⟩ := (finishes_last rfl).mp rest'
      simp only [ite_toNat_le, le_toNat_ite, UInt8.le_iff_toNat_le, UInt8.reduceToNat, Unfinished.extend]
        at low high low' high' low'' high'' same
      exact .four lead ⟨by omega, by omega⟩ ⟨by omega, by omega⟩ ⟨by omega, by omega⟩ same (by omega) (by omega)
  · intro spelled
    cases spelled with
    | one same most => omega
    | @two _ b _ lead second same least most =>
      obtain ⟨low, high⟩ := second
      refine ⟨_, begin?_eq_some_iff.mpr (.inl ⟨by omega, by omega, rfl⟩), (finishes_last rfl).mpr ⟨b, rfl, ?_, ?_, same⟩⟩
      all_goals
        simp only [UInt8.le_iff_toNat_le, UInt8.reduceToNat]
        omega
    | @three _ b c _ lead second third same least most whole =>
      obtain ⟨low, high⟩ := second
      obtain ⟨low', high'⟩ := third
      refine ⟨_, begin?_eq_some_iff.mpr (.inr (.inl ⟨lead, by omega, rfl⟩)), (finishes_more rfl).mpr
        ⟨b, _, rfl, ?_, ?_, (finishes_last rfl).mpr ⟨c, rfl, ?_, ?_, same⟩⟩⟩
      all_goals
        simp only [ite_toNat_le, le_toNat_ite, UInt8.le_iff_toNat_le, UInt8.reduceToNat, Unfinished.extend]
        omega
    | @four _ b c d _ lead second third fourth same least most =>
      obtain ⟨low, high⟩ := second
      obtain ⟨low', high'⟩ := third
      obtain ⟨low'', high''⟩ := fourth
      refine ⟨_, begin?_eq_some_iff.mpr (.inr (.inr ⟨lead, by omega, rfl⟩)), (finishes_more rfl).mpr
        ⟨b, _, rfl, ?_, ?_, (finishes_more rfl).mpr ⟨c, _, rfl, ?_, ?_, (finishes_last rfl).mpr ⟨d, rfl, ?_, ?_, same⟩⟩⟩⟩
      all_goals
        simp only [ite_toNat_le, le_toNat_ite, UInt8.le_iff_toNat_le, UInt8.reduceToNat, Unfinished.extend]
        omega

private theorem begin?_seen {a : UInt8} {partly : Unfinished} (begun : begin? a = some partly) : partly.seen = 1 := by
  rcases begin?_eq_some_iff.mp begun with ⟨_, _, rfl⟩ | ⟨_, _, rfl⟩ | ⟨_, _, rfl⟩ <;> rfl

/-- A first byte of its own stands for itself. -/
theorem spells_small_iff {a : UInt8} (small : a.toNat < 0x80) {bytes : List UInt8} {value : Nat} :
    Spells (a :: bytes) value ↔ bytes = [] ∧ value = a.toNat := by
  constructor
  · intro spelled
    cases spelled with
    | one same => exact ⟨rfl, same⟩
    | two lead => omega
    | three lead => omega
    | four lead => omega
  · rintro ⟨rfl, rfl⟩
    exact .one rfl small

private theorem decodeFrom_character (c : Char) (position : Nat) (read : Text) (rest : List UInt8) :
    decodeFrom position read none (String.utf8EncodeChar c ++ rest) =
      decodeFrom (position + (String.utf8EncodeChar c).length) (.char c :: read) none rest := by
  have spelled := spells_encoded c
  cases bytes : String.utf8EncodeChar c with
  | nil => exact absurd bytes String.utf8EncodeChar_ne_nil
  | cons a more =>
    rw [bytes] at spelled
    rw [List.cons_append, decodeFrom]
    by_cases small : a < 0x80
    · obtain ⟨rfl, same⟩ := (spells_small_iff (UInt8.lt_iff_toNat_lt.mp small)).mp spelled
      rw [if_pos small, ← same, Char.ofNat_toNat]
      rfl
    · obtain ⟨partly, begun, finishes⟩ := (finishes_iff (UInt8.le_iff_toNat_le.mp (UInt8.not_lt.mp small))).mpr spelled
      simp only [if_neg small, begun]
      rw [decodeFrom_finished finishes, Char.ofNat_toNat, List.length_cons, Nat.add_right_comm, Nat.add_assoc]

/-- Where no character is, there is a fault. -/
theorem decodeFrom_stuck {bytes : List UInt8} (any : bytes ≠ [])
    (stuck : ∀ c rest, bytes ≠ String.utf8EncodeChar c ++ rest) (position : Nat) (read : Text) :
    ∃ fault, decodeFrom position read none bytes = .error fault ∧ fault.start = position := by
  have unspelled (first rest : List UInt8) (value : Nat) (same : bytes = first ++ rest) : ¬Spells first value := by
    intro spelled
    obtain ⟨c, rfl⟩ := spelled.character
    exact stuck c rest (by rw [same, spelled.encoded])
  cases bytes with
  | nil => contradiction
  | cons a rest =>
    rw [decodeFrom]
    by_cases small : a < 0x80
    · exact absurd (.one rfl (UInt8.lt_iff_toNat_lt.mp small)) (unspelled [a] rest a.toNat rfl)
    · rw [if_neg small]
      cases begun : begin? a with
      | none => exact ⟨_, rfl, rfl⟩
      | some partly =>
        have large : 0x80 ≤ a.toNat := UInt8.le_iff_toNat_le.mp (UInt8.not_lt.mp small)
        have seen := begin?_seen begun
        have unfinished : ∀ first later value, rest = first ++ later → ¬Finishes partly first value :=
          fun first later value same finishes => unspelled (a :: first) later value (by rw [same, List.cons_append])
            ((finishes_iff large).mp ⟨partly, begun, finishes⟩)
        obtain ⟨fault, failed, start⟩ := decodeFrom_unfinished unfinished (show partly.seen ≤ position + 1 by omega) read
        exact ⟨fault, failed, by omega⟩

private theorem decodeFrom_characters (characters : List Char) (position : Nat) (read : Text) (rest : List UInt8) :
    decodeFrom position read none (characters.flatMap String.utf8EncodeChar ++ rest) =
      decodeFrom (position + (characters.flatMap String.utf8EncodeChar).length)
        ((characters.map CodePoint.char).reverse ++ read) none rest := by
  induction characters generalizing position read with
  | nil => rfl
  | cons c later ih =>
    rw [List.flatMap_cons, List.append_assoc, decodeFrom_character, ih, List.length_append, Nat.add_assoc, List.map_cons,
      List.reverse_cons, List.append_assoc, List.singleton_append]

private theorem decode_encode (content : String) : decode (encode content) = .ok content := by
  have decoded := decodeFrom_characters content.toList 0 [] []
  rw [List.append_nil, List.append_nil] at decoded
  rw [decode, encode_eq, decoded, decodeFrom, List.reverse_reverse]
  rfl

/-- Bytes go on with characters as long as there are some. -/
theorem exists_characters (bytes : List UInt8) : ∃ (content : String) (rest : List UInt8),
    bytes = encode content ++ rest ∧ ∀ c more, rest ≠ String.utf8EncodeChar c ++ more := by
  by_cases starts : ∃ c more, bytes = String.utf8EncodeChar c ++ more
  · obtain ⟨c, more, split⟩ := starts
    obtain ⟨content, rest, same, stuck⟩ := exists_characters more
    refine ⟨String.ofList (c :: content.toList), rest, ?_, stuck⟩
    rw [encode_ofList, List.flatMap_cons, ← encode_eq, List.append_assoc, ← same, split]
  · exact ⟨"", bytes, rfl, fun c more split => starts ⟨c, more, split⟩⟩
termination_by bytes.length
decreasing_by
  have some : 0 < (String.utf8EncodeChar c).length := List.length_pos_iff.mpr String.utf8EncodeChar_ne_nil
  rw [split, List.length_append]
  omega

end Utf8

namespace Envelope
open Utf8 (encode)

/-- Bytes are taken as the text that they encode. Bytes that are not well-formed are refused, whatever they hold,
and the fault is where a character is missing after all before have been read. -/
theorem bytes_and_text_agree (depth : Nat) (room : Room) :
    (∀ content : String, ofFrame depth (.bytes (encode content) room) = ofFrame depth (.text content room)) ∧
    (∀ bytes : List UInt8, bytes.toByteArray.IsValidUTF8 ↔ ∃ content, bytes = encode content) ∧
    ∀ bytes : List UInt8, ¬bytes.toByteArray.IsValidUTF8 → ∃ (intact : String) (rest : List UInt8) (fault : Utf8.Fault),
      bytes = encode intact ++ rest ∧ rest ≠ [] ∧ (∀ c more, rest ≠ String.utf8EncodeChar c ++ more) ∧
      fault.start = (encode intact).length ∧ ofFrame depth (.bytes bytes room) = .error (.undecodable (.bytes fault bytes)) := by
  refine ⟨fun content => ?_, fun bytes => Utf8.valid_iff, fun bytes malformed => ?_⟩
  · simp only [ofFrame, Utf8.decode_encode]
  · obtain ⟨intact, rest, split, stuck⟩ := Utf8.exists_characters bytes
    have any : rest ≠ [] := by
      rintro rfl
      exact malformed (Utf8.valid_iff.mpr ⟨intact, by rw [split, List.append_nil]⟩)
    have read := Utf8.decodeFrom_characters intact.toList 0 [] rest
    rw [← Utf8.encode_eq, ← split, Nat.zero_add] at read
    obtain ⟨fault, failed, start⟩ := Utf8.decodeFrom_stuck any stuck (encode intact).length
      ((intact.toList.map CodePoint.char).reverse ++ [])
    have decoded : Utf8.decode bytes = .error fault := read.trans failed
    exact ⟨intact, rest, fault, split, any, stuck, start, by simp only [ofFrame, decoded]⟩

/-- A spelling that is too long, the half of a pair, and a character that is cut off. -/
example : ∀ bytes ∈ [[0xC0, 0x80], [0xED, 0xA0, 0x80], [0xE2, 0x82]], (Utf8.decode bytes).isOk = false := by decide

end Envelope
end Pubsub
