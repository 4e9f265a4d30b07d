import Pubsub.Proofs.Dialect

/-! Strings, numbers and words are read exactly where the dialect has them. A number is read as far as it
goes, so what is said of reading it holds before whatever may follow a value in a document. -/

namespace Pubsub.Document

private theorem takeWhile_holds (test : CodePoint → Bool) (text : Text) :
    ∀ point ∈ text.takeWhile test, test point = true :=
  List.all_eq_true.mp List.all_takeWhile

private theorem dropWhile_ends (test : CodePoint → Bool) (text : Text) :
    ∀ point ∈ (text.dropWhile test).head?, test point = false := by
  intro point first
  have stops := List.head?_dropWhile_not test text
  rw [Option.mem_def] at first
  rwa [first] at stops

/-- What is taken while a test holds ends where the test first fails. -/
theorem span_append {test : CodePoint → Bool} {first rest : Text} (holds : ∀ point ∈ first, test point = true)
    (ends : ∀ point ∈ rest.head?, test point = false) :
    (first ++ rest).takeWhile test = first ∧ (first ++ rest).dropWhile test = rest := by
  rw [List.takeWhile_append_of_pos holds, List.dropWhile_append_of_pos holds]
  cases rest with
  | nil => simp
  | cons point rest =>
    have stops := ends point rfl
    simp [stops]

theorem skipSpace_split (text : Text) : ∃ blank, Blank blank ∧ text = blank ++ skipSpace text :=
  ⟨text.takeWhile isSpace, takeWhile_holds isSpace text, List.takeWhile_append_dropWhile.symm⟩

theorem skipSpace_of_blank {blank rest : Text} (nothing : Blank blank)
    (solid : ∀ point ∈ rest.head?, isSpace point = false) : skipSpace (blank ++ rest) = rest :=
  (span_append nothing solid).2

private theorem pieces_sound {opening text rest : Text} {read found : List Piece}
    (parsed : pieces opening read text = .ok (found, rest)) :
    ∃ content more, SpellsPieces content more ∧ text = content ++ .char '"' :: rest ∧ found = read.reverse ++ more := by
  fun_induction pieces opening read text with
  | case1 => contradiction
  | case2 read rest =>
    cases parsed
    exact ⟨[], [], .nil, rfl, (List.append_nil _).symm⟩
  | case3 => contradiction
  | case4 read a b c d n point rest unit ih =>
    obtain ⟨content, more, spelled, split, rfl⟩ := ih parsed
    refine ⟨_, _, .cons (.numbered unit) spelled, ?_, ?_⟩ <;> simp [split]
  | case5 => contradiction
  | case6 => contradiction
  | case7 read escape rest _ _ c known ih =>
    obtain ⟨content, more, spelled, rfl, rfl⟩ := ih parsed
    refine ⟨_, _, .cons (.short known) spelled, ?_, ?_⟩ <;> simp
  | case8 => contradiction
  | case9 => contradiction
  | case10 read point rest quote alone _ _ escape printed ih =>
    obtain ⟨content, more, spelled, rfl, rfl⟩ := ih parsed
    have unescaped : point ≠ .char '\\' := by
      intro same
      cases split : content ++ .char '"' :: _ with
      | nil => exact alone same split
      | cons first later => exact escape first later same split
    refine ⟨_, _, .cons (.plain (Nat.le_of_not_lt printed) quote unescaped) spelled, ?_, ?_⟩ <;> simp

private theorem pieces_complete {content : Text} {more : List Piece} (spelled : SpellsPieces content more)
    (opening rest : Text) (read : List Piece) :
    pieces opening read (content ++ .char '"' :: rest) = .ok (read.reverse ++ more, rest) := by
  induction spelled generalizing read with
  | nil => simp [pieces]
  | @cons first later piece others head tail ih =>
    have next : pieces opening read (first ++ later ++ .char '"' :: rest) =
        pieces opening (piece :: read) (later ++ .char '"' :: rest) := by
      cases head with
      | plain printed quote escape => simp [pieces, escape, Nat.not_lt.mpr printed]
      | @short escape c known =>
        have other : escape ≠ .char 'u' := by
          rintro rfl
          contradiction
        simp [pieces, known, other]
      | numbered unit =>
        cases later <;> simp [pieces, unit]
    rw [next, ih, List.reverse_cons, List.append_assoc, List.singleton_append]

theorem string_sound {opening text rest value : Text} (parsed : string opening text = .ok (value, rest)) :
    ∃ used, .char '"' :: text = used ++ rest ∧ SpellsText used value := by
  unfold string at parsed
  cases found : pieces opening [] text with
  | error stop => simp [found, Except.map] at parsed
  | ok result =>
    obtain ⟨pieces, left⟩ := result
    simp only [found, Except.map, Except.ok.injEq, Prod.mk.injEq] at parsed
    obtain ⟨rfl, rfl⟩ := parsed
    obtain ⟨content, more, spelled, rfl, same⟩ := pieces_sound found
    exact ⟨.char '"' :: content ++ [.char '"'], by simp, content, more, spelled, rfl, congrArg Piece.text same⟩

theorem string_complete {used value : Text} (spelled : SpellsText used value) (rest : Text) :
    ∃ content, used = .char '"' :: content ∧ ∀ opening, string opening (content ++ rest) = .ok (value, rest) := by
  obtain ⟨content, more, spelled, rfl, rfl⟩ := spelled
  refine ⟨content ++ [.char '"'], rfl, fun opening => ?_⟩
  have read := pieces_complete spelled opening rest []
  simp [string, read, Except.map]

/-- What may follow a value: nothing, white space, a comma, or the end of a container. -/
def Follows (rest : Text) : Prop :=
  ∀ point ∈ rest.head?, isSpace point = true ∨ point = .char ',' ∨ point = .char ']' ∨ point = .char '}'

/-- Where a whole number ends: what comes next is no digit, no fraction and no exponent. -/
structure Ends (rest : Text) : Prop where
  digit : ∀ point ∈ rest.head?, isDigit point = false
  fraction : ∀ {used more decimals : Text}, rest = used ++ more → SpellsFraction used decimals → decimals = []
  exponent : ∀ {used more : Text} {power : Option Int}, rest = used ++ more → SpellsExponent used power → power = none

private theorem whole?_sound {text digits rest : Text} (found : whole? text = some (digits, rest)) :
    text = digits ++ rest ∧ Whole digits := by
  unfold whole? at found
  split at found
  · cases found
    exact ⟨rfl, .inl rfl⟩
  next zero =>
    dsimp only at found
    split at found
    · contradiction
    next some =>
      cases found
      refine ⟨List.takeWhile_append_dropWhile.symm, .inr ⟨⟨by simpa using some, takeWhile_holds isDigit text⟩, ?_⟩⟩
      rw [List.head?_takeWhile]
      cases text with
      | nil => simp
      | cons point rest =>
        have other : point ≠ .char '0' := fun same => zero rest (same ▸ rfl)
        simp [Option.filter, other]

private theorem whole?_ends {text digits rest : Text} (found : whole? text = some (digits, rest))
    (several : digits ≠ [.char '0']) :
    ∀ point ∈ rest.head?, isDigit point = false := by
  unfold whole? at found
  split at found
  · cases found
    exact absurd rfl several
  · dsimp only at found
    split at found
    · contradiction
    · cases found
      exact dropWhile_ends isDigit text

private theorem whole?_complete {digits rest : Text} (whole : Whole digits)
    (ends : ∀ point ∈ rest.head?, isDigit point = false) :
    whole? (digits ++ rest) = some (digits, rest) := by
  rcases whole with rfl | ⟨⟨any, holds⟩, other⟩
  · rfl
  · obtain ⟨first, later, rfl⟩ := List.exists_cons_of_ne_nil any
    obtain ⟨taken, left⟩ := span_append holds ends
    unfold whole?
    split
    next start =>
      cases start
      exact absurd rfl other
    · simp only [taken, left, List.isEmpty_cons, Bool.false_eq_true, if_false]

private theorem fraction_sound {text decimals rest : Text} (found : fraction text = (decimals, rest)) :
    ∃ used, text = used ++ rest ∧ SpellsFraction used decimals := by
  unfold fraction at found
  split at found
  next start =>
    dsimp only at found
    split at found
    · cases found
      exact ⟨[], rfl, .nothing⟩
    next any =>
      cases found
      exact ⟨_, congrArg _ List.takeWhile_append_dropWhile.symm, .decimals ⟨by simpa using any, takeWhile_holds isDigit _⟩⟩
  · cases found
    exact ⟨[], rfl, .nothing⟩

private theorem fraction_decimals {digits rest : Text} (any : Digits digits)
    (ends : ∀ point ∈ rest.head?, isDigit point = false) :
    fraction (.char '.' :: digits ++ rest) = (digits, rest) := by
  obtain ⟨taken, left⟩ := span_append any.2 ends
  simp [fraction, taken, left, any.1]

private theorem fraction_rest {text rest : Text} (found : fraction text = ([], rest)) : rest = text := by
  obtain ⟨used, rfl, spelled⟩ := fraction_sound found
  cases spelled with
  | nothing => rfl
  | decimals any => exact absurd rfl any.1

private theorem fraction_nothing {rest : Text} (ends : Ends rest) : fraction rest = ([], rest) := by
  cases found : fraction rest with
  | mk decimals left =>
    obtain ⟨used, split, spelled⟩ := fraction_sound found
    obtain rfl := ends.fraction split spelled
    rw [fraction_rest found]

/-- What the digits of an exponent come to, or that there are none. -/
theorem power_sound {text rest left : Text} {negative : Bool} {power : Option Int}
    (found : (if (rest.takeWhile isDigit).isEmpty then (none, text)
      else (some (signed negative (digitsValue (rest.takeWhile isDigit))), rest.dropWhile isDigit)) = (power, left)) :
    (power = none ∧ left = text) ∨
      ∃ digits, Digits digits ∧ rest = digits ++ left ∧ power = some (signed negative (digitsValue digits)) := by
  split at found
  · cases found
    exact .inl ⟨rfl, rfl⟩
  next any =>
    cases found
    exact .inr ⟨_, ⟨by simpa using any, takeWhile_holds isDigit rest⟩, List.takeWhile_append_dropWhile.symm, rfl⟩

private theorem exponent_sound {text rest : Text} {power : Option Int} (found : exponent text = (power, rest)) :
    ∃ used, text = used ++ rest ∧ SpellsExponent used power := by
  have marked (mark : CodePoint) (either : mark = .char 'e' ∨ mark = .char 'E') (sign digits : Text) (negative : Bool)
      (listed : (sign, negative) ∈ signs) (same : text = mark :: sign ++ digits)
      (split : (power = none ∧ rest = text) ∨
        ∃ taken, Digits taken ∧ digits = taken ++ rest ∧ power = some (signed negative (digitsValue taken))) :
      ∃ used, text = used ++ rest ∧ SpellsExponent used power := by
    rcases split with ⟨rfl, rfl⟩ | ⟨taken, any, rfl, rfl⟩
    · exact ⟨[], rfl, .nothing⟩
    · exact ⟨mark :: sign ++ taken, by simp [same], .power either listed any⟩
  unfold exponent at found
  dsimp only at found
  split at found
  · split at found
    · exact marked _ (.inl rfl) [.char '-'] _ true (by decide) rfl (power_sound found)
    · exact marked _ (.inl rfl) [.char '+'] _ false (by decide) rfl (power_sound found)
    · exact marked _ (.inl rfl) [] _ false (by decide) rfl (power_sound found)
  · split at found
    · exact marked _ (.inr rfl) [.char '-'] _ true (by decide) rfl (power_sound found)
    · exact marked _ (.inr rfl) [.char '+'] _ false (by decide) rfl (power_sound found)
    · exact marked _ (.inr rfl) [] _ false (by decide) rfl (power_sound found)
  · cases found
    exact ⟨[], rfl, .nothing⟩

private theorem exponent_rest {text rest : Text} (found : exponent text = (none, rest)) : rest = text := by
  obtain ⟨used, rfl, spelled⟩ := exponent_sound found
  cases spelled
  rfl

private theorem exponent_nothing {rest : Text} (ends : Ends rest) : exponent rest = (none, rest) := by
  cases found : exponent rest with
  | mk power left =>
    obtain ⟨used, split, spelled⟩ := exponent_sound found
    obtain rfl := ends.exponent split spelled
    rw [exponent_rest found]

private theorem exponent_power {mark : CodePoint} {sign digits rest : Text} {negative : Bool}
    (marked : mark = .char 'e' ∨ mark = .char 'E') (listed : (sign, negative) ∈ signs) (any : Digits digits)
    (ends : ∀ point ∈ rest.head?, isDigit point = false) :
    exponent (mark :: sign ++ digits ++ rest) = (some (signed negative (digitsValue digits)), rest) := by
  obtain ⟨taken, left⟩ := span_append any.2 ends
  obtain ⟨first, later, rfl⟩ := List.exists_cons_of_ne_nil any.1
  have figure := any.2 first List.mem_cons_self
  have unsigned : first ≠ .char '-' ∧ first ≠ .char '+' := by
    constructor <;> rintro rfl <;> exact absurd figure (by decide)
  simp only [signs, List.mem_cons, Prod.mk.injEq, List.not_mem_nil, or_false] at listed
  rcases listed with ⟨rfl, rfl⟩ | ⟨rfl, rfl⟩ | ⟨rfl, rfl⟩ <;> rcases marked with rfl | rfl <;>
    simp [exponent, signed, unsigned, figure] at taken left ⊢ <;> simp [taken, left]

private theorem Ends.of_head {rest : Text}
    (head : ∀ point ∈ rest.head?, isDigit point = false ∧ point ≠ .char '.' ∧ point ≠ .char 'e' ∧ point ≠ .char 'E') :
    Ends rest where
  digit point member := (head point member).1
  fraction split spelled := by
    cases spelled with
    | nothing => rfl
    | decimals any => exact absurd rfl (head (.char '.') (split ▸ rfl)).2.1
  exponent split spelled := by
    cases spelled with
    | nothing => rfl
    | @power mark _ _ _ marked sound any =>
      have other := (head mark (split ▸ rfl)).2.2
      exact marked.elim (fun same => absurd same other.1) fun same => absurd same other.2

private theorem isDigit_of_isSpace {point : CodePoint} (space : isSpace point = true) : isDigit point = false := by
  unfold isSpace at space
  split at space <;> first | rfl | contradiction

theorem Follows.ends {rest : Text} (follows : Follows rest) : Ends rest := by
  refine .of_head fun point member => ?_
  rcases follows point member with space | rfl | rfl | rfl
  · refine ⟨isDigit_of_isSpace space, ?_, ?_, ?_⟩ <;> rintro rfl <;> contradiction
  all_goals decide

def Overlong (text : Text) : Prop :=
  ∃ negative digits rest, text = minus negative ++ digits ++ rest ∧ Whole digits ∧ digitLimit < digits.length ∧ Ends rest

private theorem number_eq {start text digits decimals middle late rest : Text} {power : Option Int} (negative : Bool)
    (whole : whole? text = some (digits, middle)) (point : fraction middle = (decimals, late))
    (exponential : exponent late = (power, rest)) :
    number start negative text =
      if decimals = [] ∧ power = none then
        if digits.length > digitLimit then .error (.tooManyDigits digits.length)
        else .ok (.int (signed negative (digitsValue digits)), rest)
      else
        .ok (.float (Binary64.ofDecimal negative (digitsValue (digits ++ decimals)) (power.getD 0 - decimals.length)),
          rest) := by
  simp [number, whole, point, exponential, signed]

private theorem number_sound {start text rest : Text} {negative : Bool} {value : Json}
    (parsed : number start negative text = .ok (value, rest)) :
    ∃ used, text = used ++ rest ∧ SpellsNumber digitLimit (minus negative ++ used) value := by
  cases whole : whole? text with
  | none => simp [number, whole] at parsed
  | some found =>
    obtain ⟨digits, middle⟩ := found
    cases point : fraction middle with
    | mk decimals late =>
    cases exponential : exponent late with
    | mk power left =>
    rw [number_eq negative whole point exponential] at parsed
    obtain ⟨rfl, proper⟩ := whole?_sound whole
    obtain ⟨dotted, rfl, pointed⟩ := fraction_sound point
    obtain ⟨scaled, rfl, raised⟩ := exponent_sound exponential
    split at parsed
    next bare =>
      obtain ⟨rfl, rfl⟩ := bare
      split at parsed
      · contradiction
      next bounded =>
        cases parsed
        cases pointed with
        | nothing =>
          cases raised with
          | nothing => exact ⟨digits, rfl, .whole negative proper (Nat.le_of_not_lt bounded)⟩
        | decimals any => exact absurd rfl any.1
    next either =>
      cases parsed
      exact ⟨digits ++ dotted ++ scaled, by simp, .decimal negative proper pointed raised either⟩

theorem Whole.head {digits : Text} (whole : Whole digits) :
    ∃ first later, digits = first :: later ∧ isDigit first = true := by
  rcases whole with rfl | ⟨⟨any, holds⟩, _⟩
  · exact ⟨_, _, rfl, by decide⟩
  · obtain ⟨first, later, rfl⟩ := List.exists_cons_of_ne_nil any
    exact ⟨first, later, rfl, holds first List.mem_cons_self⟩

theorem SpellsExponent.ends {used rest : Text} {power : Option Int} (spelled : SpellsExponent used power)
    (ends : Ends rest) :
    ∀ point ∈ (used ++ rest).head?, isDigit point = false := by
  cases spelled with
  | nothing => exact ends.digit
  | power marked => rcases marked with rfl | rfl <;> simp [isDigit]

theorem SpellsExponent.read {used rest : Text} {power : Option Int} (spelled : SpellsExponent used power)
    (ends : Ends rest) :
    exponent (used ++ rest) = (power, rest) := by
  cases spelled with
  | nothing => exact exponent_nothing ends
  | power marked listed any => exact exponent_power marked listed any ends.digit

theorem SpellsFraction.ends {used decimals rest : Text} (spelled : SpellsFraction used decimals)
    (ends : ∀ point ∈ rest.head?, isDigit point = false) : ∀ point ∈ (used ++ rest).head?, isDigit point = false := by
  cases spelled with
  | nothing => exact ends
  | decimals => simp [isDigit]

theorem SpellsFraction.read {used decimals scaled rest : Text} {power : Option Int}
    (spelled : SpellsFraction used decimals)
    (raised : SpellsExponent scaled power) (ends : Ends rest) :
    fraction (used ++ (scaled ++ rest)) = (decimals, scaled ++ rest) := by
  cases spelled with
  | decimals any => exact fraction_decimals any (raised.ends ends)
  | nothing =>
    cases raised with
    | nothing => exact fraction_nothing ends
    | power marked => rcases marked with rfl | rfl <;> rfl

/-- A whole number is read where it ends, unless it has too many digits. -/
theorem number_whole {start digits rest : Text} {negative : Bool} (whole : Whole digits) (ends : Ends rest) :
    number start negative (digits ++ rest) =
      if digits.length > digitLimit then .error (.tooManyDigits digits.length)
      else .ok (.int (signed negative (digitsValue digits)), rest) := by
  rw [number_eq negative (whole?_complete whole ends.digit) (fraction_nothing ends) (exponent_nothing ends),
    if_pos ⟨rfl, rfl⟩]

private theorem number_complete {bound : Nat} {used rest : Text} {value : Json}
    (spelled : SpellsNumber bound used value)
    (ends : Ends rest) :
    ∃ negative body, used = minus negative ++ body ∧ (∃ first later, body = first :: later ∧ isDigit first = true) ∧
      ∀ start, number start negative (body ++ rest) = .ok (value, rest) ∨
        digitLimit < bound ∧ ∃ count, number start negative (body ++ rest) = .error (.tooManyDigits count) := by
  cases spelled with
  | @whole digits negative whole bounded =>
    refine ⟨negative, digits, rfl, whole.head, fun start => ?_⟩
    rw [number_whole whole ends]
    split
    next beyond => exact .inr ⟨Nat.lt_of_lt_of_le beyond bounded, _, rfl⟩
    · exact .inl rfl
  | @decimal digits dotted decimals scaled power negative whole pointed raised either =>
    obtain ⟨first, later, rfl, figure⟩ := whole.head
    refine ⟨negative, _, rfl, ⟨first, _, rfl, figure⟩, fun start => .inl ?_⟩
    have middle := pointed.ends (raised.ends ends)
    rw [List.append_assoc, List.append_assoc,
      number_eq negative (whole?_complete whole middle) (pointed.read raised ends) (raised.read ends), if_neg either]

/-- Whether a reader stopped at one of its limits, and not at what is no document. -/
def Stop.limited : Stop → Bool
  | .malformed _ _ => false
  | .tooManyDigits _ | .tooDeep _ => true

private theorem pieces_unlimited {opening text : Text} {read : List Piece} {stop : Stop}
    (failed : pieces opening read text = .error stop) : stop.limited = false := by
  fun_induction pieces opening read text with
  | case1 | case3 | case5 | case6 | case8 | case9 => cases failed; rfl
  | case2 => contradiction
  | case4 _ _ _ _ _ _ _ _ _ ih | case7 _ _ _ _ _ _ _ ih | case10 _ _ _ _ _ _ _ _ _ ih => exact ih failed

theorem string_unlimited {opening text : Text} {stop : Stop} (failed : string opening text = .error stop) :
    stop.limited = false := by
  unfold string at failed
  cases found : pieces opening [] text with
  | ok => simp [found, Except.map] at failed
  | error other =>
    simp only [found, Except.map, Except.error.injEq] at failed
    exact pieces_unlimited (failed ▸ found)

/-- Digits with whatever comes after them go on to where digits end. -/
theorem Digits.longest {digits : Text} (any : Digits digits) (more : Text) :
    ∃ longer rest, digits ++ more = longer ++ rest ∧ Digits longer ∧ ∀ point ∈ rest.head?, isDigit point = false := by
  refine ⟨_, _, List.takeWhile_append_dropWhile.symm, ⟨?_, takeWhile_holds isDigit _⟩, dropWhile_ends isDigit _⟩
  obtain ⟨first, later, rfl⟩ := List.exists_cons_of_ne_nil any.1
  simp [any.2 first List.mem_cons_self]

private theorem ends_of_read {rest : Text} (digit : ∀ point ∈ rest.head?, isDigit point = false)
    (point : fraction rest = ([], rest))
    (exponential : exponent rest = (none, rest)) : Ends rest where
  digit := digit
  fraction split spelled := by
    cases spelled with
    | nothing => rfl
    | decimals any =>
      obtain ⟨longer, left, same, proper, ends⟩ := any.longest _
      rw [split, List.cons_append, same, ← List.cons_append, fraction_decimals proper ends] at point
      exact absurd (congrArg Prod.fst point) proper.1
  exponent split spelled := by
    cases spelled with
    | nothing => rfl
    | power marked listed any =>
      obtain ⟨longer, left, same, proper, ends⟩ := any.longest _
      rw [split, List.append_assoc, same, ← List.append_assoc, exponent_power marked listed proper ends] at exponential
      cases congrArg Prod.fst exponential

private theorem number_overlong {start text : Text} {stop : Stop} (negative : Bool)
    (failed : number start negative text = .error stop) (limited : stop.limited = true) :
    Overlong (minus negative ++ text) := by
  cases whole : whole? text with
  | none =>
    simp only [number, whole, Except.error.injEq] at failed
    exact absurd limited (failed ▸ Bool.false_ne_true)
  | some found =>
    obtain ⟨digits, middle⟩ := found
    cases point : fraction middle with
    | mk decimals late =>
    cases exponential : exponent late with
    | mk power left =>
    rw [number_eq negative whole point exponential] at failed
    split at failed
    next bare =>
      obtain ⟨rfl, rfl⟩ := bare
      split at failed
      next beyond =>
        obtain rfl := fraction_rest point
        obtain rfl := exponent_rest exponential
        obtain ⟨rfl, proper⟩ := whole?_sound whole
        have several : digits ≠ [.char '0'] := by
          rintro rfl
          exact absurd beyond (by decide)
        exact ⟨negative, digits, _, (List.append_assoc _ _ _).symm, proper, beyond,
          ends_of_read (whole?_ends whole several) point exponential⟩
      · contradiction
    · contradiction

private theorem after?_iff {word text rest : Text} : after? word text = some rest ↔ text = word ++ rest := by
  induction word generalizing text with
  | nil => simp [after?, eq_comm]
  | cons expected more ih =>
    cases text with
    | nil => simp [after?]
    | cons point later =>
      by_cases same : expected = point
      · subst same
        simpa [after?] using ih
      · simp [after?, same, Ne.symm same]

private theorem word?_sound {text rest : Text} {value : Json} (found : word? text = some (value, rest)) :
    ∃ word, (word, value) ∈ words ∧ text = word ++ rest := by
  obtain ⟨⟨word, known⟩, listed, matched⟩ := List.exists_of_findSome?_eq_some found
  obtain ⟨left, after, same⟩ := Option.map_eq_some_iff.mp matched
  cases same
  exact ⟨word, listed, after?_iff.mp after⟩

private theorem word?_complete {word : Text} {value : Json} (known : (word, value) ∈ words) (rest : Text) :
    word? (word ++ rest) = some (value, rest) := by
  simp only [words, List.mem_cons, Prod.mk.injEq, List.not_mem_nil, or_false] at known
  rcases known with ⟨rfl, rfl⟩ | ⟨rfl, rfl⟩ | ⟨rfl, rfl⟩ | ⟨rfl, rfl⟩ | ⟨rfl, rfl⟩ | ⟨rfl, rfl⟩ <;> rfl

/-- No word begins as a number does. -/
theorem word?_number (negative : Bool) {first : CodePoint} (figure : isDigit first = true) (rest : Text) :
    word? (minus negative ++ first :: rest) = none := by
  cases found : word? (minus negative ++ first :: rest) with
  | none => rfl
  | some result =>
    obtain ⟨word, known, split⟩ := word?_sound found
    simp only [words, List.mem_cons, Prod.mk.injEq, List.not_mem_nil, or_false] at known
    cases negative <;>
      rcases known with ⟨rfl, _⟩ | ⟨rfl, _⟩ | ⟨rfl, _⟩ | ⟨rfl, _⟩ | ⟨rfl, _⟩ | ⟨rfl, _⟩ <;> cases split <;>
      exact absurd figure (by decide)

private theorem scalar_number (negative : Bool) {first : CodePoint} (figure : isDigit first = true) (rest : Text) :
    scalar (minus negative ++ first :: rest) = number (minus negative ++ first :: rest) negative (first :: rest) := by
  have none := word?_number negative figure rest
  unfold scalar
  rw [none]
  cases negative with
  | true => rfl
  | false =>
    simp only [minus, Bool.false_eq_true, if_false, List.nil_append]
    split
    next quoted =>
      cases quoted
      exact absurd figure (by decide)
    · split
      · contradiction
      next signed =>
        cases signed
        exact absurd figure (by decide)
      · rfl

theorem scalar_sound {text rest : Text} {value : Json} (parsed : scalar text = .ok (value, rest)) :
    ∃ used, text = used ++ rest ∧ SpellsScalar digitLimit used value := by
  unfold scalar at parsed
  split at parsed
  next opened =>
    cases found : string (.char '"' :: opened) opened with
    | error => simp [found, Except.map] at parsed
    | ok result =>
      simp only [found, Except.map, Except.ok.injEq, Prod.mk.injEq] at parsed
      obtain ⟨rfl, rfl⟩ := parsed
      obtain ⟨used, split, spelled⟩ := string_sound found
      exact ⟨used, split, .text spelled⟩
  · split at parsed
    next found =>
      cases parsed
      obtain ⟨word, known, split⟩ := word?_sound found
      exact ⟨word, split, .word known⟩
    · obtain ⟨used, rfl, spelled⟩ := number_sound parsed
      exact ⟨_, rfl, .number spelled⟩
    · obtain ⟨used, rfl, spelled⟩ := number_sound parsed
      exact ⟨used, rfl, .number spelled⟩

private theorem scalar_text {quoted value : Text} (spelled : SpellsText quoted value) (rest : Text) :
    scalar (quoted ++ rest) = .ok (.text value, rest) := by
  obtain ⟨content, rfl, read⟩ := string_complete spelled rest
  simp [scalar, read, Except.map]

/-- A scalar is read to its end, unless it has more digits than are read. -/
theorem scalar_complete {bound : Nat} {used rest : Text} {value : Json} (spelled : SpellsScalar bound used value)
    (follows : Follows rest) :
    scalar (used ++ rest) = .ok (value, rest) ∨
      digitLimit < bound ∧ ∃ count, scalar (used ++ rest) = .error (.tooManyDigits count) := by
  cases spelled with
  | text spelled => exact .inl (scalar_text spelled rest)
  | word known =>
    have found := word?_complete known rest
    left
    unfold scalar
    rw [found]
    split
    next quoted =>
      simp only [words, List.mem_cons, Prod.mk.injEq, List.not_mem_nil, or_false] at known
      rcases known with ⟨rfl, _⟩ | ⟨rfl, _⟩ | ⟨rfl, _⟩ | ⟨rfl, _⟩ | ⟨rfl, _⟩ | ⟨rfl, _⟩ <;> cases quoted
    · rfl
  | number spelled =>
    obtain ⟨negative, body, rfl, ⟨first, later, rfl, figure⟩, read⟩ := number_complete spelled follows.ends
    rw [List.append_assoc, List.cons_append, scalar_number negative figure]
    exact read _

theorem scalar_of_overlong {text : Text} (overlong : Overlong text) :
    ∃ count, scalar text = .error (.tooManyDigits count) := by
  obtain ⟨negative, digits, rest, rfl, whole, beyond, ends⟩ := overlong
  obtain ⟨first, later, rfl, figure⟩ := whole.head
  refine ⟨(first :: later).length, ?_⟩
  rw [List.append_assoc, List.cons_append, scalar_number negative figure, ← List.cons_append, number_whole whole ends,
    if_pos beyond]

theorem scalar_overlong {text : Text} {stop : Stop} (failed : scalar text = .error stop) (limited : stop.limited = true) :
    Overlong text := by
  unfold scalar at failed
  split at failed
  next opened =>
    cases found : string (.char '"' :: opened) opened with
    | ok => simp [found, Except.map] at failed
    | error other =>
      simp only [found, Except.map, Except.error.injEq] at failed
      exact absurd limited (failed ▸ string_unlimited found ▸ Bool.false_ne_true)
  · split at failed
    · contradiction
    · exact number_overlong true failed limited
    · exact number_overlong false failed limited

def beginsScalar (point : CodePoint) : Bool :=
  isDigit point || (['"', '-', 'n', 't', 'f', 'N', 'I'].map CodePoint.char).contains point

def opens (point : CodePoint) : Bool := point == .char '[' || point == .char '{'

theorem SpellsScalar.head {bound : Nat} {text : Text} {value : Json} (spelled : SpellsScalar bound text value) :
    ∃ first later, text = first :: later ∧ beginsScalar first = true := by
  cases spelled with
  | word known =>
    simp only [words, List.mem_cons, Prod.mk.injEq, List.not_mem_nil, or_false] at known
    rcases known with ⟨rfl, _⟩ | ⟨rfl, _⟩ | ⟨rfl, _⟩ | ⟨rfl, _⟩ | ⟨rfl, _⟩ | ⟨rfl, _⟩ <;> exact ⟨_, _, rfl, by decide⟩
  | text spelled =>
    obtain ⟨content, _, _, rfl, _⟩ := spelled
    exact ⟨_, _, rfl, by decide⟩
  | number spelled =>
    have numeral (negative : Bool) {digits : Text} (whole : Whole digits) (more : Text) :
        ∃ first later, minus negative ++ (digits ++ more) = first :: later ∧ beginsScalar first = true := by
      obtain ⟨first, later, rfl, figure⟩ := whole.head
      cases negative with
      | true => exact ⟨_, _, rfl, by decide⟩
      | false => exact ⟨first, later ++ more, rfl, by simp [beginsScalar, figure]⟩
    cases spelled with
    | whole negative whole => simpa using numeral negative whole []
    | decimal negative whole => simpa using numeral negative whole _

theorem Overlong.head {text : Text} (overlong : Overlong text) :
    ∃ first later, text = first :: later ∧ beginsScalar first = true := by
  obtain ⟨negative, digits, rest, rfl, whole, -, -⟩ := overlong
  obtain ⟨first, later, split, begun⟩ :=
    SpellsScalar.head (.number (SpellsNumber.whole negative whole (Nat.le_refl digits.length)))
  exact ⟨first, later ++ rest, by rw [split, List.cons_append], begun⟩

theorem opens_of_beginsScalar {point : CodePoint} (first : beginsScalar point = true) : opens point = false := by
  by_cases list : point = .char '['
  · subst list
    contradiction
  · by_cases object : point = .char '{'
    · subst object
      contradiction
    · simp [opens, list, object]

/-- What a value begins with is neither white space nor the end of a container. -/
theorem solid_of_begins {point : CodePoint} (first : beginsScalar point || opens point) :
    isSpace point = false ∧ point ≠ .char ']' ∧ point ≠ .char '}' := by
  refine ⟨?_, ?_, ?_⟩
  · unfold isSpace
    split <;> first | contradiction | rfl
  all_goals
    rintro rfl
    contradiction

end Pubsub.Document
