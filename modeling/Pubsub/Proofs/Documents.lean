import Pubsub.Proofs.Containers

/-! The reader of documents reads what the dialect spells and nothing else, as long as it stays within its
limits. Where it stops at a limit, a text that could have gone on as a document has come to a whole number
that is too long or to containers nested too deep. -/

namespace Pubsub.Document

private theorem value_scalar {fuel depth : Nat} {first : CodePoint} {rest : Text} (flat : opens first = false) :
    value fuel depth (first :: rest) = scalar (first :: rest) := by
  cases depth <;>
  · unfold value
    split
    next opened =>
      cases opened
      contradiction
    next opened =>
      cases opened
      contradiction
    · rfl

private theorem value_list (fuel depth : Nat) (rest : Text) :
    value fuel (depth + 1) (.char '[' :: rest) =
      (container (value fuel depth) (.char ']') .expectedValue fuel rest).map fun (found, rest) => (.list found, rest) :=
  listBody_eq _ _ _

private theorem value_object (fuel depth : Nat) (rest : Text) :
    value fuel (depth + 1) (.char '{' :: rest) =
      (container (member (value fuel depth)) (.char '}') .expectedName fuel rest).map fun (found, rest) =>
        (.object (Members.ofList found), rest) :=
  objectBody_eq _ _ _

private theorem value_sound (fuel depth : Nat) : Sound (value fuel depth) (Spells digitLimit depth) := by
  induction depth with
  | zero =>
    intro text rest found parsed
    unfold value at parsed
    split at parsed
    · contradiction
    · contradiction
    · exact scalar_sound parsed
  | succ depth ih =>
    intro text rest found parsed
    unfold value at parsed
    split at parsed
    next opened =>
      rw [listBody_eq] at parsed
      cases read : container (value fuel depth) (.char ']') .expectedValue fuel opened with
      | error => simp [read, Except.map] at parsed
      | ok result =>
        simp only [read, Except.map, Except.ok.injEq, Prod.mk.injEq] at parsed
        obtain ⟨rfl, rfl⟩ := parsed
        obtain ⟨inner, rfl, listed⟩ := container_sound ih read
        exact ⟨_, by simp, .list listed⟩
    next opened =>
      rw [objectBody_eq] at parsed
      cases read : container (member (value fuel depth)) (.char '}') .expectedName fuel opened with
      | error => simp [read, Except.map] at parsed
      | ok result =>
        simp only [read, Except.map, Except.ok.injEq, Prod.mk.injEq] at parsed
        obtain ⟨rfl, rfl⟩ := parsed
        obtain ⟨inner, rfl, listed⟩ := container_sound (member_sound ih) read
        exact ⟨_, by simp, .object listed⟩
    · obtain ⟨used, split, spelled⟩ := scalar_sound parsed
      exact ⟨used, split, .scalar spelled⟩

private theorem spells_headed (bound depth : Nat) : Headed (Spells bound depth) := by
  have scalar {used : Text} {found : Json} (spelled : SpellsScalar bound used found) :
      ∃ first later, used = first :: later ∧ (beginsScalar first || opens first) := by
    obtain ⟨first, later, split, begun⟩ := spelled.head
    exact ⟨first, later, split, by simp [begun]⟩
  intro used found spelled
  cases depth with
  | zero => exact scalar spelled
  | succ depth =>
    cases spelled with
    | scalar spelled => exact scalar spelled
    | list => exact ⟨_, _, rfl, by decide⟩
    | object => exact ⟨_, _, rfl, by decide⟩

private theorem value_complete_scalar {bound fuel depth : Nat} {exceeded : Prop} {used rest : Text} {found : Json}
    (spelled : SpellsScalar bound used found) (follows : Follows rest) (beyond : digitLimit < bound → exceeded) :
    value fuel depth (used ++ rest) = .ok (found, rest) ∨
      exceeded ∧ ∃ stop, value fuel depth (used ++ rest) = .error stop ∧ stop.limited = true := by
  obtain ⟨first, later, split, begun⟩ := spelled.head
  have read := scalar_complete spelled follows
  rw [split, List.cons_append] at read ⊢
  rw [value_scalar (opens_of_beginsScalar begun)]
  exact read.imp_right fun ⟨exceeds, count, failed⟩ => ⟨beyond exceeds, _, failed, rfl⟩

/-- What is spelled within the limits is read; beyond them a limit may stop the reader, but nothing else. -/
theorem value_complete (fuel bound inner depth : Nat) :
    Complete fuel (digitLimit < bound ∨ depth < inner) (value fuel depth) (Spells bound inner) := by
  induction inner generalizing depth with
  | zero => exact fun spelled _ _ follows => value_complete_scalar spelled follows .inl
  | succ inner ih =>
    intro used found spelled small rest follows
    cases spelled with
    | scalar spelled => exact value_complete_scalar spelled follows .inl
    | @list text items listed =>
      cases depth with
      | zero => exact .inr ⟨.inr (Nat.zero_lt_succ _), _, rfl, rfl⟩
      | succ depth =>
        have enough : text.length ≤ fuel := by
          simp only [List.cons_append, List.length_cons, List.length_append] at small
          omega
        have split : .char '[' :: text ++ [.char ']'] ++ rest = .char '[' :: (text ++ .char ']' :: rest) := by simp
        rw [split, value_list]
        rcases container_complete .expectedValue (ih depth) (spells_headed bound inner) (.inl rfl) listed
          enough rest with read | ⟨exceeded, stop, failed, limited⟩
        · exact .inl (by simp [read, Except.map])
        · exact .inr ⟨exceeded.imp_right Nat.succ_lt_succ, stop, by simp [failed, Except.map], limited⟩
    | @object text members listed =>
      cases depth with
      | zero => exact .inr ⟨.inr (Nat.zero_lt_succ _), _, rfl, rfl⟩
      | succ depth =>
        have enough : text.length ≤ fuel := by
          simp only [List.cons_append, List.length_cons, List.length_append] at small
          omega
        have split : .char '{' :: text ++ [.char '}'] ++ rest = .char '{' :: (text ++ .char '}' :: rest) := by simp
        rw [split, value_object]
        rcases container_complete .expectedName (member_complete (ih depth) (spells_headed bound inner))
          member_headed (.inr rfl) listed enough rest with read | ⟨exceeded, stop, failed, limited⟩
        · exact .inl (by simp [read, Except.map])
        · exact .inr ⟨exceeded.imp_right Nat.succ_lt_succ, stop, by simp [failed, Except.map], limited⟩

/-- A text that goes on as a document as far as a place where a value is due, and what comes there: so
many containers deeper. -/
inductive Leads : Nat → Text → Text → Prop
  | here (text : Text) : Leads 0 text text
  | item {depth : Nat} {before passed rest target : Text} {earlier : List Json} (nothing : Blank before)
    (passes : Passes SpellsAny passed earlier) (inside : Leads depth rest target) :
    Leads (depth + 1) (.char '[' :: (before ++ passed ++ rest)) target
  | member {depth : Nat} {before passed quoted name blank gap rest target : Text} {earlier : Members}
      (nothing : Blank before)
    (passes : Passes (SpellsMember SpellsAny) passed earlier) (named : SpellsText quoted name) (empty : Blank blank)
    (bare : Blank gap) (inside : Leads depth rest target) :
    Leads (depth + 1) (.char '{' :: (before ++ passed ++ (quoted ++ blank ++ .char ':' :: gap ++ rest))) target

def Opens (text : Text) : Prop := ∃ first rest, text = first :: rest ∧ opens first = true

/-- What a reader that may still go so many containers deeper does not read, so many containers deeper. -/
def Exceeds (depth deeper : Nat) (target : Text) : Prop := Opens target ∧ depth ≤ deeper ∨ Overlong target

theorem Passes.mono {α : Type} {first second : Text → α → Prop}
    (implies : ∀ {text value}, first text value → second text value)
    {passed : Text} {earlier : List α} (passes : Passes first passed earlier) : Passes second passed earlier := by
  induction passes with
  | nil => exact .nil
  | cons own nothing empty _ ih => exact .cons (implies own) nothing empty ih

theorem SpellsMember.mono {first second : Text → Json → Prop}
    (implies : ∀ {text value}, first text value → second text value)
    {text : Text} {found : Text × Json} (spelled : SpellsMember first text found) : SpellsMember second text found := by
  obtain ⟨named, nothing, empty, own⟩ := spelled
  exact ⟨named, nothing, empty, implies own⟩

private theorem spellsAny_headed : Headed SpellsAny := fun ⟨bound, depth, spelled⟩ => spells_headed bound depth spelled

/-- Whatever is spelled is read or runs into a limit. -/
theorem value_complete_any (fuel depth : Nat) : Complete fuel True (value fuel depth) SpellsAny :=
  fun ⟨bound, inner, spelled⟩ small _ follows =>
    (value_complete fuel bound inner depth spelled small follows).imp_right fun stopped => ⟨trivial, stopped.2⟩

/-- A reader stops at a limit only where the text has come to what exceeds it. -/
theorem value_limited {fuel depth : Nat} {text : Text} {stop : Stop} (failed : value fuel depth text = .error stop)
    (limited : stop.limited = true) : ∃ deeper target, Leads deeper text target ∧ Exceeds depth deeper target := by
  -- a container is read with one level less, and a place that is too deep for that is one level deeper in the whole
  induction depth generalizing text with
  | zero =>
    unfold value at failed
    split at failed
    · exact ⟨0, _, .here _, .inl ⟨⟨_, _, rfl, rfl⟩, Nat.le_refl 0⟩⟩
    · exact ⟨0, _, .here _, .inl ⟨⟨_, _, rfl, rfl⟩, Nat.le_refl 0⟩⟩
    · exact ⟨0, _, .here _, .inr (scalar_overlong failed limited)⟩
  | succ depth ih =>
    have any {text : Text} {found : Json} (spelled : Spells digitLimit depth text found) : SpellsAny text found :=
      ⟨digitLimit, depth, spelled⟩
    have deeper {inner : Nat} {target : Text} (exceeds : Exceeds depth inner target) :
        Exceeds (depth + 1) (inner + 1) target :=
      exceeds.imp_left fun ⟨opened, deep⟩ => ⟨opened, Nat.succ_le_succ deep⟩
    unfold value at failed
    split at failed
    next opened =>
      rw [listBody_eq] at failed
      cases read : container (value fuel depth) (.char ']') .expectedValue fuel opened with
      | ok => simp [read, Except.map] at failed
      | error other =>
        obtain rfl : other = stop := by simpa [read, Except.map] using failed
        obtain ⟨before, passed, earlier, rest, rfl, nothing, passes, failed⟩ :=
          container_limited (value_sound fuel depth) read limited
        obtain ⟨inner, target, leads, exceeds⟩ := ih failed
        exact ⟨inner + 1, target, .item nothing (passes.mono any) leads, deeper exceeds⟩
    next opened =>
      rw [objectBody_eq] at failed
      cases read : container (member (value fuel depth)) (.char '}') .expectedName fuel opened with
      | ok => simp [read, Except.map] at failed
      | error other =>
        obtain rfl : other = stop := by simpa [read, Except.map] using failed
        obtain ⟨before, passed, earlier, rest, rfl, nothing, passes, failed⟩ :=
          container_limited (member_sound (value_sound fuel depth)) read limited
        obtain ⟨quoted, name, blank, gap, left, rfl, named, empty, bare, failed⟩ := member_limited failed limited
        obtain ⟨inner, target, leads, exceeds⟩ := ih failed
        exact ⟨inner + 1, target, .member nothing (passes.mono (SpellsMember.mono any)) named empty bare leads,
          deeper exceeds⟩
    · exact ⟨0, _, .here _, .inr (scalar_overlong failed limited)⟩

theorem Exceeds.solid {depth deeper : Nat} {text target : Text} (leads : Leads deeper text target)
    (exceeds : Exceeds depth deeper target) : Solid text := by
  cases leads with
  | item => exact .of_begins (by decide) _
  | member => exact .of_begins (by decide) _
  | here =>
    rcases exceeds with ⟨⟨first, rest, rfl, opened⟩, _⟩ | overlong
    · exact .of_begins (by simp [opened]) rest
    · obtain ⟨first, rest, rfl, begun⟩ := overlong.head
      exact .of_begins (by simp [begun]) rest

/-- No reader gets past what exceeds its limits. -/
theorem value_fails {fuel depth deeper : Nat} {text target : Text} (leads : Leads deeper text target)
    (exceeds : Exceeds depth deeper target) (small : text.length ≤ fuel) : ∃ stop, value fuel depth text = .error stop := by
  -- the elements before the one that leads there may stop the reader as well, so only that it stops is kept
  induction leads generalizing depth with
  | here text =>
    rcases exceeds with ⟨⟨first, rest, rfl, opened⟩, deep⟩ | overlong
    · obtain rfl := Nat.le_zero.mp deep
      simp only [opens, Bool.or_eq_true, beq_iff_eq] at opened
      rcases opened with rfl | rfl <;> exact ⟨_, rfl⟩
    · obtain ⟨count, failed⟩ := scalar_of_overlong overlong
      obtain ⟨first, rest, rfl, begun⟩ := overlong.head
      exact ⟨_, (value_scalar (opens_of_beginsScalar begun)).trans failed⟩
  | @item deeper before passed rest target earlier nothing passes inside ih =>
    cases depth with
    | zero => exact ⟨_, rfl⟩
    | succ depth =>
      have exceeds : Exceeds depth deeper target := exceeds.imp_left (And.imp_right Nat.le_of_succ_le_succ)
      simp only [List.length_cons, List.length_append] at small
      obtain ⟨stop, failed⟩ := container_fails .expectedValue (value_complete_any fuel depth) spellsAny_headed
        (.inl rfl) nothing passes (by omega) (exceeds.solid inside) (ih exceeds (by omega))
      exact ⟨stop, by rw [value_list, failed]; rfl⟩
  | @member deeper before passed quoted name blank gap rest target earlier nothing passes named empty bare inside ih =>
    cases depth with
    | zero => exact ⟨_, rfl⟩
    | succ depth =>
      have exceeds : Exceeds depth deeper target := exceeds.imp_left (And.imp_right Nat.le_of_succ_le_succ)
      simp only [List.length_cons, List.length_append] at small
      obtain ⟨stop, failed⟩ := ih exceeds (by omega)
      have due : member (value fuel depth) (quoted ++ blank ++ .char ':' :: gap ++ rest) = .error stop := by
        rw [member_named _ named empty bare (exceeds.solid inside), failed]
        rfl
      have solid : Solid (quoted ++ blank ++ .char ':' :: gap ++ rest) := by
        obtain ⟨content, rfl, _⟩ := string_complete named []
        exact .of_begins (by decide) _
      obtain ⟨stop, failed⟩ := container_fails .expectedName
        (member_complete (value_complete_any fuel depth) spellsAny_headed) member_headed (.inr rfl) nothing passes (by omega)
        solid ⟨stop, due⟩
      exact ⟨stop, by rw [value_object, failed]; rfl⟩

/-- A text beyond the limits of the reader, document or not: as far as it goes on as a document, it comes to a
whole number of more digits, or to a container inside of more others, than are read. -/
def Beyond (limit : Nat) (text : Text) : Prop :=
  ∃ before rest depth target, text = before ++ rest ∧ Blank before ∧
    Leads depth rest target ∧ Exceeds limit depth target

def SpellsWithin (bound depth : Nat) (text : Text) (value : Json) : Prop :=
  ∃ before used after, Blank before ∧ Spells bound depth used value ∧ Blank after ∧ text = before ++ used ++ after

variable {limit : Nat}

private theorem read_unmarked {text : Text} (unmarked : text.head? ≠ some (.char '\ufeff')) :
    read limit text =
      match value text.length limit (skipSpace text) with
      | .error stop => .error stop
      | .ok (found, rest) =>
        match skipSpace rest with
        | [] => .ok found
        | rest => .error (.malformed .extraData rest) := by
  unfold read
  split
  · exact absurd rfl unmarked
  · rfl

theorem read_sound {text : Text} {found : Json} (parsed : read limit text = .ok found) :
    SpellsWithin digitLimit limit text found := by
  unfold read at parsed
  split at parsed
  · contradiction
  · obtain ⟨before, nothing, split⟩ := skipSpace_split text
    split at parsed
    · contradiction
    next result rest taken =>
      obtain ⟨used, joined, spelled⟩ := value_sound _ _ taken
      obtain ⟨after, empty, left⟩ := skipSpace_split rest
      split at parsed
      next ended =>
        cases parsed
        rw [ended, List.append_nil] at left
        exact ⟨before, used, after, nothing, spelled, empty, by rw [List.append_assoc, ← left, ← joined, ← split]⟩
      · contradiction

private theorem follows_of_blank {blank : Text} (nothing : Blank blank) : Follows blank := by
  have follows : Follows (blank ++ []) := follows_blank nothing nofun
  rwa [List.append_nil] at follows

/-- A document within the limits is read; from one beyond them nothing else is read. -/
theorem read_complete {bound depth : Nat} {text : Text} {found : Json} (spelled : SpellsWithin bound depth text found) :
    read limit text = .ok found ∨
      (digitLimit < bound ∨ limit < depth) ∧ ∃ stop, read limit text = .error stop ∧ stop.limited = true := by
  obtain ⟨before, used, after, nothing, spelled, empty, rfl⟩ := spelled
  have unmarked : (before ++ used ++ after).head? ≠ some (.char '\ufeff') := by
    intro marked
    cases before with
    | cons point later =>
      cases marked
      exact absurd (nothing _ List.mem_cons_self) (by decide)
    | nil =>
      obtain ⟨first, later, rfl, begun⟩ := spells_headed bound depth spelled
      cases marked
      exact absurd begun (by decide)
  have start : skipSpace (before ++ used ++ after) = used ++ after := by
    rw [List.append_assoc]
    have headed : Headed (Spells bound depth) := spells_headed bound depth
    exact skipSpace_of_solid nothing (headed.solid spelled after)
  have ended : skipSpace after = [] := by
    have all : skipSpace (after ++ []) = [] := skipSpace_of_blank empty nofun
    rwa [List.append_nil] at all
  have small : used.length ≤ (before ++ used ++ after).length := by
    simp only [List.length_append]
    omega
  rw [read_unmarked unmarked, start]
  rcases value_complete _ bound depth limit spelled small (follows_of_blank empty)
    with taken | ⟨exceeded, stop, failed, limited⟩
  · left
    rw [taken]
    simp only [ended]
  · exact .inr ⟨exceeded, stop, by rw [failed], limited⟩

theorem beyond_of_read {text : Text} {stop : Stop} (failed : read limit text = .error stop) (limited : stop.limited = true) :
    Beyond limit text := by
  obtain ⟨before, nothing, split⟩ := skipSpace_split text
  unfold read at failed
  split at failed
  · cases failed
    contradiction
  · split at failed
    next taken =>
      cases failed
      obtain ⟨deeper, target, leads, exceeds⟩ := value_limited taken limited
      exact ⟨before, _, deeper, target, split, nothing, leads, exceeds⟩
    · split at failed
      · contradiction
      · cases failed
        contradiction

theorem read_beyond {text : Text} (beyond : Beyond limit text) : ∃ stop, read limit text = .error stop := by
  by_cases marked : text.head? = some (.char '\ufeff')
  · obtain ⟨rest, rfl⟩ := List.head?_eq_some_iff.mp marked
    exact ⟨_, rfl⟩
  · obtain ⟨before, rest, depth, target, split, nothing, leads, exceeds⟩ := beyond
    have start : skipSpace text = rest := split ▸ skipSpace_of_solid nothing (exceeds.solid leads)
    have small : rest.length ≤ text.length := by simp [split]
    obtain ⟨stop, failed⟩ := value_fails leads exceeds small
    rw [read_unmarked marked, start, failed]
    exact ⟨stop, rfl⟩

/-- A text that is not beyond the limits is read exactly if it is a document. -/
theorem read_eq_ok_iff {text : Text} (within : ¬Beyond limit text) {found : Json} :
    read limit text = .ok found ↔ SpellsDocument text found := by
  constructor
  · intro parsed
    obtain ⟨before, used, after, nothing, spelled, empty, split⟩ := read_sound parsed
    exact ⟨before, used, after, nothing, ⟨_, _, spelled⟩, empty, split⟩
  · rintro ⟨before, used, after, nothing, ⟨bound, depth, spelled⟩, empty, split⟩
    rcases read_complete ⟨before, used, after, nothing, spelled, empty, split⟩ with parsed | ⟨_, stop, failed, limited⟩
    · exact parsed
    · exact absurd (beyond_of_read failed limited) within

/-- What is spelled within the limits is not beyond them, whatever else the text may be taken for. -/
theorem SpellsWithin.not_beyond {text : Text} {found : Json} (spelled : SpellsWithin digitLimit limit text found) :
    ¬Beyond limit text := by
  intro beyond
  obtain ⟨stop, failed⟩ := read_beyond beyond
  rcases read_complete spelled with parsed | ⟨exceeded, _⟩
  · rw [failed] at parsed
    contradiction
  · exact exceeded.elim (Nat.lt_irrefl _) (Nat.lt_irrefl _)

theorem read_of_parse {text : Text} {found : Json} (parsed : parse limit text = .ok found) : read limit text = .ok found := by
  unfold parse at parsed
  split at parsed
  next same =>
    cases parsed
    exact same
  all_goals contradiction

/-- What is read is read as well where there is more room. -/
theorem parse_mono {here there : Nat} {text : Text} {found : Json} (parsed : parse here text = .ok found)
    (more : here ≤ there) : parse there text = .ok found := by
  have again : read there text = .ok found ∨ _ := read_complete (read_sound (read_of_parse parsed))
  unfold parse
  rcases again with again | ⟨more_digits | less, _⟩
  · rw [again]
  · exact absurd more_digits (Nat.lt_irrefl _)
  · exact absurd more (Nat.not_le_of_lt less)

/-- What is read in one place is read in any other that has room for it. -/
theorem parse_elsewhere {here there : Nat} {text : Text} {found : Json} (parsed : parse here text = .ok found) :
    parse there text = .ok found ∨ (∃ count, parse there text = .error (.tooManyDigits count)) ∨
      ∃ container, parse there text = .error (.tooDeep container) := by
  have again : read there text = .ok found ∨ _ := read_complete (read_sound (read_of_parse parsed))
  unfold parse
  rcases again with again | ⟨_, stop, failed, limited⟩
  · exact .inl (by rw [again])
  · cases stop with
    | malformed => contradiction
    | tooManyDigits count => exact .inr (.inl ⟨count, by rw [failed]⟩)
    | tooDeep container => exact .inr (.inr ⟨container, by rw [failed]⟩)

end Pubsub.Document
