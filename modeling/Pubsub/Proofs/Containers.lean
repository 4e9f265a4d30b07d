import Pubsub.Proofs.Scalars

/-! Lists and objects are read the same way, so what is said of reading their elements is said once, of any
reader of an element and any relation that it realises. -/

namespace Pubsub.Document

section
variable {α : Type}

def elements (element : Text → Parsed α) (closing : CodePoint) (exhausted : Problem) (read : List α) :
    Nat → Text → Parsed (List α)
  | 0, text => .error (.malformed exhausted text)
  | fuel + 1, text =>
    match element text with
    | .error stop => .error stop
    | .ok (found, rest) =>
      match skipSpace rest with
      | [] => .error (.malformed .expectedComma [])
      | point :: rest =>
        if point = closing then .ok ((found :: read).reverse, rest)
        else if point = .char ',' then elements element closing exhausted (found :: read) fuel (skipSpace rest)
        else .error (.malformed .expectedComma (point :: rest))

def container (element : Text → Parsed α) (closing : CodePoint) (exhausted : Problem) (fuel : Nat) (text : Text) :
    Parsed (List α) :=
  if (skipSpace text).head? = some closing then .ok ([], (skipSpace text).tail)
  else elements element closing exhausted [] fuel (skipSpace text)

variable {element : Text → Parsed α} {closing : CodePoint} {exhausted : Problem}

/-- After an element there is the end of the container or a comma. -/
theorem elements_unfinished {read : List α} {fuel : Nat} {text rest : Text} {item : α}
    (found : element text = .ok (item, rest)) (closed : ∀ left, skipSpace rest ≠ closing :: left)
    (parted : ∀ left, skipSpace rest ≠ .char ',' :: left) :
    elements element closing exhausted read (fuel + 1) text = .error (.malformed .expectedComma (skipSpace rest)) := by
  rw [elements, found]
  dsimp only
  cases split : skipSpace rest with
  | nil => rfl
  | cons point left =>
    have other : point ≠ closing := fun same => closed left (same ▸ split)
    have apart : point ≠ .char ',' := fun same => parted left (same ▸ split)
    simp only [other, apart, if_false]

private theorem container_unclosed {fuel : Nat} {text : Text} (closed : ∀ left, skipSpace text ≠ closing :: left) :
    container element closing exhausted fuel text = elements element closing exhausted [] fuel (skipSpace text) := by
  refine if_neg fun same => ?_
  obtain ⟨left, split⟩ := List.head?_eq_some_iff.mp same
  exact closed left split

end

private theorem items_eq (value : Text → Parsed Json) (read : List Json) (fuel : Nat) (text : Text) :
    items value read fuel text =
      (elements value (.char ']') .expectedValue read fuel text).map fun (found, rest) => (.list found, rest) := by
  induction fuel generalizing read text with
  | zero => rfl
  | succ fuel ih =>
    unfold items
    cases found : value text with
    | error => simp only [elements, found, Except.map]
    | ok result =>
      obtain ⟨item, rest⟩ := result
      dsimp only
      split
      next ended => simp [elements, found, ended, Except.map]
      next more => simp [elements, found, more, ih]
      next closed parted =>
        rw [elements_unfinished found closed parted]
        rfl

theorem listBody_eq (value : Text → Parsed Json) (fuel : Nat) (text : Text) :
    listBody value fuel text =
      (container value (.char ']') .expectedValue fuel text).map fun (found, rest) => (.list found, rest) := by
  unfold listBody
  split
  next ended => simp [container, ended, Except.map]
  next closed => rw [container_unclosed closed, items_eq]

private theorem members_eq (value : Text → Parsed Json) (read : Members) (fuel : Nat) (text : Text) :
    members value read fuel text =
      (elements (member value) (.char '}') .expectedName read fuel text).map fun (found, rest) =>
        (.object (Members.ofList found), rest) := by
  induction fuel generalizing read text with
  | zero => rfl
  | succ fuel ih =>
    unfold members
    cases found : member value text with
    | error => simp only [elements, found, Except.map]
    | ok result =>
      obtain ⟨item, rest⟩ := result
      dsimp only
      split
      next ended => simp [elements, found, ended, Except.map]
      next more => simp [elements, found, more, ih]
      next closed parted =>
        rw [elements_unfinished found closed parted]
        rfl

theorem objectBody_eq (value : Text → Parsed Json) (fuel : Nat) (text : Text) :
    objectBody value fuel text =
      (container (member value) (.char '}') .expectedName fuel text).map fun (found, rest) =>
        (.object (Members.ofList found), rest) := by
  unfold objectBody
  split
  next ended => simp [container, ended, Except.map, Members.ofList]
  next closed => rw [container_unclosed closed, members_eq]

def Sound {α : Type} (read : Text → Parsed α) (spelled : Text → α → Prop) : Prop :=
  ∀ {text rest : Text} {value : α}, read text = .ok (value, rest) → ∃ used, text = used ++ rest ∧ spelled used value

section
variable {α : Type} {element : Text → Parsed α} {spelled : Text → α → Prop} {closing : CodePoint} {exhausted : Problem}

private theorem elements_sound (sound : Sound element spelled) {read found : List α} {fuel : Nat} {text rest : Text}
    (parsed : elements element closing exhausted read fuel text = .ok (found, rest)) :
    ∃ passed last after earlier value, text = passed ++ last ++ after ++ closing :: rest ∧
      Passes spelled passed earlier ∧ spelled last value ∧ Blank after ∧ found = read.reverse ++ (earlier ++ [value]) := by
  induction fuel generalizing read text with
  | zero => contradiction
  | succ fuel ih =>
    unfold elements at parsed
    cases first : element text with
    | error => simp [first] at parsed
    | ok result =>
      obtain ⟨value, left⟩ := result
      obtain ⟨used, rfl, own⟩ := sound first
      obtain ⟨blank, nothing, separated⟩ := skipSpace_split left
      simp only [first] at parsed
      cases next : skipSpace left with
      | nil => simp [next] at parsed
      | cons point later =>
        simp only [next] at parsed separated
        split at parsed
        next ends =>
          subst ends
          cases parsed
          exact ⟨[], used, blank, [], value, by simp [separated], .nil, own, nothing, by simp⟩
        · split at parsed
          next parts =>
            subst parts
            obtain ⟨passed, last, after, earlier, final, split, passes, spelled, closed, rfl⟩ := ih parsed
            obtain ⟨gap, empty, joined⟩ := skipSpace_split later
            refine ⟨used ++ blank ++ .char ',' :: gap ++ passed, last, after, value :: earlier, final, ?_,
              .cons own nothing empty passes, spelled, closed, by simp⟩
            rw [separated, joined, split]
            simp
          · contradiction

theorem container_sound (sound : Sound element spelled) {found : List α} {fuel : Nat} {text rest : Text}
    (parsed : container element closing exhausted fuel text = .ok (found, rest)) :
    ∃ inner, text = inner ++ closing :: rest ∧ Lists spelled inner found := by
  obtain ⟨blank, nothing, split⟩ := skipSpace_split text
  unfold container at parsed
  split at parsed
  next ended =>
    obtain ⟨left, closed⟩ := List.head?_eq_some_iff.mp ended
    rw [closed] at parsed split
    cases parsed
    exact ⟨blank, split, .none nothing⟩
  · obtain ⟨passed, last, after, earlier, value, rest, passes, own, closed, rfl⟩ := elements_sound sound parsed
    refine ⟨blank ++ passed ++ last ++ after, ?_, .some nothing passes own closed⟩
    rw [split, rest]
    simp

end

theorem member_sound {value : Text → Parsed Json} {spelled : Text → Json → Prop} (sound : Sound value spelled) :
    Sound (member value) (SpellsMember spelled) := by
  intro text rest found parsed
  unfold member at parsed
  split at parsed
  next opened =>
    cases named : string (.char '"' :: opened) opened with
    | error => simp [named] at parsed
    | ok result =>
      obtain ⟨name, left⟩ := result
      obtain ⟨quoted, split, spelling⟩ := string_sound named
      obtain ⟨blank, nothing, separated⟩ := skipSpace_split left
      simp only [named] at parsed
      split at parsed
      next later colon =>
        obtain ⟨gap, empty, joined⟩ := skipSpace_split later
        cases read : value (skipSpace later) with
        | error => simp [read, Except.map] at parsed
        | ok result =>
          simp only [read, Except.map, Except.ok.injEq, Prod.mk.injEq] at parsed
          obtain ⟨rfl, rfl⟩ := parsed
          obtain ⟨used, left, own⟩ := sound read
          refine ⟨_, ?_, .mk spelling nothing empty own⟩
          rw [split, separated, colon, joined, left]
          simp
      · contradiction
  · contradiction

/-- Whatever is spelled in so much text is read to its end, unless a limit stops that; then some bound is
exceeded. -/
def Complete {α : Type} (fuel : Nat) (exceeded : Prop) (read : Text → Parsed α) (spelled : Text → α → Prop) : Prop :=
  ∀ {used : Text} {value : α}, spelled used value → used.length ≤ fuel → ∀ {rest : Text}, Follows rest →
    read (used ++ rest) = .ok (value, rest) ∨ exceeded ∧ ∃ stop, read (used ++ rest) = .error stop ∧ stop.limited = true

def Closing (point : CodePoint) : Prop := point = .char ']' ∨ point = .char '}'

def Solid (text : Text) : Prop := ∀ point ∈ text.head?, isSpace point = false ∧ ¬Closing point

def Headed {α : Type} (spelled : Text → α → Prop) : Prop :=
  ∀ {used : Text} {value : α}, spelled used value →
    ∃ first later, used = first :: later ∧ (beginsScalar first || opens first)

theorem Solid.of_begins {first : CodePoint} (begun : beginsScalar first || opens first) (later : Text) :
    Solid (first :: later) := by
  intro point head
  cases head
  obtain ⟨solid, list, object⟩ := solid_of_begins begun
  exact ⟨solid, fun closes => closes.elim list object⟩

theorem Headed.solid {α : Type} {spelled : Text → α → Prop} (headed : Headed spelled) {used : Text} {value : α}
    (own : spelled used value) (rest : Text) : Solid (used ++ rest) := by
  obtain ⟨first, later, rfl, begun⟩ := headed own
  exact .of_begins begun (later ++ rest)

theorem follows_blank {blank rest : Text} (nothing : Blank blank) (follows : Follows rest) : Follows (blank ++ rest) := by
  cases blank with
  | nil => exact follows
  | cons point later =>
    intro head same
    cases same
    exact .inl (nothing point List.mem_cons_self)

private theorem follows_comma (rest : Text) : Follows (.char ',' :: rest) := by
  intro head same
  cases same
  exact .inr (.inl rfl)

theorem Closing.follows {closing : CodePoint} (closes : Closing closing) (rest : Text) : Follows (closing :: rest) := by
  intro head same
  cases same
  exact .inr (.inr closes)

theorem Closing.solid {closing : CodePoint} (closes : Closing closing) : isSpace closing = false := by
  rcases closes with rfl | rfl <;> rfl

theorem skipSpace_of_solid {blank rest : Text} (nothing : Blank blank) (solid : Solid rest) :
    skipSpace (blank ++ rest) = rest :=
  skipSpace_of_blank nothing fun point head => (solid point head).1

section
variable {α : Type} {element : Text → Parsed α} {spelled : Text → α → Prop} {closing : CodePoint} {exhausted : Problem}

/-- An element that is read leaves the comma or the end after it. -/
theorem elements_next {used after left : Text} {value : α} {point : CodePoint} (read : List α) (fuel : Nat)
    (found : element (used ++ (after ++ point :: left)) = .ok (value, after ++ point :: left)) (nothing : Blank after)
    (solid : isSpace point = false) :
    elements element closing exhausted read (fuel + 1) (used ++ (after ++ point :: left)) =
      if point = closing then .ok ((value :: read).reverse, left)
      else if point = .char ',' then elements element closing exhausted (value :: read) fuel (skipSpace left)
      else .error (.malformed .expectedComma (point :: left)) := by
  have separated : skipSpace (after ++ point :: left) = point :: left :=
    skipSpace_of_blank nothing fun head same => by
      cases same
      exact solid
  rw [elements, found]
  simp only [separated]

private theorem elements_error (read : List α) (fuel : Nat) {text : Text} {stop : Stop}
    (failed : element text = .error stop) :
    elements element closing exhausted read (fuel + 1) text = .error stop := by
  rw [elements, failed]

theorem Passes.solid {passed rest : Text} {earlier : List α} (headed : Headed spelled)
    (passes : Passes spelled passed earlier)
    (solid : Solid rest) : Solid (passed ++ rest) := by
  cases passes with
  | nil => exact solid
  | cons own =>
    simp only [List.append_assoc]
    exact headed.solid own _

/-- After some elements and their commas the reader goes on with what is left, unless a limit stops it. -/
theorem elements_passes {budget : Nat} {exceeded : Prop} (complete : Complete budget exceeded element spelled)
    (headed : Headed spelled) (closes : Closing closing) {passed : Text} {earlier : List α}
    (passes : Passes spelled passed earlier) (small : passed.length ≤ budget) {rest : Text}
    (solid : Solid rest) (read : List α) (fuel : Nat) (ample : passed.length ≤ fuel) :
    (∃ left, fuel ≤ left + passed.length ∧ elements element closing exhausted read fuel (passed ++ rest) =
        elements element closing exhausted (earlier.reverse ++ read) left rest) ∨
      exceeded ∧ ∃ stop,
        elements element closing exhausted read fuel (passed ++ rest) = .error stop ∧ stop.limited = true := by
  induction passes generalizing read fuel with
  | nil => exact .inl ⟨fuel, Nat.le_refl _, rfl⟩
  | @cons used after gap later value values own nothing empty tail ih =>
    have comma : .char ',' ≠ closing := by rcases closes with rfl | rfl <;> decide
    simp only [List.length_append, List.length_cons] at small ample
    obtain ⟨fuel, rfl⟩ : ∃ less, fuel = less + 1 := ⟨fuel - 1, by omega⟩
    have split : used ++ after ++ .char ',' :: gap ++ later ++ rest =
        used ++ (after ++ .char ',' :: (gap ++ (later ++ rest))) := by simp
    have next : skipSpace (gap ++ (later ++ rest)) = later ++ rest :=
      skipSpace_of_solid empty (tail.solid headed solid)
    rw [split]
    rcases complete own (by omega) (follows_blank nothing (follows_comma _)) with found | ⟨exceeded, stop, failed, limited⟩
    · rw [elements_next read fuel found nothing rfl, if_neg comma, if_pos rfl, next]
      rcases ih (by omega) (value :: read) fuel (by omega) with ⟨left, enough, same⟩ | stopped
      · refine .inl ⟨left, ?_, by simpa using same⟩
        simp only [List.length_append, List.length_cons]
        omega
      · exact .inr stopped
    · exact .inr ⟨exceeded, stop, elements_error read fuel failed, limited⟩

theorem container_complete {budget : Nat} {exceeded : Prop} (exhausted : Problem)
    (complete : Complete budget exceeded element spelled) (headed : Headed spelled) (closes : Closing closing)
    {inner : Text} {found : List α} (listed : Lists spelled inner found) (small : inner.length ≤ budget) (rest : Text) :
    container element closing exhausted budget (inner ++ closing :: rest) = .ok (found, rest) ∨
      exceeded ∧ ∃ stop, container element closing exhausted budget (inner ++ closing :: rest) = .error stop ∧
        stop.limited = true := by
  have ends : ∀ point ∈ (closing :: rest).head?, isSpace point = false := by
    intro point head
    cases head
    exact closes.solid
  cases listed with
  | none nothing =>
    left
    unfold container
    rw [skipSpace_of_blank nothing ends]
    simp
  | @some before passed used after earlier value lead passes own nothing =>
    simp only [List.length_append] at small
    have nonempty : 0 < used.length := by
      obtain ⟨first, later, rfl, _⟩ := headed own
      exact Nat.zero_lt_succ _
    have solid : Solid (used ++ (after ++ closing :: rest)) := headed.solid own _
    have split : before ++ passed ++ used ++ after ++ closing :: rest =
        before ++ (passed ++ (used ++ (after ++ closing :: rest))) := by simp
    have opened : (passed ++ (used ++ (after ++ closing :: rest))).head? ≠ some closing :=
      fun head => (passes.solid headed solid closing head).2 closes
    unfold container
    rw [split, skipSpace_of_solid lead (passes.solid headed solid), if_neg opened]
    rcases elements_passes complete headed closes passes (by omega) solid [] budget (by omega) with
      ⟨left, enough, same⟩ | stopped
    · obtain ⟨left, rfl⟩ : ∃ less, left = less + 1 := ⟨left - 1, by omega⟩
      rw [same]
      rcases complete own (by omega) (follows_blank nothing (closes.follows rest))
        with read | ⟨exceeded, stop, failed, limited⟩
      · rw [elements_next _ left read nothing closes.solid, if_pos rfl]
        exact .inl (by simp)
      · exact .inr ⟨exceeded, stop, elements_error _ left failed, limited⟩
    · exact .inr stopped

/-- Reading elements stops at a limit where reading one of them does. -/
theorem elements_limited (sound : Sound element spelled) {read : List α} {fuel : Nat} {text : Text} {stop : Stop}
    (failed : elements element closing exhausted read fuel text = .error stop) (limited : stop.limited = true) :
    ∃ passed earlier rest, text = passed ++ rest ∧ Passes spelled passed earlier ∧ element rest = .error stop := by
  induction fuel generalizing read text with
  | zero =>
    cases failed
    contradiction
  | succ fuel ih =>
    unfold elements at failed
    cases first : element text with
    | error other =>
      simp only [first, Except.error.injEq] at failed
      exact ⟨[], [], text, rfl, .nil, failed ▸ first⟩
    | ok result =>
      obtain ⟨value, left⟩ := result
      obtain ⟨used, rfl, own⟩ := sound first
      obtain ⟨blank, nothing, separated⟩ := skipSpace_split left
      simp only [first] at failed
      cases next : skipSpace left with
      | nil =>
        simp only [next, Except.error.injEq] at failed
        exact absurd limited (failed ▸ Bool.false_ne_true)
      | cons point later =>
        simp only [next] at failed separated
        split at failed
        · contradiction
        · split at failed
          next parts =>
            subst parts
            obtain ⟨passed, earlier, rest, split, passes, failed⟩ := ih failed
            obtain ⟨gap, empty, joined⟩ := skipSpace_split later
            refine ⟨used ++ blank ++ .char ',' :: gap ++ passed, value :: earlier, rest, ?_,
              .cons own nothing empty passes, failed⟩
            rw [separated, joined, split]
            simp
          · cases failed
            contradiction

theorem container_limited (sound : Sound element spelled) {fuel : Nat} {text : Text} {stop : Stop}
    (failed : container element closing exhausted fuel text = .error stop) (limited : stop.limited = true) :
    ∃ before passed earlier rest, text = before ++ passed ++ rest ∧ Blank before ∧ Passes spelled passed earlier ∧
      element rest = .error stop := by
  obtain ⟨before, nothing, split⟩ := skipSpace_split text
  unfold container at failed
  split at failed
  · contradiction
  · obtain ⟨passed, earlier, rest, joined, passes, failed⟩ := elements_limited sound failed limited
    exact ⟨before, passed, earlier, rest, by rw [split, joined, List.append_assoc], nothing, passes, failed⟩

/-- A container with an element that cannot be read cannot be read. -/
theorem container_fails {budget : Nat} {exceeded : Prop} (exhausted : Problem)
    (complete : Complete budget exceeded element spelled) (headed : Headed spelled) (closes : Closing closing)
    {before passed rest : Text} {earlier : List α} (nothing : Blank before) (passes : Passes spelled passed earlier)
    (small : passed.length ≤ budget) (solid : Solid rest) (failed : ∃ stop, element rest = .error stop) :
    ∃ stop, container element closing exhausted budget (before ++ passed ++ rest) = .error stop := by
  obtain ⟨stop, failed⟩ := failed
  have opened : (passed ++ rest).head? ≠ some closing := fun head => (passes.solid headed solid closing head).2 closes
  unfold container
  rw [List.append_assoc, skipSpace_of_solid nothing (passes.solid headed solid), if_neg opened]
  rcases elements_passes complete headed closes passes small solid [] budget small with
    ⟨left, enough, same⟩ | ⟨_, stop, stopped, _⟩
  · rw [same]
    cases left with
    | zero => exact ⟨_, rfl⟩
    | succ left => exact ⟨stop, elements_error _ left failed⟩
  · exact ⟨stop, stopped⟩

end

/-- After a name and its colon the reader of a member goes on with the value. -/
theorem member_named (value : Text → Parsed Json) {quoted name blank gap rest : Text} (named : SpellsText quoted name)
    (nothing : Blank blank) (empty : Blank gap) (solid : Solid rest) :
    member value (quoted ++ blank ++ .char ':' :: gap ++ rest) =
      (value rest).map fun (found, rest) => ((name, found), rest) := by
  obtain ⟨content, rfl, read⟩ := string_complete named (blank ++ .char ':' :: (gap ++ rest))
  have colon : skipSpace (blank ++ .char ':' :: (gap ++ rest)) = .char ':' :: (gap ++ rest) :=
    skipSpace_of_blank nothing fun point head => by
      cases head
      rfl
  simp [member, read, colon, skipSpace_of_solid empty solid]

section
variable {value : Text → Parsed Json} {spelled : Text → Json → Prop}

theorem member_headed : Headed (SpellsMember spelled) := by
  rintro used ⟨name, found⟩ (⟨named, _, _, _⟩)
  obtain ⟨content, _, _, rfl, _⟩ := named
  exact ⟨_, _, rfl, by decide⟩

theorem member_complete {budget : Nat} {exceeded : Prop} (complete : Complete budget exceeded value spelled)
    (headed : Headed spelled) : Complete budget exceeded (member value) (SpellsMember spelled) := by
  rintro used found (@⟨quoted, blank, gap, text, name, found, named, nothing, empty, own⟩) small rest follows
  have split :
      quoted ++ blank ++ .char ':' :: gap ++ text ++ rest = quoted ++ blank ++ .char ':' :: gap ++ (text ++ rest) := by
    simp
  simp only [List.length_append, List.length_cons] at small
  rw [split, member_named value named nothing empty (headed.solid own rest)]
  rcases complete own (by omega) follows with read | ⟨exceeded, stop, failed, limited⟩
  · exact .inl (by simp [read, Except.map])
  · exact .inr ⟨exceeded, stop, by simp [failed, Except.map], limited⟩

theorem member_limited {text : Text} {stop : Stop} (failed : member value text = .error stop)
    (limited : stop.limited = true) :
    ∃ quoted name blank gap rest, text = quoted ++ blank ++ .char ':' :: gap ++ rest ∧ SpellsText quoted name ∧
      Blank blank ∧ Blank gap ∧ value rest = .error stop := by
  unfold member at failed
  split at failed
  next opened =>
    cases named : string (.char '"' :: opened) opened with
    | error other =>
      simp only [named, Except.error.injEq] at failed
      exact absurd limited (failed ▸ string_unlimited named ▸ Bool.false_ne_true)
    | ok result =>
      obtain ⟨name, left⟩ := result
      obtain ⟨quoted, split, spelling⟩ := string_sound named
      obtain ⟨blank, nothing, separated⟩ := skipSpace_split left
      simp only [named] at failed
      split at failed
      next later colon =>
        obtain ⟨gap, empty, joined⟩ := skipSpace_split later
        refine ⟨quoted, name, blank, gap, skipSpace later, ?_, spelling, nothing, empty, ?_⟩
        · rw [split, separated, colon, joined]
          simp [← joined]
        · cases read : value (skipSpace later) with
          | ok => simp [read, Except.map] at failed
          | error other => simpa [read, Except.map] using failed
      · cases failed
        contradiction
  · cases failed
    contradiction

end

end Pubsub.Document
