import Pubsub.Proofs.Registry

/-! The registered channels by name. Text is in order by the numbers of its code points, so a listing of distinct names
is strictly increasing. -/

namespace Pubsub

namespace CodePoint

private theorem val_injective {first second : CodePoint} (same : first.val = second.val) : first = second := by
  cases first with
  | char first =>
    cases second with
    | char second => rw [Char.toNat_inj.mp same]
    | half offset =>
      -- no character is numbered like a half
      have valid := first.valid
      simp only [val, Char.toNat] at same
      simp only [UInt32.isValidChar, Nat.isValidChar] at valid
      omega
  | half offset =>
    cases second with
    | char second =>
      have valid := second.valid
      simp only [val, Char.toNat] at same
      simp only [UInt32.isValidChar, Nat.isValidChar] at valid
      omega
    | half other =>
      have equal : offset.val = other.val := Nat.add_left_cancel same
      rw [Fin.ext equal]

instance : Std.Irrefl (fun first second : CodePoint => first < second) := ⟨fun point => Nat.lt_irrefl point.val⟩

instance : Std.Asymm (fun first second : CodePoint => first < second) := ⟨fun _ _ less => Nat.lt_asymm less⟩

instance : Trans (fun first second : CodePoint => first < second) (fun first second : CodePoint => first < second)
    (fun first second : CodePoint => first < second) := ⟨fun less later => Nat.lt_trans less later⟩

instance : Std.Trichotomous (fun first second : CodePoint => first < second) :=
  ⟨fun _ _ least most => val_injective (Nat.le_antisymm (Nat.not_lt.mp most) (Nat.not_lt.mp least))⟩

end CodePoint

namespace Text

private theorem le_iff {first second : Text} : le first second = true ↔ first < second ∨ first = second := by
  rw [le, Bool.not_eq_true', decide_eq_false_iff_not, List.not_lt, List.le_iff_lt_or_eq]

theorem le_trans {first second third : Text} (a : le first second = true) (b : le second third = true) :
    le first third = true := by
  rw [le_iff] at a b ⊢
  rcases a with a | rfl
  · rcases b with b | rfl
    · exact .inl (List.lt_trans a b)
    · exact .inl a
  · exact b

private theorem le_total (first second : Text) : (le first second || le second first) = true := by
  rw [Bool.or_eq_true, le, le, Bool.not_eq_true', Bool.not_eq_true', decide_eq_false_iff_not, decide_eq_false_iff_not,
    List.not_lt, List.not_lt]
  exact List.le_total first second

end Text

namespace Client

theorem listing_perm (client : Client) : client.listing.Perm client.registered := List.mergeSort_perm _ _

theorem mem_listing {client : Client} {id : ChannelId} : id ∈ client.listing ↔ id ∈ client.registered :=
  client.listing_perm.mem_iff

/-- A listing has each registered channel once, in the order of their names. -/
theorem Registry.increasing {client : Client} (registry : client.Registry) :
    (client.listing.map client.nameOf).Pairwise (· < ·) := by
  have sorted := @List.pairwise_mergeSort _ (fun first second => Text.le (client.nameOf first) (client.nameOf second))
    (fun _ _ _ => Text.le_trans) (fun _ _ => Text.le_total _ _) client.registered
  have distinct : (client.listing.map client.nameOf).Pairwise (· ≠ ·) :=
    (client.listing_perm.map client.nameOf).nodup_iff.mpr registry.distinct
  rw [List.pairwise_map] at distinct ⊢
  exact (sorted.and distinct).imp fun both => (Text.le_iff.mp both.1).resolve_right both.2

end Client
end Pubsub
