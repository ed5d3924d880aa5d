/-
  RelayBroker.Proofs.Address.Order

  The order of the addresses: IPv4 before IPv6, and within a family the first octet or group
  that differs decides (`Precedes`). The place of an address among all addresses is this order
  (`rank_lt_iff`), and no two addresses have one place (`rank_inj`).
-/

import RelayBroker.Address
import RelayBroker.Proofs.Number.Digits

namespace RelayBroker.Address

/-! ## The order -/

/-- Which of two addresses comes first. -/
inductive Precedes : Address → Address → Prop
  | octets {a b c d a' b' c' d' : UInt8} (first : [a, b, c, d] < [a', b', c', d']) :
      Precedes (v4 a b c d) (v4 a' b' c' d')
  | families {a b c d : UInt8} {groups : Vector UInt16 8} : Precedes (v4 a b c d) (v6 groups)
  | groups {groups groups' : Vector UInt16 8} (first : groups.toList < groups'.toList) :
      Precedes (v6 groups) (v6 groups')

theorem digits_octets (os : List UInt8) : ∀ n ∈ os.map UInt8.toNat, n < 256 := by
  intro n hn
  obtain ⟨o, -, rfl⟩ := List.mem_map.mp hn
  exact o.toNat_lt

theorem digits_groups (gs : List UInt16) : ∀ n ∈ gs.map UInt16.toNat, n < 65536 := by
  intro n hn
  obtain ⟨g, -, rfl⟩ := List.mem_map.mp hn
  exact g.toNat_lt

theorem rank_v4 (a b c d : UInt8) :
    (v4 a b c d).rank = Number.ofDigits 256 ([a, b, c, d].map UInt8.toNat) := rfl

theorem rank_v4_lt (a b c d : UInt8) : (v4 a b c d).rank < Number.twoTo 32 := by
  have hplaces : Number.twoTo 32 = 256 ^ 4 := by decide
  rw [hplaces]
  exact Number.ofDigits_lt (digits_octets [a, b, c, d])

theorem le_rank_v6 (groups : Vector UInt16 8) : Number.twoTo 32 ≤ (v6 groups).rank :=
  Nat.le_add_right ..

/-- The places of the addresses are in their order. -/
theorem rank_lt_iff {x y : Address} : x.rank < y.rank ↔ Precedes x y := by
  cases x with
  | v4 a b c d =>
    cases y with
    | v4 a' b' c' d' =>
      rw [rank_v4, rank_v4, Number.ofDigits_lt_iff (by simp) (digits_octets [a, b, c, d])
          (digits_octets [a', b', c', d']),
        Number.map_lt_map_iff UInt8.lt_iff_toNat_lt.symm UInt8.toNat_inj]
      exact ⟨.octets, fun | .octets first => first⟩
    | v6 groups => exact ⟨fun _ => .families, fun _ => (rank_v4_lt ..).trans_le (le_rank_v6 _)⟩
  | v6 groups =>
    cases y with
    | v4 a b c d =>
      have hle := (rank_v4_lt a b c d).trans_le (le_rank_v6 groups)
      exact ⟨fun hlt => absurd hlt (Nat.not_lt_of_gt hle), nofun⟩
    | v6 groups' =>
      rw [rank, rank, Nat.add_lt_add_iff_left,
        Number.ofDigits_lt_iff (by simp) (digits_groups _) (digits_groups _),
        Number.map_lt_map_iff UInt16.lt_iff_toNat_lt.symm UInt16.toNat_inj]
      exact ⟨.groups, fun | .groups first => first⟩

/-- No two addresses have one place. -/
theorem rank_inj {x y : Address} : x.rank = y.rank ↔ x = y := by
  refine ⟨fun heq => ?_, congrArg rank⟩
  cases x with
  | v4 a b c d =>
    cases y with
    | v4 a' b' c' d' =>
      rw [rank_v4, rank_v4, Number.ofDigits_inj (by simp) (digits_octets [a, b, c, d])
          (digits_octets [a', b', c', d']),
        (List.map_injective_iff.mpr fun _ _ => UInt8.toNat_inj.mp).eq_iff] at heq
      cases heq
      rfl
    | v6 groups =>
      have hlt := (rank_v4_lt a b c d).trans_le (le_rank_v6 groups)
      omega
  | v6 groups =>
    cases y with
    | v4 a b c d =>
      have hlt := (rank_v4_lt a b c d).trans_le (le_rank_v6 groups)
      omega
    | v6 groups' =>
      rw [rank, rank, Nat.add_left_cancel_iff,
        Number.ofDigits_inj (by simp) (digits_groups _) (digits_groups _),
        (List.map_injective_iff.mpr fun _ _ => UInt16.toNat_inj.mp).eq_iff] at heq
      rw [Vector.toList_inj.mp heq]

end RelayBroker.Address
