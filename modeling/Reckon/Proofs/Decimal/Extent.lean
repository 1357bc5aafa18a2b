import Reckon.Proofs.Decimal.Ordinal

/-!
# Where the fewest digits begin

Of two decimals the larger one reads as the larger magnitude, or the same (`ordinal_mono`). Hence the fewest digits of
a magnitude begin where its own digits do, as far as it matters for writing them: the first of them is worth less than
`10^(-4)` only if the magnitude is (`leading_shortest_lt_iff`), and less than `10^16` if the magnitude is no integer
(`leading_shortest_lt_of_not_integral`).
-/

namespace Reckon

theorem Binary64.nearest_le_infinite (r : Rat) : nearest r ≤ infinite := by
  rw [nearest]
  split
  · exact Nat.zero_le _
  · exact min_le_left _ _

namespace Decimal

open Binary64

variable {d d' : Decimal} {k : Nat}

theorem ordinal_le_infinite (d : Decimal) : d.ordinal ≤ infinite := by
  rw [ordinal]
  split_ifs
  · exact Nat.zero_le _
  · exact le_rfl
  · exact Nat.zero_le _
  · exact nearest_le_infinite _

theorem ordinal_mono (h : d.value ≤ d'.value) : d.ordinal ≤ d'.ordinal := by
  by_cases hd : d.coefficient = 0
  · rw [ordinal, if_pos hd]
    exact Nat.zero_le _
  have hd' : d'.coefficient ≠ 0 := by
    intro hzero
    have hpos := value_pos hd
    rw [value_eq_zero_iff.2 hzero] at h
    exact not_lt.2 h hpos
  have hleading : d.leading ≤ d'.leading := by
    rw [leading_eq_log hd, leading_eq_log hd']
    exact Int.log_mono_right (value_pos hd) h
  by_cases hlarge : 310 ≤ d'.leading
  · have hinf : d'.ordinal = infinite := by rw [ordinal, if_neg hd', if_pos hlarge]
    rw [hinf]
    exact ordinal_le_infinite d
  by_cases hsmall : d.leading < -330
  · have hzero : d.ordinal = 0 := by rw [ordinal, if_neg hd, if_neg (by omega), if_pos hsmall]
    rw [hzero]
    exact Nat.zero_le _
  · rw [ordinal, ordinal, if_neg hd, if_neg hd', if_neg (by omega), if_neg hlarge, if_neg hsmall, if_neg (by omega)]
    exact nearest_mono h

/-! ### The ends of positional notation -/

theorem shortest_least : shortest 0x3F1A36E2EB1C432D = ⟨1, -4⟩ := by decide +kernel

theorem nearest_least : nearest (1 / 10000) = 0x3F1A36E2EB1C432D := by decide +kernel

theorem le_value_least : 1 / 10000 ≤ Binary64.value 0x3F1A36E2EB1C432D := by decide +kernel

theorem ordinal_greatest : ordinal ⟨1, 16⟩ = 0x4341C37937E08000 := by decide +kernel

theorem leading_shortest_lt_iff (hk : 0 < k) (h : k < infinite) :
    (shortest k).leading < -4 ↔ Binary64.value k < 1 / 10000 := by
  have hd := coefficient_shortest_ne hk h
  have hord := ordinal_shortest_eq h
  have hleading : (shortest k).leading < -4 ↔ (shortest k).value < 1 / 10000 := by
    rw [leading_eq_log hd, ← Int.lt_zpow_iff_log_lt (by decide) (value_pos hd)]
    norm_num
  have hvalue : value ⟨1, -4⟩ = 1 / 10000 := by norm_num [value]
  have hleast : ordinal ⟨1, -4⟩ = 0x3F1A36E2EB1C432D := by
    rw [← shortest_least]
    exact ordinal_shortest_eq (by decide)
  rw [hleading]
  -- whatever is on different sides of `10^(-4)` reads as the magnitude next to it
  constructor
  · intro hlt
    by_contra hge
    have hle := ordinal_mono (hvalue ▸ hlt.le)
    have hnear := nearest_mono (not_lt.1 hge)
    rw [hord, hleast] at hle
    rw [nearest_least, nearest_value h] at hnear
    obtain rfl := le_antisymm hle hnear
    rw [shortest_least, hvalue] at hlt
    exact lt_irrefl _ hlt
  · intro hlt
    by_contra hge
    have hle := ordinal_mono (hvalue ▸ not_lt.1 hge)
    have hnear := nearest_mono hlt.le
    rw [hord, hleast] at hle
    rw [nearest_least, nearest_value h] at hnear
    obtain rfl := le_antisymm hnear hle
    exact not_lt.2 le_value_least hlt

theorem den_value_of_exponent_nonneg (h : 0 ≤ Binary64.exponent k) : (Binary64.value k).den = 1 := by
  obtain ⟨n, hn⟩ := Int.eq_ofNat_of_zero_le h
  have hcast : Binary64.value k = ((significand k * 2 ^ n : Nat) : Rat) := by
    rw [Binary64.value, hn, zpow_natCast]
    push_cast
    rfl
  rw [hcast]
  exact Rat.den_natCast _

theorem leading_shortest_lt_of_not_integral (hk : 0 < k) (h : k < infinite) (hden : (Binary64.value k).den ≠ 1) :
    (shortest k).leading < 16 := by
  have hd := coefficient_shortest_ne hk h
  by_contra hge
  rw [leading_eq_log hd, not_lt, ← Int.zpow_le_iff_le_log (by decide) (value_pos hd)] at hge
  have hvalue : value ⟨1, 16⟩ = (10 : Rat) ^ (16 : Int) := by rw [value, Nat.cast_one, one_mul]
  have hle := ordinal_mono (hvalue.trans_le hge)
  rw [ordinal_greatest, ordinal_shortest_eq h] at hle
  refine hden (den_value_of_exponent_nonneg ?_)
  unfold Binary64.exponent binade
  split <;> omega

end Decimal

end Reckon
