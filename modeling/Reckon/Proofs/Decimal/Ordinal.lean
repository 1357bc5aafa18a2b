import Mathlib.Tactic.NormNum
import Reckon.Decimal.Shortest
import Reckon.Proofs.Binary64.Nearest

/-!
# Magnitudes through decimals

Which magnitude a decimal reads as depends on its value only (`ordinal_congr`), although the position of its
first digit is looked at first. All digits of a magnitude read back (`ordinal_exact`), hence so do the fewest
(`ordinal_shortest_eq`), and the integer that a magnitude is, if it is one (`value_natAbs_num`).
-/

namespace Reckon.Decimal

open Binary64

theorem zpow_ten_pos (e : Int) : 0 < (10 : Rat) ^ e := by positivity

variable {d d' : Decimal}

theorem value_pos (h : d.coefficient ≠ 0) : 0 < d.value := by
  have hc : (0 : Rat) < d.coefficient := by exact_mod_cast Nat.pos_of_ne_zero h
  exact mul_pos hc (zpow_ten_pos _)

theorem value_eq_zero_iff : d.value = 0 ↔ d.coefficient = 0 := by
  constructor
  · intro h
    by_contra hc
    exact (value_pos hc).ne' h
  · intro h
    rw [value, h, Nat.cast_zero, zero_mul]

/-- The position of the first digit, read off the value. -/
theorem leading_eq_log (h : d.coefficient ≠ 0) : d.leading = Int.log 10 d.value := by
  have hlen : 0 < d.digits.length := Nat.length_toDigits_pos
  have hlt : d.coefficient < 10 ^ d.digits.length :=
    (Nat.length_toDigits_le_iff (by decide) hlen).1 le_rfl
  have hge : 10 ^ (d.digits.length - 1) ≤ d.coefficient := by
    rcases Nat.eq_zero_or_pos (d.digits.length - 1) with hz | hpos
    · rw [hz]
      exact Nat.pos_of_ne_zero h
    · by_contra hc
      have := (Nat.length_toDigits_le_iff (by decide) hpos).2 (not_le.1 hc)
      change d.digits.length ≤ d.digits.length - 1 at this
      omega
  have hsplit : ∀ e : Int, (10 : Rat) ^ (e + d.exponent) = (10 : Rat) ^ e * (10 : Rat) ^ d.exponent :=
    fun e => zpow_add₀ (by decide) _ _
  have hlo : (10 : Rat) ^ d.leading ≤ d.value := by
    have hcast : ((d.digits.length : Int) - 1) = ((d.digits.length - 1 : Nat) : Int) := by omega
    rw [leading, hsplit, hcast, zpow_natCast, value]
    exact mul_le_mul_of_nonneg_right (by exact_mod_cast hge) (zpow_ten_pos _).le
  have hhi : d.value < (10 : Rat) ^ (d.leading + 1) := by
    have hcast : d.leading + 1 = d.digits.length + d.exponent := by
      rw [leading]
      omega
    rw [hcast, hsplit, zpow_natCast, value]
    exact mul_lt_mul_of_pos_right (by exact_mod_cast hlt) (zpow_ten_pos _)
  exact (log_eq_of_bounds (by decide) hlo hhi).symm

theorem ordinal_congr (h : d.value = d'.value) : d.ordinal = d'.ordinal := by
  have hzero : d.coefficient = 0 ↔ d'.coefficient = 0 := by
    rw [← value_eq_zero_iff, ← value_eq_zero_iff, h]
  unfold ordinal
  by_cases hd : d.coefficient = 0
  · rw [if_pos hd, if_pos (hzero.1 hd)]
  · have hd' : d'.coefficient ≠ 0 := fun hc => hd (hzero.2 hc)
    rw [if_neg hd, if_neg hd', leading_eq_log hd, leading_eq_log hd', h]

/-! ### All digits -/

variable {k : Nat}

theorem value_exact (k : Nat) : (exact k).value = Binary64.value k := by
  unfold value exact Binary64.value
  simp only
  generalize Binary64.exponent k = e
  rcases le_total 0 e with he | he
  · obtain ⟨n, rfl⟩ := Int.eq_ofNat_of_zero_le he
    rw [min_eq_left he, zpow_zero, mul_one, Int.toNat_natCast, Int.toNat_of_nonpos (by omega), zpow_natCast]
    show ((significand k * (2 ^ n * 5 ^ 0) : Nat) : Rat) = _
    push_cast
    rw [mul_one]
  · obtain ⟨n, hn⟩ := Int.eq_ofNat_of_zero_le (show 0 ≤ -e by omega)
    obtain rfl : e = -(n : Int) := by omega
    rw [min_eq_right he, Int.toNat_of_nonpos he, neg_neg, Int.toNat_natCast, zpow_neg, zpow_neg, zpow_natCast,
      zpow_natCast]
    show ((significand k * (2 ^ 0 * 5 ^ n) : Nat) : Rat) * _ = _
    have hten : (5 : Rat) ^ n * ((10 : Rat) ^ n)⁻¹ = ((2 : Rat) ^ n)⁻¹ := by
      rw [← inv_pow, ← inv_pow, ← mul_pow]
      norm_num
    push_cast
    rw [one_mul, mul_assoc, hten]

/-- The first digits of finite magnitudes other than zero. -/
theorem log_value_bounds (hk : 0 < k) (h : k < infinite) :
    -330 ≤ Int.log 10 (Binary64.value k) ∧ Int.log 10 (Binary64.value k) < 310 := by
  have hpos := Binary64.value_pos hk
  constructor
  · refine (Int.zpow_le_iff_le_log (by decide) hpos).1 ?_
    have htiny : (10 : Rat) ^ (-330 : Int) ≤ (2 : Rat) ^ (-1074 : Int) := by
      have hnat : 2 ^ 1074 ≤ 10 ^ 330 := by decide +kernel
      have hrat : (2 : Rat) ^ 1074 ≤ (10 : Rat) ^ 330 := by exact_mod_cast hnat
      rw [zpow_neg, zpow_neg]
      exact inv_anti₀ (by positivity) hrat
    calc (10 : Rat) ^ (-330 : Int) ≤ (2 : Rat) ^ (-1074 : Int) := htiny
      _ ≤ (2 : Rat) ^ (Binary64.exponent k + (0 : Nat)) := zpow_le_zpow_right₀ one_le_two (by have := le_exponent k; omega)
      _ ≤ Binary64.value k := le_value (by rw [pow_zero]; exact significand_pos hk)
  · refine (Int.lt_zpow_iff_log_lt (by decide) hpos).1 ?_
    have hlarge : (2 : Rat) ^ (1024 : Int) < (10 : Rat) ^ (310 : Int) := by
      have hnat : 2 ^ 1024 < 10 ^ 310 := by decide +kernel
      exact_mod_cast hnat
    calc Binary64.value k < (2 : Rat) ^ (Binary64.exponent k + (53 : Nat)) := value_lt (significand_lt k)
      _ ≤ (2 : Rat) ^ (1024 : Int) := zpow_le_zpow_right₀ one_le_two (by have := exponent_lt h; omega)
      _ < (10 : Rat) ^ (310 : Int) := hlarge

theorem ordinal_exact (h : k < infinite) : (exact k).ordinal = k := by
  rcases Nat.eq_zero_or_pos k with rfl | hk
  · have hzero : (exact 0).coefficient = 0 := by
      rw [← value_eq_zero_iff, value_exact, Binary64.value, significand, if_pos (by decide), Nat.cast_zero, zero_mul]
    rw [ordinal, if_pos hzero]
  have hne : (exact k).coefficient ≠ 0 := by
    rw [Ne, ← value_eq_zero_iff, value_exact]
    exact (Binary64.value_pos hk).ne'
  have hlog := leading_eq_log hne
  rw [value_exact] at hlog
  obtain ⟨hlo, hhi⟩ := log_value_bounds hk h
  rw [ordinal, if_neg hne, hlog, if_neg (by omega), if_neg (by omega), value_exact, nearest_value h]

theorem ordinal_of_value (hk : k < infinite) (h : d.value = Binary64.value k) : d.ordinal = k :=
  (ordinal_congr (h.trans (value_exact k).symm)).trans (ordinal_exact hk)

theorem ordinal_shortest_eq (h : k < infinite) : (shortest k).ordinal = k :=
  ordinal_shortest (ordinal_exact h)

theorem coefficient_shortest_ne (hk : 0 < k) (h : k < infinite) : (shortest k).coefficient ≠ 0 := by
  intro hc
  have hord := ordinal_shortest_eq h
  rw [ordinal, if_pos hc] at hord
  omega

/-! ### Integers -/

theorem num_value_nonneg (k : Nat) : 0 ≤ (Binary64.value k).num := by
  rw [Rat.num_nonneg]
  exact mul_nonneg (Nat.cast_nonneg _) (by positivity)

theorem value_natAbs_num (h : (Binary64.value k).den = 1) :
    value ⟨(Binary64.value k).num.natAbs, 0⟩ = Binary64.value k := by
  have hnum : ((Binary64.value k).num : Rat) = Binary64.value k := (Rat.den_eq_one_iff _).1 h
  rw [value, zpow_zero, mul_one, Nat.cast_natAbs, abs_of_nonneg (num_value_nonneg k), hnum]

end Reckon.Decimal
