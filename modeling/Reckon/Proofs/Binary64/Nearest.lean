import Mathlib.Algebra.Order.Field.Power
import Mathlib.Data.Int.Log
import Mathlib.Data.Rat.Floor
import Mathlib.Tactic.Linarith
import Mathlib.Tactic.Positivity
import Reckon.Binary64

/-!
# Rounding to magnitudes

The nearest magnitude to the value of a finite magnitude is that magnitude (`nearest_value`): its exponent
is found by `floorLog2`, and its significand is an integer, which `roundEven` leaves alone. And of two numbers the
larger one has the larger nearest magnitude, or the same (`nearest_mono`).
-/

namespace Reckon.Binary64

/-! ### Logarithms -/

theorem log_eq_of_bounds {b : Nat} (hb : 1 < b) {r : Rat} {e : Int} (hlo : (b : Rat) ^ e ≤ r)
    (hhi : r < (b : Rat) ^ (e + 1)) : Int.log b r = e := by
  have hr : 0 < r := lt_of_lt_of_le (zpow_pos (by exact_mod_cast (by omega : 0 < b)) e) hlo
  have hle : e ≤ Int.log b r := (Int.zpow_le_iff_le_log hb hr).1 hlo
  have hlt : Int.log b r < e + 1 := (Int.lt_zpow_iff_log_lt hb hr).1 hhi
  omega

theorem two_pow_log2_le {n : Nat} (h : n ≠ 0) : (2 : Rat) ^ (n.log2 : Int) ≤ n := by
  rw [zpow_natCast]
  exact_mod_cast Nat.log2_self_le h

theorem lt_two_pow_log2_succ (n : Nat) : (n : Rat) < (2 : Rat) ^ (n.log2 + 1 : Int) := by
  have h : n < 2 ^ (n.log2 + 1) := Nat.lt_log2_self
  have hcast : (n.log2 + 1 : Int) = ((n.log2 + 1 : Nat) : Int) := by push_cast; rfl
  rw [hcast, zpow_natCast]
  exact_mod_cast h

/-- The quotient of two numbers is about that of their leading powers, off by less than a factor of two. -/
theorem quotient_bounds {r d : Rat} {a c : Int} (hr : 0 < r) (hpos : 0 < d) (hn : (2 : Rat) ^ a ≤ r * d)
    (hn' : r * d < (2 : Rat) ^ (a + 1)) (hd : (2 : Rat) ^ c ≤ d) (hd' : d < (2 : Rat) ^ (c + 1)) :
    (2 : Rat) ^ (a - c - 1) ≤ r ∧ r < (2 : Rat) ^ (a - c + 1) := by
  constructor
  · by_contra h
    rw [not_le] at h
    have hlt : r * d < (2 : Rat) ^ a := calc
      r * d < (2 : Rat) ^ (a - c - 1) * (2 : Rat) ^ (c + 1) := mul_lt_mul'' h hd' hr.le hpos.le
      _ = (2 : Rat) ^ a := by
        rw [← zpow_add₀ two_ne_zero]
        congr 1
        omega
    exact not_le.2 hlt hn
  · by_contra h
    rw [not_lt] at h
    have hle : (2 : Rat) ^ (a + 1) ≤ r * d := calc
      (2 : Rat) ^ (a + 1) = (2 : Rat) ^ (a - c + 1) * (2 : Rat) ^ c := by
        rw [← zpow_add₀ two_ne_zero]
        congr 1
        omega
      _ ≤ r * d := mul_le_mul h hd (by positivity) hr.le
    exact not_lt.2 hle hn'

theorem floorLog2_eq_log {r : Rat} (hr : 0 < r) : floorLog2 r = Int.log 2 r := by
  have hnum : 0 < r.num := Rat.num_pos.2 hr
  have hden : (0 : Rat) < r.den := by exact_mod_cast r.den_pos
  have hmul : (r.num.toNat : Rat) = r * r.den := by
    rw [Rat.mul_den_eq_num, ← Int.cast_natCast, Int.toNat_of_nonneg hnum.le]
  have hn := two_pow_log2_le (n := r.num.toNat) (by omega)
  have hn' := lt_two_pow_log2_succ r.num.toNat
  rw [hmul] at hn hn'
  obtain ⟨hlo, hhi⟩ := quotient_bounds hr hden hn hn' (two_pow_log2_le r.den_nz) (lt_two_pow_log2_succ r.den)
  have hlog : ∀ e : Int, (2 : Rat) ^ e ≤ r → r < (2 : Rat) ^ (e + 1) → e = Int.log 2 r := by
    intro e he he'
    exact (log_eq_of_bounds one_lt_two he he').symm
  rw [floorLog2]
  by_cases h : (2 : Rat) ^ ((r.num.toNat.log2 : Int) - r.den.log2) ≤ r
  · exact (if_pos h).trans (hlog _ h hhi)
  · refine (if_neg h).trans (hlog _ hlo ?_)
    rw [sub_add_cancel]
    exact not_le.1 h

/-! ### Magnitudes -/

theorem roundEven_intCast (n : Int) : roundEven n = n := by
  rw [roundEven, Rat.floor_intCast, sub_self]
  exact if_pos (by norm_num)

variable {k : Nat}

theorem significand_lt (k : Nat) : significand k < 2 ^ 53 := by
  unfold significand binade
  split <;> omega

theorem significand_pos (h : 0 < k) : 0 < significand k := by
  unfold significand binade
  split <;> omega

theorem le_exponent (k : Nat) : -1074 ≤ exponent k := by
  unfold exponent binade
  split <;> omega

theorem exponent_lt (h : k < infinite) : exponent k ≤ 971 := by
  unfold infinite at h
  unfold exponent binade
  split <;> omega

theorem value_pos (h : 0 < k) : 0 < value k := by
  have hs : (0 : Rat) < significand k := by exact_mod_cast significand_pos h
  unfold value
  positivity

theorem value_lt {j : Nat} (h : significand k < 2 ^ j) : value k < (2 : Rat) ^ (exponent k + j) := by
  have hs : (significand k : Rat) < (2 : Rat) ^ j := by exact_mod_cast h
  rw [zpow_add₀ two_ne_zero, zpow_natCast, mul_comm, value]
  exact mul_lt_mul_of_pos_right hs (by positivity)

theorem le_value {j : Nat} (h : 2 ^ j ≤ significand k) : (2 : Rat) ^ (exponent k + j) ≤ value k := by
  have hs : (2 : Rat) ^ j ≤ significand k := by exact_mod_cast h
  rw [zpow_add₀ two_ne_zero, zpow_natCast, mul_comm, value]
  exact mul_le_mul_of_nonneg_right hs (by positivity)

/-- The exponent that `nearest` finds for the value of a magnitude. -/
theorem max_floorLog2_value (h : 0 < k) : max (-1074) (floorLog2 (value k) - 52) = exponent k := by
  rw [floorLog2_eq_log (value_pos h)]
  by_cases hk : k < binade
  · -- below the leading bit the exponent is the least one
    have hexp : exponent k = -1074 := by rw [exponent, if_pos hk]
    have hlt := value_lt (k := k) (j := 52) (by rw [significand, if_pos hk]; exact hk)
    have hlog := (Int.lt_zpow_iff_log_lt one_lt_two (value_pos h)).1 hlt
    omega
  · have hlo : 2 ^ 52 ≤ significand k := by
      unfold significand
      rw [if_neg hk]
      unfold binade
      omega
    have hhi := value_lt (significand_lt k)
    have hlog : Int.log 2 (value k) = exponent k + 52 :=
      log_eq_of_bounds one_lt_two (le_value hlo) (by rw [add_assoc]; exact hhi)
    have := le_exponent k
    omega

theorem nearest_value (h : k < infinite) : nearest (value k) = k := by
  rcases Nat.eq_zero_or_pos k with rfl | hk
  · rw [nearest, if_pos]
    simp [value, significand, binade]
  have hpow : (2 : Rat) ^ exponent k ≠ 0 := zpow_ne_zero _ two_ne_zero
  have hround : roundEven (value k / (2 : Rat) ^ exponent k) = significand k := by
    rw [value, mul_div_cancel_right₀ _ hpow]
    exact roundEven_intCast (significand k)
  rw [nearest, if_neg (not_le.2 (value_pos hk))]
  simp only [max_floorLog2_value hk, hround, Int.toNat_natCast]
  unfold infinite at *
  unfold exponent significand binade
  split <;> omega

variable {r s : Rat}

/-! ### Larger numbers -/

theorem roundEven_bounds (r : Rat) : r - 1 / 2 ≤ roundEven r ∧ (roundEven r : Rat) ≤ r + 1 / 2 := by
  have hlo : (r.floor : Rat) ≤ r := Rat.floor_le r
  have hhi : r < r.floor + 1 := by exact_mod_cast Rat.lt_floor_add_one r
  unfold roundEven
  dsimp only
  split_ifs with hbelow habove
  · constructor <;> linarith
  · push_cast
    constructor <;> linarith
  · have hhalf : r - r.floor = 1 / 2 := le_antisymm (not_lt.1 habove) (not_lt.1 hbelow)
    rcases Int.emod_two_eq_zero_or_one r.floor with hmod | hmod
    all_goals
      rw [hmod]
      push_cast
      constructor <;> linarith

theorem roundEven_mono (h : r ≤ s) : roundEven r ≤ roundEven s := by
  by_contra hlt
  have hstep : (roundEven s : Rat) + 1 ≤ roundEven r := by exact_mod_cast not_le.1 hlt
  have hr := (roundEven_bounds r).2
  have hs := (roundEven_bounds s).1
  obtain rfl : r = s := by linarith
  exact hlt le_rfl

/-- The exponent that `nearest` rounds with. -/
theorem scaled_bounds (hr : 0 < r) :
    r / (2 : Rat) ^ max (-1074) (floorLog2 r - 52) < 2 ^ 53 ∧
      (-1074 < floorLog2 r - 52 → 2 ^ 52 ≤ r / (2 : Rat) ^ max (-1074) (floorLog2 r - 52)) := by
  rw [floorLog2_eq_log hr]
  obtain ⟨e, he⟩ : ∃ e, e = max (-1074) (Int.log 2 r - 52) := ⟨_, rfl⟩
  have hpos : (0 : Rat) < 2 ^ e := by positivity
  rw [← he, div_lt_iff₀ hpos, le_div_iff₀ hpos]
  constructor
  · calc r < (2 : Rat) ^ (Int.log 2 r + 1) := Int.lt_zpow_succ_log_self one_lt_two r
      _ ≤ (2 : Rat) ^ (53 + e) := zpow_le_zpow_right₀ one_le_two (by omega)
      _ = 2 ^ 53 * 2 ^ e := by rw [zpow_add₀ two_ne_zero]; rfl
  · intro hlarge
    calc (2 : Rat) ^ 52 * 2 ^ e = (2 : Rat) ^ (52 + e) := by rw [zpow_add₀ two_ne_zero]; rfl
      _ = (2 : Rat) ^ Int.log 2 r := by congr 1; omega
      _ ≤ r := Int.zpow_log_le_self one_lt_two hr

theorem nearest_mono (h : r ≤ s) : nearest r ≤ nearest s := by
  unfold nearest
  by_cases hr : r ≤ 0
  · rw [if_pos hr]
    exact Nat.zero_le _
  have hr' : 0 < r := not_le.1 hr
  have hs' : 0 < s := lt_of_lt_of_le hr' h
  rw [if_neg hr, if_neg (not_le.2 hs')]
  dsimp only
  obtain ⟨hrlt, -⟩ := scaled_bounds hr'
  obtain ⟨-, hsge⟩ := scaled_bounds hs'
  have hlog : floorLog2 r ≤ floorLog2 s := by
    rw [floorLog2_eq_log hr', floorLog2_eq_log hs']
    exact Int.log_mono_right hr' h
  obtain ⟨e, he⟩ : ∃ e, e = max (-1074) (floorLog2 r - 52) := ⟨_, rfl⟩
  obtain ⟨f, hf⟩ : ∃ f, f = max (-1074) (floorLog2 s - 52) := ⟨_, rfl⟩
  rw [← he] at hrlt
  rw [← hf] at hsge
  rw [← he, ← hf]
  refine min_le_min_left _ ?_
  rcases (show e ≤ f by omega).eq_or_lt with rfl | hlt
  · have hround := roundEven_mono (div_le_div_of_nonneg_right h (zpow_pos two_pos e).le : r / (2 : Rat) ^ e ≤ s / 2 ^ e)
    exact Nat.add_le_add_left (Int.toNat_le_toNat hround) _
  · -- one exponent more makes up for any significand
    have hlow := roundEven_mono hrlt.le
    have hhigh := roundEven_mono (hsge (by omega))
    have hlow' : roundEven (2 ^ 53) = 2 ^ 53 := roundEven_intCast (2 ^ 53)
    have hhigh' : roundEven (2 ^ 52) = 2 ^ 52 := roundEven_intCast (2 ^ 52)
    rw [hlow'] at hlow
    rw [hhigh'] at hhigh
    unfold binade
    omega

end Reckon.Binary64
