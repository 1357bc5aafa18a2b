import Mathlib
import Reckon.Binary64

/-!
# Floats by sign and ordinal

The ordinal of a float is the word of its bits without the sign. No float but NaN has an ordinal above that of
infinity (`ordinal_le_infinite`), and sign and ordinal together make the float again (`ofOrdinal_ordinal`). The other
way round, any sign and any ordinal up to that of infinity are those of a float (`ordinal_ofOrdinal`).
-/

namespace Reckon.Binary64

open Float.Model Float.Model.UnpackedFloat

section

variable (b : BitVec Format.binary64.numBits)

theorem toNat_unpackExponent : (unpackExponent b).toNat = b.toNat / 2 ^ 52 % 2 ^ 11 := by
  show b.toNat >>> 52 % 2 ^ 11 = _
  rw [Nat.shiftRight_eq_div_pow]

theorem toNat_unpackMantissa : (unpackMantissa b).toNat = b.toNat % 2 ^ 52 := by
  show b.toNat >>> 0 % 2 ^ 52 = _
  rw [Nat.shiftRight_zero]

theorem unpackExponent_eq_ones_iff : unpackExponent b = -1#11 ↔ b.toNat / 2 ^ 52 % 2 ^ 11 = 2047 := by
  rw [← BitVec.toNat_inj, toNat_unpackExponent]
  exact Iff.rfl

theorem unpackMantissa_eq_zero_iff : unpackMantissa b = 0#52 ↔ b.toNat % 2 ^ 52 = 0 := by
  rw [← BitVec.toNat_inj, toNat_unpackMantissa]
  exact Iff.rfl

theorem isInf_unpack_iff : (UnpackedFloat.unpack Format.binary64 b).isInf = true ↔
    unpackExponent b = -1#11 ∧ unpackMantissa b = 0#52 := by
  fun_cases UnpackedFloat.unpack Format.binary64 b <;> simp_all +zetaDelta [UnpackedFloat.isInf]

theorem isFinite_unpack_iff : (UnpackedFloat.unpack Format.binary64 b).isFinite = true ↔
    unpackExponent b ≠ -1#11 := by
  fun_cases UnpackedFloat.unpack Format.binary64 b <;> simp_all +zetaDelta [UnpackedFloat.isFinite]

end

variable {x : Float} {k : Nat}

/-- There is one NaN only. -/
theorem eq_nan_of_isNaN (h : x.isNaN = true) : x = nan := by
  rw [Float.isNaN_eq_decide_eq_nan, decide_eq_true_eq] at h
  have hnan : nan = Float.nan := by decide +kernel
  rw [h, hnan]

theorem ordinal_le_infinite (h : x.isNaN = false) : ordinal x ≤ infinite := by
  by_contra hgt
  rw [not_le, infinite, ordinal] at hgt
  have hlt : x.toBits.toNat < 2 ^ 64 := x.toBits.toNat_lt
  -- all bits of the exponent are set, and one of the fraction at least
  have hexponent : @unpackExponent .binary64 x.toBits.toBitVec = -1#11 := by
    apply BitVec.eq_of_toNat_eq
    rw [toNat_unpackExponent]
    show x.toBits.toNat / 2 ^ 52 % 2 ^ 11 = 2047
    omega
  have hfraction : @unpackMantissa .binary64 x.toBits.toBitVec ≠ 0#52 := by
    intro hzero
    have hnat := congrArg BitVec.toNat hzero
    rw [toNat_unpackMantissa] at hnat
    change x.toBits.toNat % 2 ^ 52 = 0 at hnat
    omega
  have hword := x.toModel.valid.eq_packedNaN hexponent hfraction
  have hnan : x.isNaN = true := (isNaN_unpack_iff_of_valid x.toModel.valid).2 hword
  rw [h] at hnan
  cases hnan

/-- A float is known by its sign and its ordinal. -/
theorem ofOrdinal_ordinal (x : Float) : ofOrdinal (isNegative x) (ordinal x) = x := by
  have hlt : x.toBits.toNat < 2 ^ 64 := x.toBits.toNat_lt
  have hword : (if isNegative x then 0x8000000000000000 + ordinal x else ordinal x) = x.toBits.toNat := by
    by_cases hneg : 0x8000000000000000 ≤ x.toBits.toNat
    · rw [isNegative, if_pos (decide_eq_true hneg), ordinal]
      omega
    · rw [isNegative, if_neg (by simpa using hneg), ordinal]
      omega
  rw [ofOrdinal, hword, UInt64.ofNat_toNat, Float.ofBits_toBits]

theorem isInf_iff : x.isInf = true ↔ ordinal x = infinite := by
  have hlt : x.toBits.toNat < 2 ^ 64 := x.toBits.toNat_lt
  have hbits := isInf_unpack_iff x.toBits.toBitVec
  rw [unpackExponent_eq_ones_iff, unpackMantissa_eq_zero_iff, UInt64.toNat_toBitVec] at hbits
  refine Iff.trans hbits ?_
  rw [ordinal, infinite]
  omega

theorem isFinite_iff : x.isFinite = true ↔ ordinal x < infinite := by
  have hlt : x.toBits.toNat < 2 ^ 64 := x.toBits.toNat_lt
  have hbits := isFinite_unpack_iff x.toBits.toBitVec
  rw [Ne, unpackExponent_eq_ones_iff, UInt64.toNat_toBitVec] at hbits
  refine Iff.trans hbits ?_
  rw [ordinal, infinite]
  omega

theorem toNat_toBits_ofOrdinal (negative : Bool) (h : k ≤ infinite) :
    (ofOrdinal negative k).toBits.toNat = if negative then 0x8000000000000000 + k else k := by
  obtain ⟨n, hn⟩ : ∃ n, n = if negative then 0x8000000000000000 + k else k := ⟨_, rfl⟩
  have hcases : n = 0x8000000000000000 + k ∨ n = k := by cases negative <;> simp [hn]
  unfold infinite at h
  have hword : (UInt64.ofNat n).toBitVec.toNat = n := Nat.mod_eq_of_lt (by omega)
  -- only infinity has all bits of the exponent set
  have hvalid : @isNaNBits .binary64 (UInt64.ofNat n).toBitVec = false := by
    rw [isNaNBits, decide_eq_false_iff_not]
    rintro ⟨hexponent, hfraction⟩
    rw [unpackExponent_eq_ones_iff, hword] at hexponent
    rw [Ne, unpackMantissa_eq_zero_iff, hword] at hfraction
    omega
  have hpack := @pack_unpack .binary64 (UInt64.ofNat n).toBitVec
  rw [hvalid, if_neg Bool.false_ne_true] at hpack
  rw [ofOrdinal, ← hn]
  show (UnpackedFloat.pack .binary64 (UnpackedFloat.unpack .binary64 (UInt64.ofNat n).toBitVec)).toNat = n
  rw [hpack, hword]

theorem ordinal_ofOrdinal (negative : Bool) (h : k ≤ infinite) : ordinal (ofOrdinal negative k) = k := by
  rw [ordinal, toNat_toBits_ofOrdinal negative h]
  unfold infinite at h
  split <;> omega

theorem isNegative_ofOrdinal (negative : Bool) (h : k ≤ infinite) : isNegative (ofOrdinal negative k) = negative := by
  rw [isNegative, toNat_toBits_ofOrdinal negative h]
  unfold infinite at h
  cases negative <;> simp
  omega

theorem isNaN_ofOrdinal (negative : Bool) (h : k ≤ infinite) : (ofOrdinal negative k).isNaN = false := by
  rw [← Bool.not_eq_true]
  intro hnan
  have hk := ordinal_ofOrdinal negative h
  have hword : ordinal nan = 0x7FF8000000000000 := by decide +kernel
  rw [eq_nan_of_isNaN hnan, hword] at hk
  unfold infinite at h
  omega

theorem toRat_ofOrdinal (h : k ≤ infinite) : toRat (ofOrdinal false k) = value k := by
  rw [toRat, isNegative_ofOrdinal false h, if_neg Bool.false_ne_true, ordinal_ofOrdinal false h]

end Reckon.Binary64
