import Mathlib.Data.List.TakeWhile
import Mathlib.Tactic.IntervalCases
import Reckon.Decimal.Layout
import Reckon.Numeral
import Reckon.Proofs.Decimal.Ordinal
import Reckon.Proofs.Runs

/-!
# Written magnitudes

Whatever the layout, a finite magnitude is written as digits, digits behind a point if there are any, and a
power of ten if there is one. The grammar of numbers reads these `Parts` as one decimal
(`Parts.scientific?_text`). The digits that are written have the value of the shortest decimal, wherever the
point stands, so that the magnitude reads back (`exists_parts`).
-/

namespace Reckon.Layout

open Numeral

/-! ### Digits -/

theorem ofDigitChars_append_zeros (ds : List Char) (n : Nat) :
    Nat.ofDigitChars 10 (ds ++ List.replicate n '0') 0 = 10 ^ n * Nat.ofDigitChars 10 ds 0 := by
  rw [Nat.ofDigitChars_append, Nat.ofDigitChars_replicate_zero]

theorem ofDigitChars_zeros_append (ds : List Char) (n : Nat) :
    Nat.ofDigitChars 10 (List.replicate n '0' ++ ds) 0 = Nat.ofDigitChars 10 ds 0 := by
  rw [Nat.ofDigitChars_append, Nat.ofDigitChars_replicate_zero, Nat.mul_zero]

theorem isDigit_of_mem_zeros {n : Nat} : ∀ c ∈ List.replicate n '0', c.isDigit = true := by
  intro c hc
  rw [List.eq_of_mem_replicate hc]
  decide

/-- A number other than zero is written without a zero in front. -/
theorem head?_toDigits {n : Nat} (h : n ≠ 0) : (Nat.toDigits 10 n).head? ≠ some '0' := by
  induction n using Nat.strongRecOn with
  | _ n ih =>
    by_cases hn : n < 10
    · rw [Nat.toDigits_of_lt_base hn]
      interval_cases n
      · exact absurd rfl h
      all_goals decide
    · rw [Nat.toDigits_of_base_le (by decide) (by omega), List.head?_append_of_ne_nil _ Nat.toDigits_ne_nil]
      exact ih (n / 10) (by omega) (by omega)

/-! ### Powers of ten -/

/-- A power of ten as `scientific` writes it. -/
def power (width : Nat) (e : Int) : List Char :=
  (if e < 0 then '-' else '+') :: (Nat.toDigits 10 e.natAbs).leftpad width '0'

theorem signedDigits?_power (width : Nat) (e : Int) : signedDigits? (power width e) = some e := by
  have hdigits : isDigits ((Nat.toDigits 10 e.natAbs).leftpad width '0') = true := by
    refine isDigits_iff.2 ⟨?_, fun c hc => ?_⟩
    · exact List.append_ne_nil_of_right_ne_nil _ Nat.toDigits_ne_nil
    · rcases List.mem_append.1 hc with hc | hc
      · exact isDigit_of_mem_zeros c hc
      · exact Nat.isDigit_of_mem_toDigits (by decide) (by decide) hc
  have hvalue : Nat.ofDigitChars 10 ((Nat.toDigits 10 e.natAbs).leftpad width '0') 0 = e.natAbs := by
    rw [List.leftpad, ofDigitChars_zeros_append]
    exact Nat.ofDigitChars_toDigits (by decide) (by decide)
  unfold signedDigits? power
  by_cases he : e < 0
  · rw [if_pos he]
    simp only [splitSign, hdigits, hvalue, if_true]
    congr 1
    omega
  · rw [if_neg he]
    simp only [splitSign, hdigits, hvalue, if_true]
    rw [if_neg Bool.false_ne_true]
    congr 1
    omega

/-! ### Written numbers -/

/-- The parts of a written number; a power of ten comes with its width. -/
structure Parts where
  whole : List Char
  fraction : List Char
  scale : Option (Nat × Int)
  whole_ne : whole ≠ []
  isDigit_whole : ∀ c ∈ whole, c.isDigit = true
  isDigit_fraction : ∀ c ∈ fraction, c.isDigit = true

namespace Parts

def mantissa (w : Parts) : List Char :=
  w.whole ++ (if w.fraction.isEmpty then [] else '.' :: w.fraction)

def scaleText (w : Parts) : List Char :=
  match w.scale with
  | none => []
  | some (width, e) => 'e' :: power width e

def text (w : Parts) : List Char := w.mantissa ++ w.scaleText

def exponent (w : Parts) : Int :=
  match w.scale with
  | none => 0
  | some (_, e) => e

def decimal (w : Parts) : Decimal :=
  ⟨Nat.ofDigitChars 10 (w.whole ++ w.fraction) 0, -w.fraction.length + w.exponent⟩

theorem text_of_unscaled {w : Parts} (hfraction : w.fraction ≠ []) (hscale : w.scale = none) :
    w.text = w.whole ++ '.' :: w.fraction := by
  rw [text, mantissa, scaleText, hscale, List.append_nil, if_neg (by simpa using hfraction)]

variable (w : Parts)

theorem plain?_mantissa :
    plain? w.mantissa = some ⟨Nat.ofDigitChars 10 (w.whole ++ w.fraction) 0, -w.fraction.length⟩ := by
  unfold mantissa plain?
  by_cases hf : w.fraction = []
  · have hrest : ∀ c ∈ ([] : List Char).head?, c.isDigit = false := by simp
    rw [hf, List.isEmpty_nil, if_pos rfl, takeWhile_append_boundary w.isDigit_whole hrest,
      dropWhile_append_boundary w.isDigit_whole hrest, List.append_nil]
    exact if_neg (by simpa using w.whole_ne)
  · have hrest : ∀ c ∈ ('.' :: w.fraction).head?, c.isDigit = false := by simp
    rw [if_neg (by simpa using hf), takeWhile_append_boundary w.isDigit_whole hrest,
      dropWhile_append_boundary w.isDigit_whole hrest]
    refine if_pos ⟨rfl, List.all_eq_true.2 w.isDigit_fraction, ?_⟩
    rintro ⟨hw, -⟩
    exact w.whole_ne (List.isEmpty_iff.1 hw)

/-- No character in front of the power of ten is an exponent mark. -/
theorem not_isExponentMark_of_mem {c : Char} (h : c ∈ w.mantissa) : (!isExponentMark c) = true := by
  have hdigit : c.isDigit = true ∨ c = '.' := by
    rcases List.mem_append.1 h with h | h
    · exact .inl (w.isDigit_whole c h)
    · split at h
      · cases h
      · rcases List.mem_cons.1 h with h | h
        · exact .inr h
        · exact .inl (w.isDigit_fraction c h)
  have he : c ≠ 'e' ∧ c ≠ 'E' := by
    constructor <;> (rintro rfl; exact absurd hdigit (by decide))
  simp [isExponentMark, he]

theorem scientific?_text : scientific? w.text = some w.decimal := by
  have hmark : ∀ c ∈ w.mantissa, (!isExponentMark c) = true := fun c => w.not_isExponentMark_of_mem
  unfold scientific? text
  rw [List.takeWhile_append_of_pos hmark, List.dropWhile_append_of_pos hmark]
  unfold scaleText decimal exponent
  cases w.scale with
  | none =>
    rw [List.takeWhile_nil, List.append_nil, plain?_mantissa, add_zero]
    rfl
  | some scale =>
    obtain ⟨width, e⟩ := scale
    have htake : ('e' :: power width e).takeWhile (!isExponentMark ·) = [] := List.takeWhile_cons_of_neg (by decide)
    have hdrop : ('e' :: power width e).dropWhile (!isExponentMark ·) = 'e' :: power width e :=
      List.dropWhile_cons_of_neg (by decide)
    rw [htake, hdrop, List.append_nil, plain?_mantissa]
    simp only [Option.bind_eq_bind, Option.bind_some, signedDigits?_power]

end Parts

/-! ### Digits with a point among them -/

/-- The number with these digits, the first of them at `10^e`. -/
def digitsValue (ds : List Char) (e : Int) : Rat :=
  Nat.ofDigitChars 10 ds 0 * (10 : Rat) ^ (e + 1 - ds.length)

theorem digitsValue_append_zeros (ds : List Char) (n : Nat) (e : Int) :
    digitsValue (ds ++ List.replicate n '0') e = digitsValue ds e := by
  have hpow : e + 1 - ds.length = n + (e + 1 - (ds ++ List.replicate n '0').length) := by
    rw [List.length_append, List.length_replicate]
    omega
  rw [digitsValue, digitsValue, hpow, zpow_add₀ (by decide), zpow_natCast, ofDigitChars_append_zeros]
  push_cast
  rw [← mul_assoc, mul_comm (_ ^ _)]

theorem digitsValue_zeros_append (ds : List Char) (n : Nat) (e : Int) :
    digitsValue (List.replicate n '0' ++ ds) e = digitsValue ds (e - n) := by
  rw [digitsValue, digitsValue, ofDigitChars_zeros_append, List.length_append, List.length_replicate]
  congr 2
  omega

theorem digitsValue_digits (d : Decimal) : digitsValue d.digits d.leading = d.value := by
  have hpow : d.leading + 1 - d.digits.length = d.exponent := by
    rw [Decimal.leading]
    omega
  have hcoefficient : Nat.ofDigitChars 10 d.digits 0 = d.coefficient :=
    Nat.ofDigitChars_toDigits (by decide) (by decide)
  rw [digitsValue, hpow, hcoefficient, Decimal.value]

theorem Parts.value_decimal (w : Parts) :
    w.decimal.value = digitsValue (w.whole ++ w.fraction) (w.whole.length - 1 + w.exponent) := by
  rw [digitsValue, List.length_append]
  show _ * (10 : Rat) ^ (-(w.fraction.length : Int) + w.exponent) = _
  congr 2
  omega

/-- Digits that begin with the first that counts, or zero alone. -/
structure Leading (ds : List Char) (e : Int) : Prop where
  ne_nil : ds ≠ []
  isDigit : ∀ c ∈ ds, c.isDigit = true
  head : ds.head? ≠ some '0' ∨ (ds = ['0'] ∧ e = 0)

/-- `w` is what stands in `cs`: the number `r`, no integer and with no zero in front. -/
structure Parts.Shows (w : Parts) (cs : List Char) (r : Rat) : Prop where
  text : w.text = cs
  value : w.decimal.value = r
  isWhole : Numeral.isWhole w.whole = true
  short : w.whole.length ≤ 16
  marked : w.fraction ≠ [] ∨ w.scale ≠ none

section

variable {ds cs : List Char} {e : Int}

theorem isWhole_of_head (hne : cs ≠ []) (hdigit : ∀ c ∈ cs, c.isDigit = true) (hhead : cs.head? ≠ some '0') :
    isWhole cs = true := by
  rw [isWhole, isDigits_iff.2 ⟨hne, hdigit⟩, Bool.true_and, Bool.or_eq_true]
  exact .inl (by simpa using hhead)

theorem isDigit_of_mem_append {w : List Char} (hw : ∀ c ∈ w, c.isDigit = true) (hcs : ∀ c ∈ cs, c.isDigit = true) :
    ∀ c ∈ w ++ cs, c.isDigit = true := by
  intro c hc
  rcases List.mem_append.1 hc with hc | hc
  · exact hw c hc
  · exact hcs c hc

/-- All digits stand behind the point. -/
theorem exists_positional_of_neg (h : Leading ds e) (he : e < 0) :
    ∃ w : Parts, w.Shows (positional ds e) (digitsValue ds e) := by
  obtain ⟨n, hn⟩ : ∃ n, n = (-e - 1).toNat := ⟨_, rfl⟩
  have hne : List.replicate n '0' ++ ds ≠ [] := List.append_ne_nil_of_right_ne_nil _ h.ne_nil
  refine ⟨⟨['0'], List.replicate n '0' ++ ds, none, List.cons_ne_nil _ _, by simp,
    isDigit_of_mem_append isDigit_of_mem_zeros h.isDigit⟩, ?_, ?_, rfl, Nat.le_of_ble_eq_true rfl, .inl hne⟩
  · refine (Parts.text_of_unscaled hne rfl).trans ?_
    rw [positional, if_pos he, ← hn]
    rfl
  · have hzeros : ['0'] ++ (List.replicate n '0' ++ ds) = List.replicate (n + 1) '0' ++ ds := by
      rw [List.replicate_succ]
      rfl
    rw [Parts.value_decimal, hzeros, digitsValue_zeros_append]
    congr 1
    simp only [Parts.exponent, List.length_singleton]
    omega

/-- All digits stand in front of the point. -/
theorem exists_positional_of_length_le (h : Leading ds e) (he : 0 ≤ e) (hlt : e < 16) (hle : ds.length ≤ e + 1) :
    ∃ w : Parts, w.Shows (positional ds e) (digitsValue ds e) := by
  obtain ⟨n, hn⟩ : ∃ n, n = e.toNat + 1 - ds.length := ⟨_, rfl⟩
  have hdigit := isDigit_of_mem_append h.isDigit (isDigit_of_mem_zeros (n := n))
  have hne : ds ++ List.replicate n '0' ≠ [] := List.append_ne_nil_of_left_ne_nil h.ne_nil _
  have hlen : ((ds ++ List.replicate n '0').length : Int) = e + 1 := by
    rw [List.length_append, List.length_replicate]
    omega
  refine ⟨⟨ds ++ List.replicate n '0', ['0'], none, hne, hdigit, by simp⟩, ?_, ?_, ?_, ?_, .inl (List.cons_ne_nil _ _)⟩
  · refine (Parts.text_of_unscaled (List.cons_ne_nil _ _) rfl).trans ?_
    have hdrop : ds.drop (e.toNat + 1) = [] := List.drop_eq_nil_of_le (by omega)
    have htake : ds.take (e.toNat + 1) = ds := List.take_of_length_le (by omega)
    rw [positional, if_neg (not_lt.2 he)]
    simp only [hdrop, htake, ← hn, List.isEmpty_nil, if_true]
  · have hzeros : ds ++ List.replicate n '0' ++ ['0'] = ds ++ List.replicate (n + 1) '0' := by
      rw [List.append_assoc, List.replicate_succ']
    rw [Parts.value_decimal, hzeros, digitsValue_append_zeros]
    congr 1
    simp only [Parts.exponent]
    omega
  · rcases h.head with hhead | ⟨rfl, rfl⟩
    · refine isWhole_of_head hne hdigit ?_
      rw [List.head?_append_of_ne_nil _ h.ne_nil]
      exact hhead
    · subst hn
      rfl
  · show (ds ++ _).length ≤ 16
    omega

/-- The point stands among the digits. -/
theorem exists_positional_of_lt_length (h : Leading ds e) (he : 0 ≤ e) (hlt : e < 16) (hgt : e + 1 < ds.length) :
    ∃ w : Parts, w.Shows (positional ds e) (digitsValue ds e) := by
  obtain ⟨n, hn⟩ : ∃ n, n = e.toNat + 1 := ⟨_, rfl⟩
  have hdrop : ds.drop n ≠ [] := by
    intro hnil
    have := List.drop_eq_nil_iff.1 hnil
    omega
  have htake : ds.take n ≠ [] := by
    intro hnil
    rcases List.take_eq_nil_iff.1 hnil with hz | hz
    · omega
    · exact h.ne_nil hz
  have hdigit : ∀ c ∈ ds.take n, c.isDigit = true := fun c hc => h.isDigit c (List.mem_of_mem_take hc)
  have hlen : (ds.take n).length = n := List.length_take_of_le (by omega)
  refine ⟨⟨ds.take n, ds.drop n, none, htake, hdigit, fun c hc => h.isDigit c (List.mem_of_mem_drop hc)⟩,
    ?_, ?_, ?_, ?_, .inl hdrop⟩
  · refine (Parts.text_of_unscaled hdrop rfl).trans ?_
    have hzeros : n - ds.length = 0 := by omega
    rw [positional, if_neg (not_lt.2 he), ← hn]
    simp only [hzeros, List.replicate_zero, List.append_nil, List.isEmpty_iff, if_neg hdrop]
  · rw [Parts.value_decimal]
    simp only [List.take_append_drop, Parts.exponent, hlen]
    congr 1
    omega
  · rcases h.head with hhead | ⟨rfl, rfl⟩
    · refine isWhole_of_head htake hdigit ?_
      rw [List.head?_take, if_neg (by omega)]
      exact hhead
    · cases hgt
  · show (ds.take n).length ≤ 16
    omega

theorem exists_positional (h : Leading ds e) (hlt : e < 16) :
    ∃ w : Parts, w.Shows (positional ds e) (digitsValue ds e) := by
  rcases lt_or_ge e 0 with hneg | hnonneg
  · exact exists_positional_of_neg h hneg
  · rcases le_or_gt (ds.length : Int) (e + 1) with hle | hgt
    · exact exists_positional_of_length_le h hnonneg hlt hle
    · exact exists_positional_of_lt_length h hnonneg hlt hgt

theorem exists_scientific (h : Leading ds e) (width : Nat) :
    ∃ w : Parts, w.Shows (scientific width ds e) (digitsValue ds e) := by
  obtain ⟨d, rest, rfl⟩ := List.exists_cons_of_ne_nil h.ne_nil
  obtain ⟨hd, hrest⟩ := List.forall_mem_cons.1 h.isDigit
  have hwhole : isDigits [d] = true := isDigits_iff.2 ⟨List.cons_ne_nil _ _, by simpa using hd⟩
  refine ⟨⟨[d], rest, some (width, e), List.cons_ne_nil _ _, by simpa using hd, hrest⟩, rfl, ?_, ?_,
    Nat.le_of_ble_eq_true rfl, .inr (Option.some_ne_none _)⟩
  · rw [Parts.value_decimal]
    simp [Parts.exponent]
  · rw [isWhole, hwhole, Bool.true_and, Bool.or_eq_true]
    exact .inr rfl

end

/-! ### Magnitudes -/

theorem exists_zeros (d : Decimal) :
    ∃ z, d.digits = significantDigits d ++ List.replicate z '0' := by
  have hsplit : d.digits = (d.digits.reverse.dropWhile (· == '0')).reverse ++
      (d.digits.reverse.takeWhile (· == '0')).reverse := by
    rw [← List.reverse_append, List.takeWhile_append_dropWhile, List.reverse_reverse]
  have hzeros : (d.digits.reverse.takeWhile (· == '0')).reverse =
      List.replicate (d.digits.reverse.takeWhile (· == '0')).length '0' := by
    refine List.eq_replicate_iff.2 ⟨List.length_reverse, fun c hc => ?_⟩
    have hzero := List.mem_takeWhile_imp (p := fun (c : Char) => c == '0') (List.mem_reverse.1 hc)
    exact beq_iff_eq.1 hzero
  rw [hzeros] at hsplit
  unfold significantDigits
  split
  · rename_i hnil
    rw [hnil, List.nil_append] at hsplit
    have hlen : 0 < d.digits.length := Nat.length_toDigits_pos
    rw [hsplit] at hlen ⊢
    rw [List.length_replicate] at hlen
    obtain ⟨z, hz⟩ := Nat.exists_eq_succ_of_ne_zero hlen.ne'
    exact ⟨z, by rw [hz, List.replicate_succ]; rfl⟩
  · exact ⟨_, hsplit⟩

theorem digitsValue_significantDigits (d : Decimal) : digitsValue (significantDigits d) d.leading = d.value := by
  obtain ⟨z, hz⟩ := exists_zeros d
  rw [← digitsValue_append_zeros _ z, ← hz, digitsValue_digits]

theorem leading_significantDigits {d : Decimal} (h : d.coefficient ≠ 0) :
    Leading (significantDigits d) d.leading := by
  obtain ⟨z, hz⟩ := exists_zeros d
  have hne : significantDigits d ≠ [] := by
    unfold significantDigits
    split
    · exact List.cons_ne_nil _ _
    · assumption
  refine ⟨hne, fun c hc => ?_, .inl ?_⟩
  · have hmem : c ∈ d.digits := by
      rw [hz]
      exact List.mem_append_left _ hc
    exact Nat.isDigit_of_mem_toDigits (by decide) (by decide) hmem
  · rw [← List.head?_append_of_ne_nil _ hne, ← hz]
    exact head?_toDigits h

theorem leading_significantDigits_zero : Leading (significantDigits ⟨0, 0⟩) (Decimal.leading ⟨0, 0⟩) := by
  have hdigits : Decimal.digits ⟨0, 0⟩ = ['0'] := Nat.toDigits_zero 10
  have hds : significantDigits ⟨0, 0⟩ = ['0'] := by
    rw [significantDigits, hdigits]
    rfl
  have he : Decimal.leading ⟨0, 0⟩ = 0 := by
    rw [Decimal.leading, hdigits]
    rfl
  rw [hds, he]
  exact ⟨List.cons_ne_nil _ _, by simp, .inr ⟨rfl, rfl⟩⟩

theorem exists_parts (f : Layout) {k : Nat} (h : k < Binary64.infinite) :
    ∃ w : Parts, ∃ r, w.Shows (f.magnitude k) r ∧ w.decimal.ordinal = k := by
  obtain ⟨d, hd⟩ : ∃ d, d = if k = 0 then (⟨0, 0⟩ : Decimal) else Decimal.shortest k := ⟨_, rfl⟩
  have hordinal : d.ordinal = k := by
    rw [hd]
    split
    · rename_i hk
      exact hk.symm
    · exact Decimal.ordinal_shortest_eq h
  have hleading : Leading (significantDigits d) d.leading := by
    by_cases hk : k = 0
    · rw [hd, if_pos hk]
      exact leading_significantDigits_zero
    · refine leading_significantDigits ?_
      rw [hd, if_neg hk]
      exact Decimal.coefficient_shortest_ne (Nat.pos_of_ne_zero hk) h
  have hshows : ∃ w : Parts, w.Shows (f.magnitude k) d.value := by
    rw [magnitude, if_neg h.ne, ← hd, ← digitsValue_significantDigits d]
    simp only
    split
    · rename_i hrange
      exact exists_positional hleading hrange.2
    · exact exists_scientific hleading _
  obtain ⟨w, hw⟩ := hshows
  exact ⟨w, _, hw, (Decimal.ordinal_congr hw.value).trans hordinal⟩

end Reckon.Layout
