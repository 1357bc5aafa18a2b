import Mathlib.Data.List.Basic
import Mathlib.Data.Nat.Digits.Defs
import Reckon.Numeral
import Reckon.Proofs.Runs

/-!
# Whole numbers for people

`Numeral.integer?` reads exactly the texts that write a whole number (`Numeral.integer?_eq_some_iff`): white
space around, a sign or none, and digits of any script, not more than 4300, with at most one underscore
between two of them. The reader first makes the digits ASCII and then drops the underscores; `Grouped` says
what the text has to be for that, digit by digit.
-/

namespace Reckon

/-! ### Digits of any script -/

namespace Text

variable {c : Char} {d : Nat}

/-- The value of a digit is its distance from the zero of its script. -/
theorem exists_zero_of_decimalValue? (h : decimalValue? c = some d) :
    ∃ z ∈ zeroDigits, c.toNat = z + d ∧ d < 10 := by
  rw [decimalValue?] at h
  split at h
  · next hdigit =>
    rw [Char.isDigit, Bool.and_eq_true, decide_eq_true_eq, decide_eq_true_eq] at hdigit
    have hlo : 48 ≤ c.toNat := hdigit.1
    have hhi : c.toNat ≤ 57 := hdigit.2
    cases h
    exact ⟨48, List.mem_cons_self .., by omega, by omega⟩
  · obtain ⟨z, hz, rfl⟩ := Option.map_eq_some_iff.1 h
    have hmem := List.mem_of_find?_eq_some hz
    have hrange := List.find?_some hz
    rw [Bool.and_eq_true, decide_eq_true_eq, decide_eq_true_eq] at hrange
    exact ⟨z, hmem, by omega, by omega⟩

theorem lt_ten_of_decimalValue? (h : decimalValue? c = some d) : d < 10 := by
  obtain ⟨z, -, -, hd⟩ := exists_zero_of_decimalValue? h
  exact hd

theorem isBlank_of_decimalValue? (h : decimalValue? c = some d) : isBlank c = false := by
  -- the gaps between the blanks in which the digits lie
  have hgaps : ∀ z ∈ zeroDigits, z = 0x30 ∨ (0x660 ≤ z ∧ z < 0x1670) ∨ (0x1700 ≤ z ∧ z < 0x1f00) ∨ 0x3100 ≤ z := by
    decide
  obtain ⟨z, hz, hc, hd⟩ := exists_zero_of_decimalValue? h
  have hgap := hgaps z hz
  simp only [isBlank, isWhiteSpace, Bool.or_eq_false_iff, Bool.and_eq_false_iff, decide_eq_false_iff_not,
    beq_eq_false_iff_ne]
  omega

theorem toAsciiDigit_of_decimalValue? (h : decimalValue? c = some d) : toAsciiDigit c = d.digitChar := by
  rw [toAsciiDigit, h]

theorem isDigit_digitChar (h : decimalValue? c = some d) : d.digitChar.isDigit = true := by
  rw [Nat.isDigit_digitChar, decide_eq_true_eq]
  exact lt_ten_of_decimalValue? h

theorem digitChar_ne (h : decimalValue? c = some d) {e : Char} (he : e.isDigit = false) : d.digitChar ≠ e := by
  rintro rfl
  rw [isDigit_digitChar h] at he
  cases he

/-- Only digits become digits. -/
theorem isDigit_toAsciiDigit : (toAsciiDigit c).isDigit = true ↔ ∃ d, decimalValue? c = some d := by
  cases h : decimalValue? c with
  | some d =>
    rw [toAsciiDigit_of_decimalValue? h]
    exact iff_of_true (isDigit_digitChar h) ⟨d, rfl⟩
  | none =>
    rw [toAsciiDigit, h]
    refine iff_of_false (fun hdigit => ?_) (by simp)
    rw [decimalValue?_eq_of_isDigit hdigit] at h
    cases h

/-- What becomes another character than a digit is that character. -/
theorem eq_of_toAsciiDigit {e : Char} (h : toAsciiDigit c = e) (he : e.isDigit = false) : c = e := by
  cases hd : decimalValue? c with
  | some d =>
    rw [← h, isDigit_toAsciiDigit.2 ⟨d, hd⟩] at he
    cases he
  | none =>
    rw [toAsciiDigit, hd] at h
    exact h

theorem toAsciiDigit_eq_mark_iff : toAsciiDigit c = '_' ↔ c = '_' := by
  refine ⟨fun h => eq_of_toAsciiDigit h (by decide), ?_⟩
  rintro rfl
  decide

end Text

namespace Numeral

open Text

/-! ### Digits with underscores -/

/-- Digits of any script with these values, at most one underscore between two of them. -/
inductive Grouped : List Char → List Nat → Prop
  | one {c : Char} {d : Nat} (h : decimalValue? c = some d) : Grouped [c] [d]
  | digit {c : Char} {d : Nat} {cs : List Char} {ds : List Nat} (h : decimalValue? c = some d) (hcs : Grouped cs ds) :
      Grouped (c :: cs) (d :: ds)
  | mark {c : Char} {d : Nat} {cs : List Char} {ds : List Nat} (h : decimalValue? c = some d) (hcs : Grouped cs ds) :
      Grouped (c :: '_' :: cs) (d :: ds)

variable {c : Char} {d : Nat} {cs out : List Char} {ds : List Nat}

theorem joinDigits?_cons {previous : Char} (hc : c ≠ '_') (cs : List Char) :
    joinDigits? previous (c :: cs) = (joinDigits? c cs).map (c :: ·) := by
  rw [joinDigits?.eq_def]
  split
  · next h => cases h
  · next h => cases h; exact absurd rfl hc
  · next h => cases h; rw [if_neg hc]

theorem joinDigits?_mark {previous : Char} (hp : previous.isDigit = true) (hc : c.isDigit = true) (cs : List Char) :
    joinDigits? previous ('_' :: c :: cs) = joinDigits? previous (c :: cs) := by
  have hne : c ≠ '_' := by
    rintro rfl
    cases hc
  rw [joinDigits?_cons hne, joinDigits?, hp, hc]
  rfl

namespace Grouped

theorem value_lt_ten (h : Grouped cs ds) : ∀ d ∈ ds, d < 10 := by
  induction h with
  | one h => simpa using lt_ten_of_decimalValue? h
  | digit h _ ih => exact List.forall_mem_cons.2 ⟨lt_ten_of_decimalValue? h, ih⟩
  | mark h _ ih => exact List.forall_mem_cons.2 ⟨lt_ten_of_decimalValue? h, ih⟩

theorem exists_cons (h : Grouped cs ds) : ∃ c cs' d ds', cs = c :: cs' ∧ ds = d :: ds' ∧ decimalValue? c = some d := by
  cases h with
  | one h => exact ⟨_, _, _, _, rfl, rfl, h⟩
  | digit h => exact ⟨_, _, _, _, rfl, rfl, h⟩
  | mark h => exact ⟨_, _, _, _, rfl, rfl, h⟩

theorem ne_nil (h : Grouped cs ds) : cs ≠ [] := by
  obtain ⟨c, cs', d, ds', rfl, -⟩ := h.exists_cons
  exact List.cons_ne_nil c cs'

theorem isBlank_head? (h : Grouped cs ds) : ∀ c ∈ cs.head?, isBlank c = false := by
  obtain ⟨c, cs', d, ds', rfl, -, hc⟩ := h.exists_cons
  intro e he
  cases he
  exact isBlank_of_decimalValue? hc

theorem isBlank_getLast? (h : Grouped cs ds) : ∀ c ∈ cs.getLast?, isBlank c = false := by
  induction h with
  | one h =>
    intro e he
    cases he
    exact isBlank_of_decimalValue? h
  | digit h hcs ih =>
    obtain ⟨c, cs', d, ds', rfl, -⟩ := hcs.exists_cons
    rwa [List.getLast?_cons_cons]
  | mark h hcs ih =>
    obtain ⟨c, cs', d, ds', rfl, -⟩ := hcs.exists_cons
    rwa [List.getLast?_cons_cons, List.getLast?_cons_cons]

/-- Grouped digits are joined to ASCII digits of the same values. -/
theorem joinDigits? (h : Grouped cs ds) (previous : Char) :
    joinDigits? previous (cs.map toAsciiDigit) = some (ds.map Nat.digitChar) := by
  have digit_ne : ∀ {c d}, decimalValue? c = some d → d.digitChar ≠ '_' := fun h => digitChar_ne h (by decide)
  induction h generalizing previous with
  | one h =>
    rw [List.map_singleton, toAsciiDigit_of_decimalValue? h, joinDigits?_cons (digit_ne h)]
    rfl
  | digit h _ ih =>
    rw [List.map_cons, toAsciiDigit_of_decimalValue? h, joinDigits?_cons (digit_ne h), ih]
    rfl
  | @mark c d cs ds h hcs ih =>
    obtain ⟨e, cs', d', ds', rfl, rfl, he⟩ := hcs.exists_cons
    have hjoin := ih d.digitChar
    rw [List.map_cons, toAsciiDigit_of_decimalValue? he] at hjoin
    rw [List.map_cons, List.map_cons, List.map_cons, toAsciiDigit_eq_mark_iff.2 rfl, toAsciiDigit_of_decimalValue? h,
      toAsciiDigit_of_decimalValue? he, joinDigits?_cons (digit_ne h), joinDigits?_mark (isDigit_digitChar h) (isDigit_digitChar he), hjoin]
    rfl

theorem isDigits (h : Grouped cs ds) : isDigits (ds.map Nat.digitChar) = true := by
  obtain ⟨-, -, d, ds', -, rfl, -⟩ := h.exists_cons
  refine isDigits_iff.2 ⟨List.cons_ne_nil _ _, fun c hc => ?_⟩
  obtain ⟨e, he, rfl⟩ := List.mem_map.1 hc
  rw [Nat.isDigit_digitChar, decide_eq_true_eq]
  exact h.value_lt_ten e he

theorem ofDigitChars (h : Grouped cs ds) : Nat.ofDigitChars 10 (ds.map Nat.digitChar) 0 = Nat.ofDigits 10 ds.reverse := by
  have value : ∀ ds : List Nat, (∀ d ∈ ds, d < 10) → ∀ n,
      Nat.ofDigitChars 10 (ds.map Nat.digitChar) n = Nat.ofDigits 10 ds.reverse + 10 ^ ds.length * n := by
    intro ds hds
    induction ds with
    | nil => intro n; simp
    | cons d ds ih =>
      intro n
      obtain ⟨hd, hds⟩ := List.forall_mem_cons.1 hds
      rw [List.map_cons, Nat.ofDigitChars_cons_digitChar_of_lt_ten hd, ih hds, Nat.ofDigits_reverse_cons,
        List.length_cons]
      ring
  rw [value ds h.value_lt_ten, Nat.mul_zero, Nat.add_zero]

end Grouped

theorem ne_nil_of_joinDigits? {previous : Char} (hc : c ≠ '_') (h : joinDigits? previous (c :: cs) = some out) :
    out ≠ [] := by
  rw [joinDigits?_cons hc] at h
  obtain ⟨out', -, rfl⟩ := Option.map_eq_some_iff.1 h
  exact List.cons_ne_nil _ _

/-- What is joined to ASCII digits is grouped digits, unless an underscore comes first. -/
theorem exists_grouped {previous : Char} (h : joinDigits? previous (cs.map toAsciiDigit) = some out)
    (hne : out ≠ []) (hall : ∀ c ∈ out, c.isDigit = true) (hhead : cs.head? ≠ some '_') :
    ∃ ds, Grouped cs ds ∧ out = ds.map Nat.digitChar := by
  -- one step takes a digit, and with it the underscore behind it if there is one
  induction hn : cs.length using Nat.strong_induction_on generalizing cs out previous with
  | _ n ih =>
  rcases cs with _ | ⟨c, cs⟩
  · cases h
    exact absurd rfl hne
  have hc : c ≠ '_' := fun he => hhead (he ▸ rfl)
  rw [List.map_cons, joinDigits?_cons (mt toAsciiDigit_eq_mark_iff.1 hc)] at h
  obtain ⟨out, hjoin, rfl⟩ := Option.map_eq_some_iff.1 h
  clear h hne
  obtain ⟨hdigit, hall⟩ := List.forall_mem_cons.1 hall
  obtain ⟨d, hd⟩ := isDigit_toAsciiDigit.1 hdigit
  rw [toAsciiDigit_of_decimalValue? hd]
  rcases cs with _ | ⟨e, cs⟩
  · cases hjoin
    exact ⟨[d], .one hd, rfl⟩
  by_cases he : e = '_'
  · subst he
    rw [List.map_cons, toAsciiDigit_eq_mark_iff.2 rfl] at hjoin
    rcases cs with _ | ⟨g, cs⟩
    · simp [joinDigits?] at hjoin
    have hg : (toAsciiDigit g).isDigit = true := by
      by_contra hno
      simp [joinDigits?, hno] at hjoin
    have hne : g ≠ '_' := by
      rintro rfl
      cases hg
    rw [List.map_cons, joinDigits?_mark hdigit hg] at hjoin
    obtain ⟨ds, hcs, rfl⟩ := ih (g :: cs).length (by rw [← hn]; simp) hjoin
      (ne_nil_of_joinDigits? (mt toAsciiDigit_eq_mark_iff.1 hne) hjoin) hall (by simpa using hne) rfl
    exact ⟨d :: ds, .mark hd hcs, rfl⟩
  · obtain ⟨ds, hcs, rfl⟩ := ih (e :: cs).length (by rw [← hn]; simp) hjoin
      (ne_nil_of_joinDigits? (mt toAsciiDigit_eq_mark_iff.1 he) hjoin) hall (by simpa using he) rfl
    exact ⟨d :: ds, .digit hd hcs, rfl⟩

theorem head?_ne_mark {previous : Char} (hp : previous.isDigit = false)
    (h : joinDigits? previous (cs.map toAsciiDigit) = some out) : cs.head? ≠ some '_' := by
  intro hhead
  obtain ⟨cs, rfl⟩ := List.head?_eq_some_iff.1 hhead
  rw [List.map_cons, toAsciiDigit_eq_mark_iff.2 rfl] at h
  cases cs <;> simp [joinDigits?, hp] at h

/-! ### Whole numbers -/

/-- The text writes the whole number `n`: white space, a sign or none, grouped digits, white space. -/
def Writes (s : String) (n : Int) : Prop :=
  ∃ before sign cs after ds, s.toList = before ++ (sign.toList ++ cs ++ after) ∧
    (∀ c ∈ before, isWhiteSpace c = true) ∧ (∀ c ∈ after, isWhiteSpace c = true) ∧
    sign ∈ [none, some '+', some '-'] ∧ Grouped cs ds ∧ ds.length ≤ 4300 ∧
    n = if sign = some '-' then -((Nat.ofDigits 10 ds.reverse : Nat) : Int) else (Nat.ofDigits 10 ds.reverse : Nat)

theorem splitSign_cons {c : Char} (hm : c ≠ '-') (hp : c ≠ '+') (cs : List Char) :
    splitSign (c :: cs) = (false, c :: cs) := by
  unfold splitSign
  split <;> simp_all

variable {s : String} {n : Int}

theorem integer?_eq_some_iff_of_splitSign {negative : Bool}
    (hjoin : joinDigits? ' ' (normalize s.toList) = some cs) (hsign : splitSign cs = (negative, out)) :
    integer? s = some n ↔ out.length ≤ integerDigits ∧ isDigits out = true ∧
      n = if negative then -(Nat.ofDigitChars 10 out 0 : Int) else Nat.ofDigitChars 10 out 0 := by
  simp only [integer?, hjoin, signedDigits?, hsign, bind, Option.bind]
  by_cases hlength : integerDigits < out.length
  · simp [hlength]
  · by_cases hdigits : isDigits out = true <;> simp [hlength, hdigits, Nat.not_lt.1 hlength, eq_comm]

/-- A sign does not hinder the joining of the digits behind it. -/
theorem joinDigits?_sign {sign : Option Char} (hsign : sign ∈ [none, some '+', some '-']) (h : Grouped cs ds) :
    joinDigits? ' ' ((sign.toList ++ cs).map toAsciiDigit) = some (sign.toList ++ ds.map Nat.digitChar) ∧
      splitSign (sign.toList ++ ds.map Nat.digitChar) = (sign == some '-', ds.map Nat.digitChar) := by
  have hplus : toAsciiDigit '+' = '+' := by decide
  have hminus : toAsciiDigit '-' = '-' := by decide
  simp only [List.mem_cons, List.not_mem_nil, or_false] at hsign
  obtain rfl | rfl | rfl := hsign
  · refine ⟨h.joinDigits? ' ', ?_⟩
    obtain ⟨c, _, d, ds', -, rfl, hd⟩ := h.exists_cons
    exact splitSign_cons (digitChar_ne hd (by decide)) (digitChar_ne hd (by decide)) _
  · refine ⟨?_, rfl⟩
    rw [Option.toList_some, List.singleton_append, List.map_cons, hplus, joinDigits?_cons (by decide), h.joinDigits?]
    rfl
  · refine ⟨?_, rfl⟩
    rw [Option.toList_some, List.singleton_append, List.map_cons, hminus, joinDigits?_cons (by decide), h.joinDigits?]
    rfl

/-- The reader takes the white space off what is written and nothing more. -/
theorem trim_sign {sign : Option Char} {before after : List Char} (hbefore : ∀ c ∈ before, isWhiteSpace c = true)
    (hafter : ∀ c ∈ after, isWhiteSpace c = true) (hsign : sign ∈ [none, some '+', some '-']) (h : Grouped cs ds) :
    trim isWhiteSpace (before ++ (sign.toList ++ cs ++ after)) = sign.toList ++ cs := by
  have hspace : ∀ {c}, isBlank c = false → isWhiteSpace c = false := fun hc => (Bool.or_eq_false_iff.1 hc).1
  have hne : sign.toList ++ cs ≠ [] := fun he => h.ne_nil (List.append_eq_nil_iff.1 he).2
  refine trim_append hbefore hafter hne (fun c hc => hspace ?_) fun c hc => hspace ?_
  · simp only [List.mem_cons, List.not_mem_nil, or_false] at hsign
    obtain rfl | rfl | rfl := hsign
    · exact h.isBlank_head? c hc
    · cases hc
      decide
    · cases hc
      decide
  · rw [List.getLast?_append_of_ne_nil _ h.ne_nil] at hc
    exact h.isBlank_getLast? c hc

theorem integer?_of_writes (h : Writes s n) : integer? s = some n := by
  obtain ⟨before, sign, cs, after, ds, hs, hbefore, hafter, hsign, hcs, hlength, rfl⟩ := h
  obtain ⟨hjoin, hsplit⟩ := joinDigits?_sign hsign hcs
  have hnormal : normalize s.toList = (sign.toList ++ cs).map toAsciiDigit := by
    rw [normalize, hs, trim_sign hbefore hafter hsign hcs]
  rw [← hnormal] at hjoin
  rw [integer?_eq_some_iff_of_splitSign hjoin hsplit, List.length_map, hcs.ofDigitChars]
  refine ⟨hlength, hcs.isDigits, ?_⟩
  simp only [beq_iff_eq]

/-- What is joined to a sign and ASCII digits is a sign and grouped digits. -/
theorem exists_sign (hjoin : joinDigits? ' ' (cs.map toAsciiDigit) = some out)
    (hdigits : isDigits (splitSign out).2 = true) : ∃ sign cs' ds, cs = sign.toList ++ cs' ∧
      sign ∈ [none, some '+', some '-'] ∧ Grouped cs' ds ∧ splitSign out = (sign == some '-', ds.map Nat.digitChar) := by
  have behind : ∀ {c cs out}, c.isDigit = false → joinDigits? c (List.map toAsciiDigit cs) = some out →
      isDigits out = true → ∃ ds, Grouped cs ds ∧ out = ds.map Nat.digitChar := fun hc h hdigits =>
    exists_grouped h (isDigits_iff.1 hdigits).1 (isDigits_iff.1 hdigits).2 (head?_ne_mark hc h)
  rcases cs with _ | ⟨c, cs⟩
  · cases hjoin
    cases hdigits
  have hc : toAsciiDigit c ≠ '_' := fun he =>
    head?_ne_mark (by decide) hjoin (congrArg some (toAsciiDigit_eq_mark_iff.1 he))
  have hcons := hjoin
  rw [List.map_cons, joinDigits?_cons hc] at hcons
  obtain ⟨out', hrest, rfl⟩ := Option.map_eq_some_iff.1 hcons
  by_cases hsign : toAsciiDigit c = '-' ∨ toAsciiDigit c = '+'
  · have hno : (toAsciiDigit c).isDigit = false := by rcases hsign with he | he <;> rw [he] <;> decide
    have hsplit : splitSign (toAsciiDigit c :: out') = (some c == some '-', out') := by
      rcases hsign with he | he <;> rw [he, eq_of_toAsciiDigit he (by decide)] <;> rfl
    have hmem : c = '+' ∨ c = '-' :=
      hsign.symm.imp (eq_of_toAsciiDigit · (by decide)) (eq_of_toAsciiDigit · (by decide))
    rw [hsplit] at hdigits ⊢
    obtain ⟨ds, hcs, rfl⟩ := behind hno hrest hdigits
    exact ⟨some c, cs, ds, rfl, by simpa using hmem, hcs, rfl⟩
  · rw [not_or] at hsign
    rw [splitSign_cons hsign.1 hsign.2] at hdigits ⊢
    obtain ⟨ds, hcs, hout⟩ := behind (by decide) hjoin hdigits
    exact ⟨none, c :: cs, ds, rfl, by simp, hcs, by rw [hout]; rfl⟩

theorem writes_of_integer? (h : integer? s = some n) : Writes s n := by
  obtain ⟨before, after, hs, hbefore, hafter⟩ := exists_trim isWhiteSpace s.toList
  obtain ⟨out, hjoin⟩ : ∃ out, joinDigits? ' ' (normalize s.toList) = some out := by
    cases hj : joinDigits? ' ' (normalize s.toList) with
    | some out => exact ⟨out, rfl⟩
    | none => rw [integer?, hj] at h; cases h
  obtain ⟨-, hdigits, -⟩ := (integer?_eq_some_iff_of_splitSign hjoin rfl).1 h
  obtain ⟨sign, cs, ds, hcore, hsign, hcs, hsplit⟩ := exists_sign hjoin hdigits
  obtain ⟨hlength, -, rfl⟩ := (integer?_eq_some_iff_of_splitSign hjoin hsplit).1 h
  rw [List.length_map] at hlength
  refine ⟨before, sign, cs, after, ds, hcore ▸ hs, hbefore, hafter, hsign, hcs, hlength, ?_⟩
  rw [hcs.ofDigitChars]
  simp only [beq_iff_eq]

/-- The reader for people reads exactly the texts that write a whole number. -/
theorem integer?_eq_some_iff : integer? s = some n ↔ Writes s n := ⟨writes_of_integer?, integer?_of_writes⟩

end Numeral

end Reckon
