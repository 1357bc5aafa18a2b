import Reckon.Json.Lexeme
import Reckon.Json.Writer
import Reckon.Proofs.Binary64.Bits
import Reckon.Proofs.Decimal.Parts

/-!
# Words of JSON

An integer of at most 4300 characters is read back from its text (`word?_writeInt`), and so is every float,
infinity, NaN and the sign of zero included (`word?_writeFloat`). Nothing in such a text ends a word.
-/

namespace Reckon.Json.Lexeme

open Layout Numeral

theorem isWordChar_of_isDigit {c : Char} (h : c.isDigit = true) : isWordChar c = true := by
  show (c.isAlpha || c.isDigit || c == '-' || c == '+' || c == '.') = true
  rw [h]
  simp

theorem isWordChar_sign (negative : Bool) : ∀ c ∈ sign negative, isWordChar c = true := by
  cases negative <;> simp [sign, isWordChar]

/-! ### Numbers in general -/

section

variable {negative : Bool} {whole rest : List Char}

theorem isDigit_of_isWhole (h : isWhole whole = true) : whole ≠ [] ∧ ∀ c ∈ whole, c.isDigit = true :=
  isDigits_iff.1 (Bool.and_eq_true _ _ ▸ h).1

/-- A number is taken apart into its sign, its first digits and the rest. -/
theorem number?_split (hwhole : isWhole whole = true) (hrest : ∀ c ∈ rest.head?, c.isDigit = false)
    (hlen : (sign negative).length + whole.length ≤ wholeLength) :
    number? (sign negative ++ (whole ++ rest)) =
      if rest.isEmpty then
        some (int (if negative then -Nat.ofDigitChars 10 whole 0 else Nat.ofDigitChars 10 whole 0))
      else if rest.head? == some '.' && ((rest.drop 1).takeWhile Char.isDigit).isEmpty then none
      else (scientific? (whole ++ rest)).map fun d => float (Binary64.ofOrdinal negative d.ordinal) := by
  obtain ⟨hne, hdigit⟩ := isDigit_of_isWhole hwhole
  have hsign : ((sign negative ++ (whole ++ rest)).head? == some '-') = negative := by
    cases negative with
    | true => rfl
    | false =>
      obtain ⟨c, cs, rfl⟩ := List.exists_cons_of_ne_nil hne
      show (some c == some '-') = false
      rw [beq_eq_false_iff_ne]
      rintro ⟨⟩
      exact absurd (hdigit '-' (by simp)) (by decide)
  have hbody : (if negative then (sign negative ++ (whole ++ rest)).drop 1 else sign negative ++ (whole ++ rest)) =
      whole ++ rest := by
    cases negative <;> rfl
  have hcount : ¬wholeLength < (sign negative ++ (whole ++ rest)).length - rest.length := by
    rw [List.length_append, List.length_append]
    omega
  unfold number?
  simp only [hsign, hbody, takeWhile_append_boundary hdigit hrest, dropWhile_append_boundary hdigit hrest, hwhole,
    hcount, Bool.not_true, Bool.false_or, decide_false, Bool.false_eq_true, if_false]

theorem splitSign_sign {c : Char} {cs : List Char} (hc : c.isDigit = true) :
    splitSign (sign negative ++ c :: cs) = (negative, c :: cs) := by
  cases negative with
  | true => rfl
  | false =>
    show splitSign (c :: cs) = (false, c :: cs)
    unfold splitSign
    split
    · rename_i he
      rw [(List.cons.inj he).1] at hc
      cases hc
    · rename_i he
      rw [(List.cons.inj he).1] at hc
      cases hc
    · rfl

/-- No constant has a digit at its beginning, or behind a sign there. -/
theorem word?_eq_number? {c : Char} {cs : List Char} (hc : c.isDigit = true) :
    word? (sign negative ++ c :: cs) = number? (sign negative ++ c :: cs) := by
  have hne : ∀ w : List Char, (splitSign w).2.head?.any Char.isDigit = false → sign negative ++ c :: cs ≠ w := by
    rintro w hw rfl
    rw [splitSign_sign hc] at hw
    exact absurd hc (by simpa using hw)
  rw [word?, if_neg (hne _ (by decide)), if_neg (hne _ (by decide)), if_neg (hne _ (by decide)),
    if_neg (hne _ (by decide)), if_neg (hne _ (by decide)), if_neg (hne _ (by decide))]

end

/-! ### Integers and floats -/

theorem isWhole_toDigits (n : Nat) : isWhole (Nat.toDigits 10 n) = true := by
  by_cases hn : n = 0
  · rw [hn]
    rfl
  · refine isWhole_of_head Nat.toDigits_ne_nil ?_ (head?_toDigits hn)
    intro c hc
    exact Nat.isDigit_of_mem_toDigits (by decide) (by decide) hc

theorem word?_writeInt {n : Int} (h : (writeInt n).length ≤ wholeLength) :
    word? (writeInt n) = some (int n) := by
  obtain ⟨c, cs, hcs⟩ := List.exists_cons_of_ne_nil (Nat.toDigits_ne_nil (n := n.natAbs) (b := 10))
  have hwhole := isWhole_toDigits n.natAbs
  have hc : c.isDigit = true := (isDigit_of_isWhole hwhole).2 c (by rw [hcs]; simp)
  rw [writeInt, List.length_append] at h
  have hend : ∀ c ∈ ([] : List Char).head?, c.isDigit = false := by simp
  have hread := number?_split hwhole hend h
  rw [List.append_nil, List.isEmpty_nil, if_pos rfl, Nat.ofDigitChars_toDigits (by decide) (by decide)] at hread
  rw [writeInt, hcs, word?_eq_number? hc, ← hcs, hread]
  congr 2
  by_cases hn : n < 0
  · rw [if_pos (decide_eq_true hn)]
    omega
  · rw [if_neg (by simpa using hn)]
    omega

/-- Behind the first digits of a magnitude there is a point with a digit, or a power of ten. -/
theorem exists_tail {w : Parts} (h : w.fraction ≠ [] ∨ w.scale ≠ none) :
    ∃ tail, w.text = w.whole ++ tail ∧
      ((∃ c cs, c.isDigit = true ∧ tail = '.' :: c :: cs) ∨ ∃ cs, tail = 'e' :: cs) := by
  refine ⟨_, List.append_assoc _ _ _, ?_⟩
  by_cases hf : w.fraction = []
  · obtain ⟨⟨width, e⟩, he⟩ := Option.ne_none_iff_exists'.1 (h.resolve_left (absurd hf))
    rw [hf, Parts.scaleText, he]
    exact .inr ⟨_, rfl⟩
  · obtain ⟨c, cs, hcs⟩ := List.exists_cons_of_ne_nil hf
    rw [if_neg (by simpa using hf), hcs]
    exact .inl ⟨c, _, w.isDigit_fraction c (by rw [hcs]; simp), rfl⟩

/-- A magnitude in any layout is read as the float with this ordinal. -/
theorem word?_magnitude (f : Layout) {k : Nat} (h : k < Binary64.infinite) (negative : Bool) :
    word? (sign negative ++ f.magnitude k) = some (float (Binary64.ofOrdinal negative k)) := by
  obtain ⟨w, r, hw, hk⟩ := exists_parts f h
  obtain ⟨tail, htext, htail⟩ := exists_tail hw.marked
  obtain ⟨c, cs, hcs⟩ := List.exists_cons_of_ne_nil w.whole_ne
  have hc : c.isDigit = true := w.isDigit_whole c (by rw [hcs]; simp)
  have hlen : (sign negative).length + w.whole.length ≤ wholeLength := by
    have hshort := hw.short
    have hsign : (sign negative).length ≤ 1 := by cases negative <;> decide
    show _ ≤ 4300
    omega
  have hnumber : number? (sign negative ++ (w.whole ++ tail)) =
      (scientific? (w.whole ++ tail)).map fun d => float (Binary64.ofOrdinal negative d.ordinal) := by
    rcases htail with ⟨d, ds, hd, rfl⟩ | ⟨ds, rfl⟩
    · rw [number?_split hw.isWhole (by simp) hlen]
      simp [hd]
    · rw [number?_split hw.isWhole (by simp) hlen]
      simp
  rw [← hw.text, htext, hcs, List.cons_append, word?_eq_number? hc, ← List.cons_append, ← hcs, hnumber, ← htext,
    w.scientific?_text, Option.map_some, hk]

theorem word?_writeFloat (x : Float) : word? (stored.write x) = some (float x) := by
  rw [Layout.write]
  split
  · rename_i h
    rw [Binary64.eq_nan_of_isNaN h]
    rfl
  rename_i h
  have hle := Binary64.ordinal_le_infinite (Bool.eq_false_of_not_eq_true h)
  rcases hle.lt_or_eq with hlt | heq
  · rw [word?_magnitude stored hlt, Binary64.ofOrdinal_ordinal]
  · have hx := Binary64.ofOrdinal_ordinal x
    rw [heq] at hx
    rw [heq, magnitude, if_pos rfl]
    cases hneg : Binary64.isNegative x with
    | true =>
      rw [← hx, hneg]
      rfl
    | false =>
      rw [← hx, hneg]
      rfl

/-! ### Ends of words -/

theorem isWordChar_toDigits (n : Nat) : ∀ c ∈ Nat.toDigits 10 n, isWordChar c = true := by
  intro c hc
  exact isWordChar_of_isDigit (Nat.isDigit_of_mem_toDigits (by decide) (by decide) hc)

theorem isWordChar_writeInt (n : Int) : ∀ c ∈ writeInt n, isWordChar c = true := by
  intro c hc
  rcases List.mem_append.1 hc with hc | hc
  · exact isWordChar_sign _ c hc
  · exact isWordChar_toDigits _ c hc

theorem isWordChar_text (w : Parts) : ∀ c ∈ w.text, isWordChar c = true := by
  intro c hc
  rcases List.mem_append.1 hc with hc | hc
  · rcases List.mem_append.1 hc with hc | hc
    · exact isWordChar_of_isDigit (w.isDigit_whole c hc)
    · split at hc
      · cases hc
      · rcases List.mem_cons.1 hc with rfl | hc
        · rfl
        · exact isWordChar_of_isDigit (w.isDigit_fraction c hc)
  · unfold Parts.scaleText at hc
    split at hc
    · cases hc
    rename_i width e _
    rcases List.mem_cons.1 hc with rfl | hc
    · rfl
    rcases List.mem_cons.1 hc with rfl | hc
    · split <;> rfl
    rcases List.mem_append.1 hc with hc | hc
    · exact isWordChar_of_isDigit (isDigit_of_mem_zeros c hc)
    · exact isWordChar_toDigits _ c hc

/-- So it is in any layout whose words for infinity and NaN have no other characters. -/
theorem isWordChar_write {f : Layout} (hnan : f.nan.toList.all isWordChar = true)
    (hinf : f.infinity.toList.all isWordChar = true) (x : Float) : ∀ c ∈ f.write x, isWordChar c = true := by
  intro c hc
  rw [Layout.write] at hc
  split at hc
  · exact List.all_eq_true.1 hnan c hc
  rename_i h
  have hle := Binary64.ordinal_le_infinite (Bool.eq_false_of_not_eq_true h)
  rcases List.mem_append.1 hc with hc | hc
  · exact isWordChar_sign _ c hc
  rcases hle.lt_or_eq with hlt | heq
  · obtain ⟨w, r, hw, -⟩ := exists_parts f hlt
    rw [← hw.text] at hc
    exact isWordChar_text w c hc
  · rw [heq, magnitude, if_pos rfl] at hc
    exact List.all_eq_true.1 hinf c hc

theorem isWordChar_writeFloat (x : Float) : ∀ c ∈ stored.write x, isWordChar c = true :=
  isWordChar_write (by decide) (by decide) x

end Reckon.Json.Lexeme
