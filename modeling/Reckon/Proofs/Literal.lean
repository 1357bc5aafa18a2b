import Mathlib.Data.List.TakeWhile
import Mathlib.Tactic.FinCases
import Mathlib.Tactic.IntervalCases
import Reckon.Lexeme
import Reckon.Numeral

/-!
# Number literals

A literal has digits, at least one of them, and at most one point. Such a text is what the plain reader of
numbers accepts (`IsLiteral.exists_plain`, `isLiteral_of_plain?`), and the reader for people, which knows signs, exponents,
underscores and words besides, reads the same float from it (`IsLiteral.typed?_eq`).
-/

namespace Reckon

open Lexeme

namespace Numeral

/-- Digits and at most one point, with at least one digit. -/
structure IsLiteral (cs : List Char) : Prop where
  chars : ∀ c ∈ cs, isNumeralChar c = true
  digit : ∃ c ∈ cs, c.isDigit = true
  point : cs.count '.' ≤ 1

theorem mem_of_isNumeralChar {c : Char} (h : isNumeralChar c = true) :
    c ∈ ['0', '1', '2', '3', '4', '5', '6', '7', '8', '9', '.'] := by
  rw [isNumeralChar, Bool.or_eq_true, beq_iff_eq] at h
  rcases h with h | rfl
  · rw [Char.isDigit, Bool.and_eq_true, decide_eq_true_eq, decide_eq_true_eq] at h
    have hlo : 48 ≤ c.toNat := h.1
    have hhi : c.toNat ≤ 57 := h.2
    rw [← Char.ofNat_toNat c]
    interval_cases c.toNat <;> decide
  · decide

/-- What reading a number for people does to its characters, or looks for, leaves literals alone. -/
theorem isNumeralChar_inert {c : Char} (h : isNumeralChar c = true) :
    Text.isWhiteSpace c = false ∧ Text.toAsciiDigit c = c ∧ isExponentMark c = false ∧ c.toLower = c ∧
      c ≠ '_' ∧ c ≠ '-' ∧ c ≠ '+' ∧ c ≠ 'n' := by
  have hmem := mem_of_isNumeralChar h
  fin_cases hmem <;> decide

theorem isDigit_of_isNumeralChar {c : Char} (h : isNumeralChar c = true) (hne : c ≠ '.') : c.isDigit = true := by
  simpa [isNumeralChar, hne] using h

theorem IsLiteral.exists_plain {cs : List Char} (h : IsLiteral cs) : ∃ d, plain? cs = some d := by
  have hsplit := List.takeWhile_append_dropWhile (p := Char.isDigit) (l := cs)
  unfold plain?
  cases hrest : cs.dropWhile Char.isDigit with
  | nil =>
    have hne : cs.takeWhile Char.isDigit ≠ [] := by
      obtain ⟨c, hc, -⟩ := h.digit
      rw [hrest, List.append_nil] at hsplit
      rw [hsplit]
      exact List.ne_nil_of_mem hc
    exact ⟨_, if_neg (by simpa using hne)⟩
  | cons c fraction =>
    rw [hrest] at hsplit
    have hc : c.isDigit = false := by
      have := List.head?_dropWhile_not Char.isDigit cs
      rw [hrest] at this
      simpa using this
    have hmem : c ∈ cs := by rw [← hsplit]; simp
    obtain rfl : c = '.' := by
      by_contra hne
      rw [isDigit_of_isNumeralChar (h.chars c hmem) hne] at hc
      cases hc
    have hpoint : '.' ∉ fraction := by
      have := h.point
      rw [← hsplit, List.count_append, List.count_cons_self] at this
      rw [← List.count_eq_zero]
      omega
    have hfraction : ∀ d ∈ fraction, d.isDigit = true := by
      intro d hd
      refine isDigit_of_isNumeralChar (h.chars d ?_) fun he => hpoint (he ▸ hd)
      rw [← hsplit]
      simp [hd]
    have hsome : ¬((cs.takeWhile Char.isDigit).isEmpty ∧ fraction.isEmpty) := by
      rintro ⟨hw, hf⟩
      obtain ⟨d, hd, hdigit⟩ := h.digit
      rw [← hsplit, List.isEmpty_iff.1 hw, List.isEmpty_iff.1 hf] at hd
      rw [List.mem_singleton.1 hd] at hdigit
      cases hdigit
    exact ⟨_, if_pos ⟨rfl, List.all_eq_true.2 hfraction, hsome⟩⟩

/-- The plain reader accepts nothing but literals. -/
theorem isLiteral_of_plain? {cs : List Char} {d : Decimal} (h : plain? cs = some d) : IsLiteral cs := by
  have hsplit := List.takeWhile_append_dropWhile (p := Char.isDigit) (l := cs)
  have hdigit : ∀ c ∈ cs.takeWhile Char.isDigit, c.isDigit = true := fun c hc => List.mem_takeWhile_imp hc
  have hchar {c : Char} (hc : c.isDigit = true) : isNumeralChar c = true := by rw [isNumeralChar, hc]; rfl
  have hpoint {ds : List Char} (hds : ∀ c ∈ ds, c.isDigit = true) : ds.count '.' = 0 :=
    List.count_eq_zero.2 fun hmem => by cases hds _ hmem
  unfold plain? at h
  rcases hrest : cs.dropWhile Char.isDigit with _ | ⟨c, fraction⟩
  · rw [hrest, List.append_nil] at hsplit
    rw [hsplit] at hdigit
    simp only [hrest, hsplit] at h
    cases cs with
    | nil => cases h
    | cons c cs => exact ⟨fun d hd => hchar (hdigit d hd), ⟨c, by simp, hdigit c (by simp)⟩, by rw [hpoint hdigit]; simp⟩
  · simp only [hrest] at h
    split at h
    · next hc =>
      obtain ⟨rfl, hall, hsome⟩ := hc
      rw [List.all_eq_true] at hall
      rw [hrest] at hsplit
      refine ⟨fun d hd => ?_, ?_, ?_⟩
      · rw [← hsplit, List.mem_append, List.mem_cons] at hd
        rcases hd with hd | rfl | hd
        · exact hchar (hdigit d hd)
        · rfl
        · exact hchar (hall d hd)
      · by_contra hno
        simp only [not_exists, not_and] at hno
        refine hsome ⟨List.isEmpty_iff.2 ?_, List.isEmpty_iff.2 ?_⟩
        · exact List.eq_nil_iff_forall_not_mem.2 fun d hd =>
            hno d (hsplit ▸ List.mem_append_left _ hd) (hdigit d hd)
        · exact List.eq_nil_iff_forall_not_mem.2 fun d hd =>
            hno d (hsplit ▸ List.mem_append_right _ (List.mem_cons_of_mem _ hd)) (hall d hd)
      · rw [← hsplit, List.count_append, List.count_cons_self, hpoint hdigit, hpoint hall]
    · cases h

/-! ### The reader for people -/

section

variable {cs : List Char} (h : ∀ c ∈ cs, isNumeralChar c = true)
include h

theorem dropWhile_isWhiteSpace : cs.dropWhile Text.isWhiteSpace = cs := by
  cases cs with
  | nil => rfl
  | cons c cs => rw [List.dropWhile_cons, (isNumeralChar_inert (h c (by simp))).1]; rfl

theorem normalize_eq : normalize cs = cs := by
  have hrev : ∀ c ∈ cs.reverse, isNumeralChar c = true := fun c hc => h c (by simpa using hc)
  rw [normalize, Text.trim, dropWhile_isWhiteSpace h, dropWhile_isWhiteSpace hrev, List.reverse_reverse]
  exact (List.map_congr_left fun c hc => (isNumeralChar_inert (h c hc)).2.1).trans (List.map_id' cs)

theorem joinDigits?_eq (previous : Char) : joinDigits? previous cs = some cs := by
  induction cs generalizing previous with
  | nil => rfl
  | cons c cs ih =>
    have hc : c ≠ '_' := (isNumeralChar_inert (h c (by simp))).2.2.2.2.1
    have hcs := ih (fun d hd => h d (by simp [hd])) c
    unfold joinDigits?
    split <;> simp_all

theorem splitSign_eq : splitSign cs = (false, cs) := by
  cases cs with
  | nil => rfl
  | cons c cs =>
    have hc := isNumeralChar_inert (h c (by simp))
    unfold splitSign
    split <;> simp_all

theorem word?_eq_none : word? cs = none := by
  have hlower : cs.map Char.toLower = cs :=
    (List.map_congr_left fun c hc => (isNumeralChar_inert (h c hc)).2.2.2.1).trans (List.map_id' cs)
  have hn : 'n' ∉ cs := fun hc => (isNumeralChar_inert (h _ hc)).2.2.2.2.2.2.2 rfl
  unfold word?
  rw [hlower, if_neg, if_neg]
  · rintro rfl; exact hn (by decide)
  · rintro (rfl | rfl) <;> exact hn (by decide)

theorem scientific?_eq : scientific? cs = plain? cs := by
  have hmark : ∀ c ∈ cs, (!isExponentMark c) = true := fun c hc => by
    rw [(isNumeralChar_inert (h c hc)).2.2.1]; rfl
  have htake : cs.takeWhile (!isExponentMark ·) = cs := List.takeWhile_eq_self_iff.2 hmark
  have hdrop : cs.dropWhile (!isExponentMark ·) = [] := List.dropWhile_eq_nil_iff.2 hmark
  unfold scientific?
  rw [htake, hdrop]
  cases plain? cs <;> rfl

end

/-- Both readers read one float from a literal. -/
theorem IsLiteral.typed?_eq {cs : List Char} (h : IsLiteral cs) {d : Decimal} (hd : plain? cs = some d) :
    typed? (String.ofList cs) = some (Binary64.ofOrdinal false d.ordinal) := by
  rw [typed?, String.toList_ofList, normalize_eq h.chars, joinDigits?_eq h.chars, Option.bind_some, real?,
    splitSign_eq h.chars]
  simp only [word?_eq_none h.chars, scientific?_eq h.chars, hd, Option.map_some]

end Numeral

end Reckon
