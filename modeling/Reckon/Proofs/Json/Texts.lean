import Mathlib.Tactic.IntervalCases
import Reckon.Json.Lexeme
import Reckon.Json.Writer

/-!
# Texts of JSON

Whatever its characters, a text between quotes is read back from its escapes (`text?_writeText`).
-/

namespace Reckon.Json.Lexeme

section

variable {c : Char} {rest : List Char}

theorem text?_quote (rest : List Char) : text? ('"' :: rest) = some ([], rest) := by
  rw [text?.eq_def]
  exact if_pos rfl

/-- A character as it is. -/
theorem text?_plain (hquote : c ≠ '"') (hcontrol : ¬c.toNat < 0x20) (hslash : c ≠ '\\') :
    text? (c :: rest) = (text? rest).map fun (ds, r) => (c :: ds, r) := by
  rw [text?.eq_def (c :: rest)]
  simp only [if_neg hquote, if_neg hcontrol, if_neg hslash]

/-- An escape by a letter. -/
theorem text?_letter {e : Char} (he : e ≠ 'u') (hc : letterEscape? e = some c) :
    text? ('\\' :: e :: rest) = (text? rest).map fun (ds, r) => (c :: ds, r) := by
  rw [text?, if_neg (by decide), if_neg (by decide), if_pos rfl]
  simp only [if_neg he, hc]

/-- An escape by a code unit. -/
theorem text?_unit {n : Nat} {cs : List Char} (h : unit? (cs ++ rest) = some (n, rest))
    (hn : n < 0xd800) : text? ('\\' :: 'u' :: cs ++ rest) = (text? rest).map fun (ds, r) => (Char.ofNat n :: ds, r) := by
  have hescape : unicodeEscape? (cs ++ rest) = some (Char.ofNat n, rest) := by
    rw [unicodeEscape?, h]
    exact if_pos (.inl hn)
  rw [List.cons_append, List.cons_append, text?, if_neg (by decide), if_neg (by decide), if_pos rfl]
  simp only [if_true]
  split
  · rename_i he
    rw [hescape] at he
    cases he
  · rename_i he
    rw [hescape] at he
    obtain ⟨rfl, rfl⟩ := Prod.mk.inj (Option.some.inj he)
    rfl

/-- The four digits of a control character. -/
theorem unit?_hex {n : Nat} (hn : n < 0x20) : unit? (Text.hex 4 n ++ rest) = some (n, rest) := by
  interval_cases n <;> rfl

theorem text?_escapeChar (c : Char) (rest : List Char) :
    text? (escapeChar c ++ rest) = (text? rest).map fun (ds, r) => (c :: ds, r) := by
  by_cases h : c ∈ ['"', '\\', '\n', '\r', '\t', '\x08', '\x0c']
  · simp only [List.mem_cons, List.not_mem_nil, or_false] at h
    rcases h with rfl | rfl | rfl | rfl | rfl | rfl | rfl <;> exact text?_letter (by decide) rfl
  · simp only [List.mem_cons, List.not_mem_nil, or_false, not_or] at h
    obtain ⟨hquote, hslash, hn, hr, ht, hb, hf⟩ := h
    rw [escapeChar, if_neg hquote, if_neg hslash, if_neg hn, if_neg hr, if_neg ht, if_neg hb, if_neg hf]
    split
    · rename_i hcontrol
      refine (text?_unit (unit?_hex hcontrol) (by omega)).trans ?_
      rw [Char.ofNat_toNat]
    · rename_i hcontrol
      exact text?_plain hquote hcontrol hslash

end

theorem text?_writeText (s : String) (rest : List Char) :
    text? (s.toList.flatMap escapeChar ++ '"' :: rest) = some (s.toList, rest) := by
  generalize s.toList = cs
  induction cs with
  | nil => exact text?_quote rest
  | cons c cs ih =>
    rw [List.flatMap_cons, List.append_assoc, text?_escapeChar, ih]
    rfl

end Reckon.Json.Lexeme
