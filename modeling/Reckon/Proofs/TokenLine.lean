import Reckon.Proofs.Cut
import Reckon.Proofs.Json.Words

/-!
# Lines of tokens

The text of a token that was read from somewhere is not empty and has no space in it (`Spells.text_ne_empty`,
`Spells.space_notMem_text`). So a line of such tokens falls into their texts again (`words_textOf`).
-/

namespace Reckon

/-- What stands between the spaces of a line. -/
def Text.words (line : String) : List String :=
  ((line.toList.splitOn ' ').filter (· ≠ [])).map String.ofList

theorem Text.words_intercalate {ws : List String} (h : ∀ w ∈ ws, w ≠ "" ∧ ' ' ∉ w.toList) :
    words (" ".intercalate ws) = ws := by
  rcases ws with _ | ⟨w, ws⟩
  · rfl
  have hsplit : (" ".intercalate (w :: ws)).toList.splitOn ' ' = (w :: ws).map String.toList := by
    rw [String.toList_intercalate]
    exact List.splitOn_intercalate ' ' (List.forall_mem_map.2 fun v hv => (h v hv).2) (by simp)
  have hfull : ∀ cs ∈ (w :: ws).map String.toList, decide (cs ≠ []) = true := by
    refine List.forall_mem_map.2 fun v hv => decide_eq_true fun he => (h v hv).1 ?_
    exact String.toList_inj.1 he
  rw [words, hsplit, List.filter_eq_self.2 hfull, List.map_map]
  exact List.map_id'' (fun v => String.ofList_toList) _

/-! ### Numbers -/

theorem Layout.plain_write_ne_nil (x : Float) : plain.write x ≠ [] := by
  rw [write]
  split
  · decide
  rename_i h
  rcases (Binary64.ordinal_le_infinite (Bool.eq_false_of_not_eq_true h)).lt_or_eq with hlt | heq
  · obtain ⟨w, r, hw, -⟩ := exists_parts plain hlt
    rw [← hw.text, Parts.text, Parts.mantissa]
    simp [w.whole_ne]
  · rw [heq, magnitude, if_pos rfl]
    simp [plain]

namespace Token

theorem numberText_ne_empty (x : Float) : numberText x ≠ "" := by
  rw [numberText, ← String.toList_inj.ne]
  split
  · simp [Nat.toDigits_ne_nil]
  · simpa [showFloat] using Layout.plain_write_ne_nil x

theorem isWordChar_numberText (x : Float) : ∀ c ∈ (numberText x).toList, Json.Lexeme.isWordChar c = true := by
  rw [numberText]
  split
  · next n _ =>
    rw [String.toList_ofList]
    exact Json.Lexeme.isWordChar_writeInt n
  · rw [showFloat, String.toList_ofList]
    exact Json.Lexeme.isWordChar_write (by decide) (by decide) x

end Token

/-! ### Tokens that were read -/

namespace Spells

variable {names : List String} {w : List Char} {t : Token}

theorem text_ne_empty (h : Spells names w t) : t.text ≠ "" := by
  cases h with
  | @num w x _ _ => exact Token.numberText_ne_empty x
  | var hw _ =>
    obtain ⟨⟨c, cs, rfl, -⟩, -⟩ := hw
    exact fun he => List.cons_ne_nil c cs (String.ofList_inj.1 he)
  | @fn w f _ _ => cases f <;> decide
  | op o => cases o <;> decide
  | bracket b => rcases b with ⟨_ | _ | _, _ | _⟩ <;> decide

theorem space_notMem_text (h : Spells names w t) : ' ' ∉ t.text.toList := by
  cases h with
  | @num w x _ _ => exact fun hmem => absurd (Token.isWordChar_numberText x _ hmem) (by decide)
  | var hw _ =>
    intro hmem
    rw [Token.text, String.toList_ofList] at hmem
    exact absurd (hw.2 _ hmem) (by decide)
  | @fn w f _ _ => cases f <;> decide
  | op o => cases o <;> decide
  | bracket b => rcases b with ⟨_ | _ | _, _ | _⟩ <;> decide

end Spells

theorem Cut.spells_of_mem {names : List String} {cs : List Char} {ps : List Piece} (h : Cut names cs ps) {t : Token}
    (ht : t ∈ ps.filterMap Piece.token?) : ∃ w, Spells names w t := by
  induction h with
  | nil => cases ht
  | space _ ih => exact ih ht
  | spelling hs _ _ ih =>
    rcases List.mem_cons.1 ht with rfl | ht
    · exact ⟨_, hs⟩
    · exact ih ht

/-- The words of a line of tokens, all of them read from one text, are their texts. -/
theorem words_textOf {v : Vocabulary} {s : String} {ts us : List Token} (h : v.tokenize s = .ok ts)
    (hu : ∀ u ∈ us, u ∈ ts) : Text.words (Token.textOf us) = us.map Token.text := by
  obtain ⟨ps, hps, rfl⟩ := Vocabulary.exists_cut_of_tokens h
  refine Text.words_intercalate (List.forall_mem_map.2 fun u hmem => ?_)
  obtain ⟨w, hw⟩ := hps.spells_of_mem (hu u hmem)
  exact ⟨hw.text_ne_empty, hw.space_notMem_text⟩

end Reckon
