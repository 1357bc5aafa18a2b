import Reckon.Proofs.Literal
import Reckon.Proofs.Runs
import Reckon.Scan

/-!
# Written tokens

`Spells` says which texts stand for a token and `Written` which texts stand for a sequence of tokens: their
spellings in order, each as long as it can be, with any number of spaces around them. Such a text is read
as these tokens (`Vocabulary.tokenize_of_written`).
-/

namespace Reckon

open Lexeme

/-- A letter or underscore, and letters, digits and underscores behind it. -/
def IsWord (w : List Char) : Prop :=
  (∃ c cs, w = c :: cs ∧ isWordStart c = true) ∧ ∀ c ∈ w, isWordChar c = true

/-- The text stands for the token, if these names are declared. A function may be in any letter case. -/
inductive Spells (names : List String) : List Char → Token → Prop
  | num {w : List Char} {x : Float} : Numeral.IsLiteral w → Numeral.typed? (String.ofList w) = some x →
      Spells names w (.num x)
  | var {w : List Char} : IsWord w → String.ofList w ∈ names → Spells names w (.var (String.ofList w))
  | fn {w : List Char} {f : Func} : IsWord w → w.map Char.toLower = f.name.toList → Spells names w (.fn f)
  | op (o : Operator) : Spells names [o.symbol] (.op o)
  | bracket (b : Bracket) : Spells names [b.symbol] (.bracket b)

/-- The character would belong to a longer spelling. -/
def Token.extendedBy (c : Char) : Token → Bool
  | num _ => isNumeralChar c
  | var _ | fn _ => isWordChar c
  | op _ | bracket _ => false

inductive Written (names : List String) : List Char → List Token → Prop
  | nil : Written names [] []
  | space {cs : List Char} {ts : List Token} : Written names cs ts → Written names (' ' :: cs) ts
  | token {w cs : List Char} {t : Token} {ts : List Token} : Spells names w t →
      (∀ c ∈ cs.head?, t.extendedBy c = false) → Written names cs ts → Written names (w ++ cs) (t :: ts)

namespace Lexeme

/-! ### Splitting -/

theorem split_numeral {c : Char} {w cs : List Char} (hc : isNumeralChar c = true)
    (hw : ∀ d ∈ w, isNumeralChar d = true) (hcs : ∀ d ∈ cs.head?, isNumeralChar d = false) :
    split (c :: w ++ cs) = .numeral c w :: split cs := by
  rw [List.cons_append, split, if_pos hc, takeWhile_append_boundary hw hcs, dropWhile_append_boundary hw hcs]

theorem not_isWordStart_of_isNumeralChar {c : Char} (h : isNumeralChar c = true) : isWordStart c = false := by
  have hmem := Numeral.mem_of_isNumeralChar h
  fin_cases hmem <;> rfl

theorem split_word {c : Char} {w cs : List Char} (hc : isWordStart c = true)
    (hw : ∀ d ∈ w, isWordChar d = true) (hcs : ∀ d ∈ cs.head?, isWordChar d = false) :
    split (c :: w ++ cs) = .word c w :: split cs := by
  have hn : ¬isNumeralChar c = true := fun hn => by
    rw [not_isWordStart_of_isNumeralChar hn] at hc
    cases hc
  rw [List.cons_append, split, if_neg hn, if_pos hc,
    takeWhile_append_boundary hw hcs, dropWhile_append_boundary hw hcs]

theorem split_single {c : Char} {cs : List Char} (hn : isNumeralChar c = false) (hw : isWordStart c = false) :
    split (c :: cs) = single c :: split cs := by
  rw [split, if_neg (by simp [hn]), if_neg (by simp [hw])]

theorem split_op (o : Operator) (cs : List Char) : split (o.symbol :: cs) = .op o :: split cs := by
  rw [split_single (by cases o <;> decide) (by cases o <;> decide)]
  cases o <;> rfl

theorem split_bracket (b : Bracket) (cs : List Char) : split (b.symbol :: cs) = .bracket b :: split cs := by
  obtain ⟨shape, side⟩ := b
  rw [split_single (by cases shape <;> cases side <;> decide) (by cases shape <;> cases side <;> decide)]
  cases shape <;> cases side <;> rfl

theorem split_space (cs : List Char) : split (' ' :: cs) = .blank :: split cs := split_single (by decide) (by decide)

end Lexeme

theorem toNat_lt_of_isWordChar {c : Char} (h : isWordChar c = true) : c.toNat < 0x80 := by
  delta isWordChar Char.isAlphanum Char.isAlpha Char.isUpper Char.isLower Char.isDigit at h
  simp only [Bool.or_eq_true, Bool.and_eq_true, decide_eq_true_eq, beq_iff_eq] at h
  rcases h with ((⟨-, h⟩ | ⟨-, h⟩) | ⟨-, h⟩) | rfl
  · exact Nat.lt_of_le_of_lt h (by decide)
  · exact Nat.lt_of_le_of_lt h (by decide)
  · exact Nat.lt_of_le_of_lt h (by decide)
  · decide

namespace Func

theorem ofWord?_eq_ofName? {w : List Char} (hw : IsWord w) :
    ofWord? (String.ofList w) = ofName? (String.ofList (w.map Char.toLower)) := by
  have hascii : ∀ c ∈ (String.ofList w).toList, c.toNat < 0x80 := by
    rw [String.toList_ofList]
    exact fun c hc => toNat_lt_of_isWordChar (hw.2 c hc)
  rw [ofWord?, Text.lower_ascii hascii, String.toList_ofList]

/-- A function's name in any letter case names the function. -/
theorem ofWord?_of_lower {w : List Char} {f : Func} (hw : IsWord w) (hf : w.map Char.toLower = f.name.toList) :
    ofWord? (String.ofList w) = some f := by
  rw [ofWord?_eq_ofName? hw, hf, String.ofList_toList, ofName?_name]

theorem lower_of_ofWord? {w : List Char} {f : Func} (hw : IsWord w) (hf : ofWord? (String.ofList w) = some f) :
    w.map Char.toLower = f.name.toList := by
  rw [ofWord?_eq_ofName? hw] at hf
  rw [name_of_ofName? hf, String.toList_ofList]

end Func

namespace Vocabulary

variable {v : Vocabulary} {names : List String}

/-- A spelling that does not go on is split off and read as its token, wherever it stands. -/
theorem tokens_of_spells (hv : ∀ n, n ∈ v.names ↔ n ∈ names) {w cs : List Char} {t : Token}
    (h : Spells names w t) (hcs : ∀ c ∈ cs.head?, t.extendedBy c = false) :
    ∃ l, split (w ++ cs) = l :: split cs ∧ ∀ i, v.token i l = .ok (some t) := by
  cases h with
  | @num w x hl hx =>
    obtain ⟨d, hd⟩ := hl.exists_plain
    rw [hl.typed?_eq hd] at hx
    cases w with
    | nil => obtain ⟨c, hc, -⟩ := hl.digit; cases hc
    | cons c w =>
      have hchars := List.forall_mem_cons.1 hl.chars
      refine ⟨.numeral c w, split_numeral hchars.1 hchars.2 hcs, fun i => ?_⟩
      cases hx
      simp only [token, hd]
  | @var w hw hn =>
    obtain ⟨⟨c, w, rfl, hc⟩, hchars⟩ := hw
    refine ⟨.word c w, split_word hc (List.forall_mem_cons.1 hchars).2 hcs, fun i => ?_⟩
    simp only [token, word?, if_pos ((hv _).2 hn)]
  | @fn w f hw hf =>
    have hf' := Func.ofWord?_of_lower hw hf
    obtain ⟨⟨c, w, rfl, hc⟩, hchars⟩ := hw
    have hn : String.ofList (c :: w) ∉ v.names := fun hn => by
      rw [v.unreserved _ hn] at hf'
      cases hf'
    refine ⟨.word c w, split_word hc (List.forall_mem_cons.1 hchars).2 hcs, fun i => ?_⟩
    simp only [token, word?, if_neg hn, hf', Option.map_some]
  | op o => exact ⟨.op o, split_op o cs, fun _ => rfl⟩
  | bracket b => exact ⟨.bracket b, split_bracket b cs, fun _ => rfl⟩

theorem tokens_of_written (hv : ∀ n, n ∈ v.names ↔ n ∈ names) {cs : List Char} {ts : List Token}
    (h : Written names cs ts) (offset : Nat) : v.tokens offset (split cs) = .ok ts := by
  induction h generalizing offset with
  | nil => rw [split]; rfl
  | space h ih =>
    rw [split_space, tokens, ih]
    rfl
  | token hs hcs h ih =>
    obtain ⟨l, hl, ht⟩ := tokens_of_spells hv hs hcs
    rw [hl, tokens, ht, ih]
    rfl

theorem tokenize_of_written (hv : ∀ n, n ∈ v.names ↔ n ∈ names) {s : String} {ts : List Token}
    (h : Written names s.toList ts) : v.tokenize s = .ok ts :=
  tokens_of_written hv h 0

end Vocabulary

end Reckon
