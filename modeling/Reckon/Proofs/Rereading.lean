import Reckon.Proofs.Decimal.Extent
import Reckon.Proofs.Joining
import Reckon.Proofs.TokenLine

/-!
# Reading a line of tokens again

Spaces keep the texts of a line apart, so that each of them is read as if it were alone, as one token at least. Hence
the line is read as the tokens it was written from exactly if each of them is spelled by its own text
(`Vocabulary.tokenize_textOf_iff_spells`). So is every token but a number (`Spells.spells_text`), and a number if it has
a text without letters: unless it is infinite, or no integer and so small that it is written with a power of ten
(`spells_numberText_iff`).
-/

namespace Reckon

open Lexeme

/-! ### Texts of one token -/

namespace Cut

variable {names : List String} {cs : List Char} {ps : List Piece} {t : Token}

theorem eq_nil_of_tokens (h : Cut names cs ps) (hspace : ' ' ∉ cs) (ht : ps.filterMap Piece.token? = []) : cs = [] := by
  cases h with
  | nil => rfl
  | space _ => exact absurd List.mem_cons_self hspace
  | spelling _ _ _ => cases ht

theorem spells_of_tokens (h : Cut names cs ps) (hspace : ' ' ∉ cs) (ht : ps.filterMap Piece.token? = [t]) :
    Spells names cs t := by
  cases h with
  | nil => cases ht
  | space _ => exact absurd List.mem_cons_self hspace
  | @spelling w cs u ps hs _ hps =>
    obtain ⟨rfl, hnil⟩ := List.cons.inj ht
    have hcs := hps.eq_nil_of_tokens (fun hmem => hspace (List.mem_append_right w hmem)) hnil
    rw [hcs, List.append_nil]
    exact hs

end Cut

namespace Vocabulary

variable {v : Vocabulary} {s : String} {t u : Token} {ts us : List Token}

theorem ne_nil_of_tokenize (h : v.tokenize s = .ok ts) (hne : s ≠ "") (hspace : ' ' ∉ s.toList) : ts ≠ [] := by
  obtain ⟨ps, hps, rfl⟩ := exists_cut_of_tokens h
  exact fun hnil => hne (String.toList_inj.1 (hps.eq_nil_of_tokens hspace hnil))

theorem tokenize_eq_singleton_iff (hspace : ' ' ∉ s.toList) :
    v.tokenize s = .ok [t] ↔ Spells v.names s.toList t := by
  constructor
  · intro h
    obtain ⟨ps, hps, ht⟩ := exists_cut_of_tokens h
    exact hps.spells_of_tokens hspace ht
  · intro h
    have hw := Written.token h (by simp) .nil
    rw [List.append_nil] at hw
    exact tokenize_of_written (fun _ => Iff.rfl) hw

/-! ### Lines -/

theorem tokenize_textOf_cons : v.tokenize (Token.textOf (t :: u :: ts)) = .ok us ↔ ∃ xs ys,
    v.tokenize t.text = .ok xs ∧ v.tokenize (Token.textOf (u :: ts)) = .ok ys ∧ us = xs ++ ys := by
  have hline : Token.textOf (t :: u :: ts) =
      t.text ++ String.ofList (List.replicate 1 ' ') ++ Token.textOf (u :: ts) := by
    rw [Token.textOf, List.map_cons, List.map_cons, String.intercalate_cons_cons]
    rfl
  rw [hline, tokenize_spaced fun h => absurd h one_ne_zero]
  cases v.tokenize t.text with
  | error e => simp [bind, Except.bind]
  | ok xs =>
    cases v.tokenize (Token.textOf (u :: ts)) <;>
      simp [Except.mapError, bind, Except.bind, pure, Except.pure, eq_comm]

/-- A line is read as no fewer tokens than there are texts in it. -/
theorem length_le_of_tokenize_textOf (hts : ∀ t ∈ ts, t.text ≠ "" ∧ ' ' ∉ t.text.toList)
    (h : v.tokenize (Token.textOf ts) = .ok us) : ts.length ≤ us.length := by
  induction ts generalizing us with
  | nil => exact Nat.zero_le _
  | cons t ts ih =>
    obtain ⟨⟨hne, hspace⟩, hts⟩ := List.forall_mem_cons.1 hts
    cases ts with
    | nil => exact List.length_pos_iff.2 (ne_nil_of_tokenize h hne hspace)
    | cons u ts =>
      obtain ⟨xs, ys, hx, hy, rfl⟩ := tokenize_textOf_cons.1 h
      have hpos := List.length_pos_iff.2 (ne_nil_of_tokenize hx hne hspace)
      have hle := ih hts hy
      rw [List.length_append]
      simp only [List.length_cons] at hle ⊢
      omega

theorem tokenize_textOf_iff_spells (hts : ∀ t ∈ ts, t.text ≠ "" ∧ ' ' ∉ t.text.toList) :
    v.tokenize (Token.textOf ts) = .ok ts ↔ ∀ t ∈ ts, Spells v.names t.text.toList t := by
  induction ts with
  | nil => simp [tokenize, Token.textOf, Lexeme.split, tokens]
  | cons t ts ih =>
    obtain ⟨⟨hne, hspace⟩, hts⟩ := List.forall_mem_cons.1 hts
    rw [List.forall_mem_cons, ← tokenize_eq_singleton_iff hspace]
    cases ts with
    | nil => simp [Token.textOf]
    | cons u ts =>
      rw [← ih hts, tokenize_textOf_cons]
      constructor
      · rintro ⟨xs, ys, hx, hy, he⟩
        -- as the line behind the first text is read as no fewer tokens, no more than one is left for that text
        obtain ⟨x, xs, rfl⟩ := List.exists_cons_of_ne_nil (ne_nil_of_tokenize hx hne hspace)
        rw [List.cons_append] at he
        obtain ⟨rfl, hrest⟩ := List.cons.inj he
        have hle := length_le_of_tokenize_textOf hts hy
        have hlen := congrArg List.length hrest
        rw [List.length_append] at hlen
        obtain rfl : xs = [] := List.length_eq_zero_iff.1 (by omega)
        rw [List.nil_append] at hrest
        exact ⟨hx, hrest ▸ hy⟩
      · rintro ⟨hx, hy⟩
        exact ⟨[t], u :: ts, hx, hy, rfl⟩

end Vocabulary

/-! ### Tokens but numbers -/

theorem Spells.spells_text {names : List String} {w : List Char} {t : Token} (h : Spells names w t)
    (ht : t.isNumber = false) : Spells names t.text.toList t := by
  cases h with
  | num _ _ => cases ht
  | @var w hw hn =>
    rw [Token.text, String.toList_ofList]
    exact .var hw hn
  | @fn w f _ _ =>
    refine .fn ⟨?_, ?_⟩ ?_
    · cases f <;> exact ⟨_, _, rfl, rfl⟩
    · cases f <;> exact List.all_eq_true.1 rfl
    · cases f <;> rfl
  | op o =>
    rw [Token.text, Char.toString, String.toList_singleton]
    exact .op o
  | bracket b =>
    rw [Token.text, Char.toString, String.toList_singleton]
    exact .bracket b

/-! ### Numbers -/

namespace Layout

variable {ds : List Char} {e : Int}

theorem isNumeralChar_of_isDigit {c : Char} (h : c.isDigit = true) : isNumeralChar c = true := by
  rw [isNumeralChar, h, Bool.true_or]

theorem isNumeralChar_positional (h : ∀ c ∈ ds, c.isDigit = true) : ∀ c ∈ positional ds e, isNumeralChar c = true := by
  have hds : ∀ c ∈ ds, isNumeralChar c = true := fun c hc => isNumeralChar_of_isDigit (h c hc)
  have hzeros : ∀ n, ∀ c ∈ List.replicate n '0', isNumeralChar c = true := fun n c hc =>
    isNumeralChar_of_isDigit (isDigit_of_mem_zeros c hc)
  rw [positional]
  split
  · exact List.forall_mem_cons.2 ⟨rfl, List.forall_mem_cons.2 ⟨rfl, List.forall_mem_append.2 ⟨hzeros _, hds⟩⟩⟩
  · refine List.forall_mem_append.2 ⟨List.forall_mem_append.2 ⟨?_, hzeros _⟩, List.forall_mem_cons.2 ⟨rfl, ?_⟩⟩
    · exact fun c hc => hds c (List.mem_of_mem_take hc)
    · split
      · exact hzeros 1
      · exact fun c hc => hds c (List.mem_of_mem_drop hc)

theorem exponentMark_mem_scientific (width : Nat) : 'e' ∈ scientific width ds e := by
  rw [scientific]
  exact List.mem_append_right _ List.mem_cons_self

/-- What is no integer is written with digits and a point alone if it is not less than `10^(-4)`. -/
theorem isNumeralChar_magnitude_iff {k : Nat} (h : k < Binary64.infinite) (hden : (Binary64.value k).den ≠ 1) :
    (∀ c ∈ plain.magnitude k, isNumeralChar c = true) ↔ 1 / 10000 ≤ Binary64.value k := by
  have hk : 0 < k := by
    rw [Nat.pos_iff_ne_zero]
    rintro rfl
    exact hden (by decide +kernel)
  have hsmall := Decimal.leading_shortest_lt_iff hk h
  have hlarge := Decimal.leading_shortest_lt_of_not_integral hk h hden
  rw [magnitude, if_neg h.ne]
  simp only [if_neg hk.ne']
  split
  · next hrange =>
    refine iff_of_true (isNumeralChar_positional ?_) (not_lt.1 fun hlt => ?_)
    · exact (leading_significantDigits (Decimal.coefficient_shortest_ne hk h)).isDigit
    · exact not_lt.2 hrange.1 (hsmall.2 hlt)
  · next hrange =>
    refine iff_of_false (fun hall => ?_) (not_le.2 (hsmall.1 ?_))
    · exact absurd (hall 'e' (exponentMark_mem_scientific _)) (by decide)
    · exact not_le.1 fun hle => hrange ⟨hle, hlarge⟩

end Layout

theorem Numeral.plain?_toDigits (n : Nat) : plain? (Nat.toDigits 10 n) = some ⟨n, 0⟩ := by
  have hdigit : ∀ c ∈ Nat.toDigits 10 n, c.isDigit = true := fun c hc =>
    Nat.isDigit_of_mem_toDigits (by decide) (by decide) hc
  have h := Layout.Parts.plain?_mantissa ⟨Nat.toDigits 10 n, [], none, Nat.toDigits_ne_nil, hdigit, by simp⟩
  rw [Layout.Parts.mantissa, List.isEmpty_nil, if_pos rfl, List.append_nil] at h
  refine h.trans ?_
  show some (Decimal.mk (Nat.ofDigitChars 10 (Nat.toDigits 10 n) 0) 0) = _
  rw [Nat.ofDigitChars_ten_toDigits]

namespace Token

open Binary64

variable {k : Nat}

theorem toInt?_ofOrdinal (h : k ≤ infinite) : toInt? (ofOrdinal false k) =
    if k < infinite ∧ (value k).den = 1 then some (value k).num else none := by
  have hfinite : (ofOrdinal false k).isFinite = decide (k < infinite) := by
    rw [Bool.eq_iff_iff, decide_eq_true_iff, isFinite_iff, ordinal_ofOrdinal false h]
  rw [toInt?, toRat_ofOrdinal h, hfinite]
  simp

theorem numberText_ofOrdinal (h : k ≤ infinite) : (numberText (ofOrdinal false k)).toList =
    if k < infinite ∧ (value k).den = 1 then Nat.toDigits 10 (value k).num.natAbs else Layout.plain.magnitude k := by
  rw [numberText, toInt?_ofOrdinal h]
  by_cases hint : k < infinite ∧ (value k).den = 1
  · rw [if_pos hint, if_pos hint]
    simp only [String.toList_ofList, decide_eq_false (not_lt.2 (Decimal.num_value_nonneg k))]
    rfl
  · rw [if_neg hint, if_neg hint]
    simp only [showFloat, String.toList_ofList]
    rw [Layout.write, isNaN_ofOrdinal false h, if_neg Bool.false_ne_true, isNegative_ofOrdinal false h,
      ordinal_ofOrdinal false h]
    rfl

end Token

namespace Spells

open Binary64

variable {names : List String} {w : List Char} {x : Float} {d : Decimal} {k : Nat}

theorem isNumeralChar_of_num (h : Spells names w (.num x)) : ∀ c ∈ w, isNumeralChar c = true := by
  cases h with
  | num hl _ => exact hl.chars

theorem of_plain? (h : Numeral.plain? w = some d) (hk : d.ordinal = k) : Spells names w (.num (ofOrdinal false k)) := by
  have hl := Numeral.isLiteral_of_plain? h
  rw [← hk]
  exact .num hl (hl.typed?_eq h)

theorem exists_ordinal (h : Spells names w (.num x)) : ∃ k ≤ infinite, x = ofOrdinal false k := by
  cases h with
  | num hl hx =>
    obtain ⟨d, hd⟩ := hl.exists_plain
    rw [hl.typed?_eq hd] at hx
    cases hx
    exact ⟨_, d.ordinal_le_infinite, rfl⟩

end Spells

/-- A number that was read is spelled by its text if that is an integer in full, or digits with a point. -/
theorem spells_numberText_iff {names : List String} {w : List Char} {x : Float} (h : Spells names w (.num x)) :
    Spells names (Token.numberText x).toList (.num x) ↔
      x.isInf = false ∧ ((Binary64.toRat x).den = 1 ∨ 1 / 10000 ≤ Binary64.toRat x) := by
  obtain ⟨k, hk, rfl⟩ := h.exists_ordinal
  rw [Token.numberText_ofOrdinal hk, Binary64.toRat_ofOrdinal hk, ← Bool.not_eq_true, Binary64.isInf_iff,
    Binary64.ordinal_ofOrdinal false hk]
  rcases hk.lt_or_eq with hlt | rfl
  · by_cases hden : (Binary64.value k).den = 1
    · rw [if_pos ⟨hlt, hden⟩]
      refine iff_of_true (.of_plain? (Numeral.plain?_toDigits _) ?_) ⟨hlt.ne, .inl hden⟩
      exact Decimal.ordinal_of_value hlt (Decimal.value_natAbs_num hden)
    · rw [if_neg fun hint => hden hint.2]
      have hchars := Layout.isNumeralChar_magnitude_iff hlt hden
      constructor
      · exact fun hs => ⟨hlt.ne, .inr (hchars.1 hs.isNumeralChar_of_num)⟩
      · rintro ⟨-, hvalue⟩
        have hall := hchars.2 (hvalue.resolve_left hden)
        obtain ⟨p, r, hp, hordinal⟩ := Layout.exists_parts Layout.plain hlt
        have hplain := p.scientific?_text
        rw [hp.text, Numeral.scientific?_eq hall] at hplain
        exact .of_plain? hplain hordinal
  · rw [if_neg fun hint => lt_irrefl _ hint.1]
    refine iff_of_false (fun hs => ?_) fun hr => hr.1 rfl
    exact absurd (hs.isNumeralChar_of_num 'i' (by decide)) (by decide)

namespace Vocabulary

/-- Tokens that were read from a text are read again from their own exactly if no number among them is infinite, or no
integer and less than `10^(-4)`. -/
theorem tokenize_textOf_iff {v : Vocabulary} {s : String} {ts : List Token} (h : v.tokenize s = .ok ts) :
    v.tokenize (Token.textOf ts) = .ok ts ↔
      ∀ x, .num x ∈ ts → x.isInf = false ∧ ((Binary64.toRat x).den = 1 ∨ 1 / 10000 ≤ Binary64.toRat x) := by
  obtain ⟨ps, hps, hts⟩ := exists_cut_of_tokens h
  have hread : ∀ t ∈ ts, ∃ w, Spells v.names w t := fun t ht => hps.spells_of_mem (hts ▸ ht)
  rw [tokenize_textOf_iff_spells]
  · constructor
    · intro hall x hx
      obtain ⟨w, hw⟩ := hread _ hx
      exact (spells_numberText_iff hw).1 (hall _ hx)
    · intro hall t ht
      obtain ⟨w, hw⟩ := hread t ht
      cases t with
      | num x => exact (spells_numberText_iff hw).2 (hall x ht)
      | var n => exact hw.spells_text rfl
      | op o => exact hw.spells_text rfl
      | fn f => exact hw.spells_text rfl
      | bracket b => exact hw.spells_text rfl
  · intro t ht
    obtain ⟨w, hw⟩ := hread t ht
    exact ⟨hw.text_ne_empty, hw.space_notMem_text⟩

/-- A half in a call, and a hundred-thousandth, which is written as `1e-05`. -/
theorem tokenize_textOf_iff_half_and_tiny :
    let v : Vocabulary := ⟨["e"], by decide, by decide⟩
    let ts : List Token := [.fn .cos, .bracket ⟨.square, .opening⟩, .num (Binary64.ofOrdinal false 0x3FE0000000000000),
      .bracket ⟨.square, .closing⟩]
    let us : List Token := [.num (Binary64.ofOrdinal false 0x3EE4F8B588E368F1)]
    (v.tokenize "COS[.50]" = .ok ts ∧ v.tokenize (Token.textOf ts) = .ok ts) ∧
      v.tokenize ".00001" = .ok us ∧ v.tokenize (Token.textOf us) ≠ .ok us := by
  intro v ts us
  have hts : v.tokenize "COS[.50]" = .ok ts := by
    have hcall : Spells ["e"] ['C', 'O', 'S'] (.fn .cos) := .fn ⟨⟨'C', _, rfl, rfl⟩, List.all_eq_true.1 rfl⟩ rfl
    have hordinal : Decimal.ordinal ⟨50, -2⟩ = 0x3FE0000000000000 := by decide +kernel
    have hhalf : Spells ["e"] ['.', '5', '0'] _ := .of_plain? rfl hordinal
    have hend : Written ["e"] [']'] _ := .token (.bracket ⟨.square, .closing⟩) (fun _ _ => rfl) .nil
    have hinner := Written.token hhalf (by rintro c ⟨⟩; rfl) hend
    have hgroup := Written.token (.bracket ⟨.square, .opening⟩) (fun _ _ => rfl) hinner
    exact tokenize_of_written (fun _ => Iff.rfl) (Written.token hcall (by rintro c ⟨⟩; rfl) hgroup)
  have hus : v.tokenize ".00001" = .ok us := by
    have hordinal : Decimal.ordinal ⟨1, -5⟩ = 0x3EE4F8B588E368F1 := by decide +kernel
    exact (tokenize_eq_singleton_iff (by decide)).2 (.of_plain? rfl hordinal)
  refine ⟨⟨hts, (tokenize_textOf_iff hts).2 fun x hx => ?_⟩, hus, fun hread => ?_⟩
  · obtain rfl : x = Binary64.ofOrdinal false 0x3FE0000000000000 := by simpa [ts] using hx
    exact ⟨by decide +kernel, .inr (by decide +kernel)⟩
  · have hr := ((tokenize_textOf_iff hus).1 hread _ List.mem_cons_self).2
    exact absurd hr (by decide +kernel)

end Vocabulary

end Reckon
