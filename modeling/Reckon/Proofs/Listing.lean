import Reckon.Proofs.Answers
import Reckon.Proofs.Balance
import Reckon.Proofs.TokenLine

/-!
# Listed and reordered tokens

One command lists the tokens of a text in a table, the other prints them in postfix order, read through the
cache and with the declared names sorted. They report the same error; what the first lists the second prints if
the brackets in the table balance, and then its words are the rows but the brackets, the operands in the order
of the table (`tokensCommand_rpnCommand`).
-/

namespace Reckon

/-- A permutation of an image is the image of a permutation. If some elements keep their order in the image, so
they do in the original. -/
theorem exists_perm_map_eq {α β : Type} {f : α → β} {p : β → Bool} {l : List α} {out : List β}
    (h : out.Perm (l.map f)) (hp : out.filter p = (l.map f).filter p) :
    ∃ k : List α, k.map f = out ∧ k.Perm l ∧ k.filter (p ∘ f) = l.filter (p ∘ f) := by
  induction out generalizing l with
  | nil =>
    have hl : l = [] := List.map_eq_nil_iff.1 (List.perm_nil.1 h.symm)
    subst hl
    exact ⟨[], rfl, .nil, rfl⟩
  | cons b out ih =>
    -- the first element comes from one in the list with none before it that has to keep its place
    have hfirst : ∃ l₁ a l₂, l = l₁ ++ a :: l₂ ∧ f a = b ∧ (p b = true → l₁.filter (p ∘ f) = []) := by
      by_cases hb : p b = true
      · rw [List.filter_cons_of_pos hb, List.filter_map] at hp
        obtain ⟨a, tail, hl, ha, -⟩ := List.map_eq_cons_iff.1 hp.symm
        obtain ⟨l₁, l₂, rfl, hno, -⟩ := List.filter_eq_cons_iff.1 hl
        exact ⟨l₁, a, l₂, rfl, ha, fun _ => List.filter_eq_nil_iff.2 hno⟩
      · obtain ⟨a, ha, rfl⟩ := List.mem_map.1 (h.subset List.mem_cons_self)
        obtain ⟨l₁, l₂, rfl⟩ := List.append_of_mem ha
        exact ⟨l₁, a, l₂, rfl, rfl, fun hb' => absurd hb' hb⟩
    obtain ⟨l₁, a, l₂, rfl, rfl, hno⟩ := hfirst
    have hmove : (l₁ ++ a :: l₂).filter (p ∘ f) = (a :: (l₁ ++ l₂)).filter (p ∘ f) := by
      by_cases ha : p (f a) = true
      · simp [hno ha, ha]
      · simp [ha]
    have hperm : out.Perm ((l₁ ++ l₂).map f) := (h.trans (List.perm_middle.map f)).cons_inv
    have hrest : out.filter p = ((l₁ ++ l₂).map f).filter p := by
      rw [List.filter_map, hmove, ← List.filter_map, List.map_cons] at hp
      by_cases ha : p (f a) = true
      · rw [List.filter_cons_of_pos ha, List.filter_cons_of_pos ha] at hp
        exact (List.cons.inj hp).2
      · rwa [List.filter_cons_of_neg ha, List.filter_cons_of_neg ha] at hp
    obtain ⟨k, hk, hkperm, hkfilter⟩ := ih hperm hrest
    refine ⟨a :: k, by rw [List.map_cons, hk], (hkperm.cons a).trans List.perm_middle.symm, ?_⟩
    rw [hmove, List.filter_cons, List.filter_cons, hkfilter]

namespace CommandLine

/-! ### Rows -/

namespace Row

def isBracket (r : Row) : Bool := r.kind = "grouping"

def opens (r : Row) : Bool := r.isBracket && ['(', '[', '{'].any (r.text = ·.toString)

def closes (r : Row) : Bool := r.isBracket && [')', ']', '}'].any (r.text = ·.toString)

def isOperand (r : Row) : Bool := r.kind = "number" || r.kind = "variable"

def ofToken (p : Token × Nat) : Row := ⟨p.2, p.1.kind, p.1.text⟩

variable (p : Token × Nat)

@[simp] theorem isBracket_ofToken : (ofToken p).isBracket = p.1.isBracket := by
  rcases p with ⟨t, i⟩
  cases t <;> rfl

@[simp] theorem isOperand_ofToken : (ofToken p).isOperand = p.1.isOperand := by
  rcases p with ⟨t, i⟩
  cases t <;> rfl

@[simp] theorem opens_ofToken : (ofToken p).opens = p.1.isOpening := by
  rcases p with ⟨t, i⟩
  cases t with
  | bracket b => rcases b with ⟨_ | _ | _, _ | _⟩ <;> rfl
  | _ => rfl

@[simp] theorem closes_ofToken : (ofToken p).closes = p.1.isClosing := by
  rcases p with ⟨t, i⟩
  cases t with
  | bracket b => rcases b with ⟨_ | _ | _, _ | _⟩ <;> rfl
  | _ => rfl

end Row

theorem rowsFrom_eq_map (i : Nat) (ts : List Token) : rowsFrom i ts = (ts.zipIdx i).map Row.ofToken := by
  induction ts generalizing i with
  | nil => rfl
  | cons t ts ih => rw [rowsFrom, ih]; rfl

theorem map_index_rowsFrom (ts : List Token) : (rowsFrom 0 ts).map Row.index = List.range (rowsFrom 0 ts).length := by
  have hindex : Row.index ∘ Row.ofToken = Prod.snd := rfl
  rw [rowsFrom_eq_map, List.map_map, hindex, List.zipIdx_map_snd, List.length_map, List.length_zipIdx,
    List.range_eq_range']

theorem balanced_rowsFrom (i : Nat) (ts : List Token) :
    Balanced Row.opens Row.closes (rowsFrom i ts) ↔ Balanced Token.isOpening Token.isClosing ts := by
  have hopens : Row.opens ∘ Row.ofToken = Token.isOpening ∘ Prod.fst := funext Row.opens_ofToken
  have hcloses : Row.closes ∘ Row.ofToken = Token.isClosing ∘ Prod.fst := funext Row.closes_ofToken
  rw [rowsFrom_eq_map, balanced_map, hopens, hcloses, ← balanced_map, List.zipIdx_map_fst]

/-- The tokens in postfix order are those of the rows in some order. -/
theorem exists_rows_of_toPostfix {ts out : List Token} (h : toPostfix ts = .ok out) :
    ∃ rows : List Row, rows.map Row.text = out.map Token.text ∧
      rows.Perm ((rowsFrom 0 ts).filter (!·.isBracket)) ∧
      rows.filter Row.isOperand = (rowsFrom 0 ts).filter Row.isOperand := by
  have hkept : (ts.zipIdx.filter (Token.bearsValue ∘ Prod.fst)).filter (Token.isOperand ∘ Prod.fst) =
      ts.zipIdx.filter (Token.isOperand ∘ Prod.fst) := by
    rw [List.filter_filter]
    refine List.filter_congr fun p _ => ?_
    rcases p with ⟨t, i⟩
    cases t <;> rfl
  have hperm : out.Perm ((ts.zipIdx.filter (Token.bearsValue ∘ Prod.fst)).map Prod.fst) := by
    rw [← List.filter_map, List.zipIdx_map_fst]
    exact perm_of_toPostfix h
  have hfilter : out.filter Token.isOperand =
      ((ts.zipIdx.filter (Token.bearsValue ∘ Prod.fst)).map Prod.fst).filter Token.isOperand := by
    rw [List.filter_map, hkept, ← List.filter_map, List.zipIdx_map_fst, filter_isOperand_of_toPostfix h]
  obtain ⟨k, rfl, hkperm, hkfilter⟩ := exists_perm_map_eq hperm hfilter
  have hbracket : (fun r : Row => !r.isBracket) ∘ Row.ofToken = Token.bearsValue ∘ Prod.fst :=
    funext fun p => by simp [Token.bearsValue]
  have hoperand : Row.isOperand ∘ Row.ofToken = Token.isOperand ∘ Prod.fst := funext Row.isOperand_ofToken
  refine ⟨k.map Row.ofToken, by rw [List.map_map, List.map_map]; rfl, ?_, ?_⟩
  · rw [rowsFrom_eq_map, List.filter_map, hbracket]
    exact hkperm.map _
  · rw [rowsFrom_eq_map, List.filter_map, List.filter_map, hoperand, hkfilter, hkept]

/-! ### The two commands -/

/-- Either there are tokens to be listed, or their error is one of compiling. -/
theorem exists_table_or_failed (source : String) (names : List String) :
    (∃ v ts, Vocabulary.ofNames names = .ok v ∧ v.tokenize source = .ok ts ∧ tokensCommand source names =
      .table (if Token.textOf ts = "" then "(empty)" else Token.textOf ts) (rowsFrom 0 ts)) ∨
    ∃ e, tokensCommand source names = .failed e ∧ Expression.compile source names = .error e := by
  rcases hv : Vocabulary.ofNames names with r | v
  · refine .inr ⟨.reserved r, ?_, ?_⟩
    · rw [tokensCommand, hv]
    · rw [Expression.compile, hv]
      rfl
  rcases ht : v.tokenize source with l | ts
  · refine .inr ⟨.lex l, ?_, ?_⟩
    · rw [tokensCommand, hv]
      dsimp only
      rw [ht]
    · simp only [Expression.compile, hv, Except.mapError, bind, Except.bind, ht]
  · refine .inl ⟨v, ts, rfl, ht, ?_⟩
    rw [tokensCommand, hv]
    dsimp only
    rw [ht]

/-- Listing the tokens of a text and printing them in postfix order go together. An error of the first is the
error of the second. What is listed can be printed exactly if the brackets in the rows balance, and else the
brackets are the error. The words printed are the texts of the rows but the brackets, in some order that leaves
numbers and variables as they are in the table. -/
theorem tokensCommand_rpnCommand (source : String) (names : List String) :
    ((tokensCommand source names).exitCode = 0 ∨ (tokensCommand source names).exitCode = 1) ∧
    ((tokensCommand source names).exitCode = 1 →
      ∃ e, tokensCommand source names = .failed e ∧ rpnCommand [] source names = .failed e) ∧
    ((tokensCommand source names).exitCode = 0 → ∃ title rows, tokensCommand source names = .table title rows ∧
      rows.map Row.index = List.range rows.length ∧
      ((rpnCommand [] source names).exitCode = 0 ↔ Balanced Row.opens Row.closes rows) ∧
      ((rpnCommand [] source names).exitCode ≠ 0 → ∃ e, rpnCommand [] source names = .failed (.group e)) ∧
      ((rpnCommand [] source names).exitCode = 0 → ∃ (line : String) (shown : List Row),
        rpnCommand [] source names = .printed line ∧
        Text.words line = shown.map Row.text ∧ shown.Perm (rows.filter (!·.isBracket)) ∧
        shown.filter Row.isOperand = rows.filter Row.isOperand)) := by
  rcases exists_table_or_failed source names with ⟨v, ts, hv, ht, htable⟩ | ⟨e, hlisted, hcompile⟩
  · refine ⟨.inl (by rw [htable]; rfl), fun h => ?_, fun _ => ⟨_, _, htable, map_index_rowsFrom ts, ?_⟩⟩
    · rw [htable] at h
      cases h
    rw [balanced_rowsFrom, ← exists_toPostfix_eq_ok_iff]
    rcases hp : toPostfix ts with g | out
    · have hrpn : rpnCommand [] source names = .failed (.group g) := by
        rw [rpnCommand_eq, Expression.compile_of_tokenize hv ht, hp]
        rfl
      rw [hrpn]
      refine ⟨⟨fun h => ?_, fun h => ?_⟩, fun _ => ⟨g, rfl⟩, fun h => ?_⟩
      · cases h
      · obtain ⟨out, hout⟩ := h
        cases hout
      · cases h
    · have hrpn : rpnCommand [] source names = .printed (Token.textOf out) := by
        rw [rpnCommand_eq, Expression.compile_of_tokenize hv ht, hp]
        rfl
      obtain ⟨shown, htext, hperm, hfilter⟩ := exists_rows_of_toPostfix hp
      have hwords : Text.words (Token.textOf out) = shown.map Row.text := by
        rw [htext]
        exact words_textOf ht fun t hmem => (List.mem_filter.1 ((perm_of_toPostfix hp).mem_iff.1 hmem)).1
      rw [hrpn]
      exact ⟨⟨fun _ => ⟨out, rfl⟩, fun _ => rfl⟩, fun h => absurd rfl h,
        fun _ => ⟨_, shown, rfl, hwords, hperm, hfilter⟩⟩
  · have hrpn : rpnCommand [] source names = .failed e := by
      rw [rpnCommand_eq, hcompile]
      rfl
    refine ⟨.inr (by rw [hlisted]; rfl), fun _ => ⟨e, hlisted, hrpn⟩, fun h => ?_⟩
    rw [hlisted] at h
    cases h

end CommandLine

end Reckon
