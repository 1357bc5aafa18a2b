import Mathlib.Data.List.Induction
import Reckon.Proofs.Cut
import Reckon.Proofs.EngineRun
import Reckon.Proofs.Pending

/-!
# Where variables appear

Converting puts out the tokens but the brackets, each as often as it was read, and leaves the operands in their
order. So the variables of an expression are listed in the order in which its text first has them. The pieces of
the text say where that is (`Piece.firstOffset`), and `conversion_keeps_tokens` says both.
-/

namespace Reckon

theorem eraseDups_concat (l : List String) (a : String) :
    (l ++ [a]).eraseDups = if a ∈ l then l.eraseDups else l.eraseDups ++ [a] := by
  rw [List.eraseDups_append]
  split
  · next ha =>
    have hold : [a].removeAll l = [] := by simp [List.removeAll, ha]
    rw [hold]
    exact List.append_nil _
  · next ha =>
    have hnew : [a].removeAll l = [a] := by simp [List.removeAll, ha]
    rw [hnew]
    rfl

namespace Piece

/-- The variable that a piece spells. -/
def name? : Piece → Option String
  | spelling _ (.var n) => some n
  | _ => none

/-- The variables that the pieces spell, as often as they do. -/
def names (ps : List Piece) : List String := ps.filterMap name?

/-- The length of the text that the pieces make up. -/
def length (ps : List Piece) : Nat := (ps.flatMap text).length

/-- How far into their text the pieces first spell this variable. -/
def firstOffset (n : String) : List Piece → Nat
  | [] => 0
  | p :: ps => if p.name? = some n then 0 else p.text.length + firstOffset n ps

variable {n : String} {p : Piece} {ps : List Piece}

theorem names_append (ps qs : List Piece) : names (ps ++ qs) = names ps ++ names qs := List.filterMap_append

theorem length_cons (p : Piece) (ps : List Piece) : length (p :: ps) = p.text.length + length ps := by
  simp [length]

theorem mem_names_cons : n ∈ names (p :: ps) ↔ p.name? = some n ∨ n ∈ names ps := by
  simp [names]

/-- What comes behind does not change where a variable is first. -/
theorem firstOffset_append_of_mem (h : n ∈ names ps) (qs : List Piece) :
    firstOffset n (ps ++ qs) = firstOffset n ps := by
  induction ps with
  | nil => cases h
  | cons p ps ih =>
    rw [List.cons_append, firstOffset, firstOffset]
    split
    · rfl
    · next hp => rw [ih ((mem_names_cons.1 h).resolve_left hp)]

theorem firstOffset_append_of_notMem (h : n ∉ names ps) (qs : List Piece) :
    firstOffset n (ps ++ qs) = length ps + firstOffset n qs := by
  induction ps with
  | nil => simp [length]
  | cons p ps ih =>
    rw [mem_names_cons, not_or] at h
    rw [List.cons_append, firstOffset, if_neg h.1, ih h.2, length_cons, Nat.add_assoc]

theorem firstOffset_lt_length (hps : ∀ p ∈ ps, p.text ≠ []) (h : n ∈ names ps) : firstOffset n ps < length ps := by
  induction ps with
  | nil => cases h
  | cons p ps ih =>
    obtain ⟨hp, hps⟩ := List.forall_mem_cons.1 hps
    have hpos : 0 < p.text.length := List.length_pos_iff.2 hp
    rw [firstOffset, length_cons]
    split
    · omega
    · next hne =>
      have := ih hps ((mem_names_cons.1 h).resolve_left hne)
      omega

/-- Each variable once, in the order of where it is first. -/
theorem pairwise_firstOffset (hps : ∀ p ∈ ps, p.text ≠ []) :
    (names ps).eraseDups.Pairwise fun m n => firstOffset m ps < firstOffset n ps := by
  induction ps using List.reverseRecOn with
  | nil => exact .nil
  | append_singleton ps p ih =>
    have hps' : ∀ p ∈ ps, p.text ≠ [] := fun q hq => hps q (List.mem_append_left _ hq)
    have hkeep : (names ps).eraseDups.Pairwise fun m n => firstOffset m (ps ++ [p]) < firstOffset n (ps ++ [p]) := by
      refine (ih hps').imp_of_mem fun {m n} hm hn hlt => ?_
      rw [firstOffset_append_of_mem (List.mem_eraseDups.1 hm), firstOffset_append_of_mem (List.mem_eraseDups.1 hn)]
      exact hlt
    rw [names_append]
    rcases hp : p.name? with _ | n
    · have hnone : names [p] = [] := by simp [names, hp]
      rw [hnone, List.append_nil]
      exact hkeep
    · have hone : names [p] = [n] := by simp [names, hp]
      rw [hone, eraseDups_concat]
      split
      · exact hkeep
      -- a variable spelled for the first time is behind all the others
      · next hn =>
        refine List.pairwise_append.2 ⟨hkeep, List.pairwise_singleton _ n, fun m hm k hk => ?_⟩
        have hmem := List.mem_eraseDups.1 hm
        rw [List.mem_singleton.1 hk, firstOffset_append_of_mem hmem, firstOffset_append_of_notMem hn]
        exact Nat.lt_of_lt_of_le (firstOffset_lt_length hps' hmem) (Nat.le_add_right _ _)

end Piece

theorem Spells.ne_nil {names : List String} {w : List Char} {t : Token} (h : Spells names w t) : w ≠ [] := by
  cases h with
  | num hl _ =>
    obtain ⟨c, hc, -⟩ := hl.digit
    exact List.ne_nil_of_mem hc
  | var hw _ =>
    obtain ⟨⟨c, cs, rfl, -⟩, -⟩ := hw
    exact List.cons_ne_nil c cs
  | fn hw _ =>
    obtain ⟨⟨c, cs, rfl, -⟩, -⟩ := hw
    exact List.cons_ne_nil c cs
  | op o => exact List.cons_ne_nil _ _
  | bracket b => exact List.cons_ne_nil _ _

theorem Cut.text_ne_nil {names : List String} {cs : List Char} {ps : List Piece} (h : Cut names cs ps) :
    ∀ p ∈ ps, p.text ≠ [] := by
  induction h with
  | nil => exact fun p hp => absurd hp List.not_mem_nil
  | space _ ih => exact List.forall_mem_cons.2 ⟨List.cons_ne_nil _ _, ih⟩
  | spelling hs _ _ ih => exact List.forall_mem_cons.2 ⟨hs.ne_nil, ih⟩

namespace Expression

/-- Only operands matter for the variables. -/
theorem variablesOf_filter (ts : List Token) : variablesOf (ts.filter Token.isOperand) = variablesOf ts := by
  unfold variablesOf
  congr 1
  rw [List.filterMap_filter]
  congr 1
  funext t
  cases t <;> rfl

/-- The variables of tokens that were spelled. -/
theorem variablesOf_pieces (ps : List Piece) :
    variablesOf (ps.filterMap Piece.token?) = (Piece.names ps).eraseDups := by
  unfold variablesOf Piece.names
  congr 1
  rw [List.filterMap_filterMap]
  congr 1
  funext p
  rcases p with _ | ⟨w, _ | _ | _ | _ | _⟩ <;> rfl

end Expression

/-- What is converted comes out without the brackets and in another order: no token is lost, repeated or new, and
the numbers and variables keep their places among each other. So a compiled expression, with any defaults, lists
the variables that its text spells, each once, in the order of where the text first has them. -/
theorem conversion_keeps_tokens :
    (∀ ts out, toPostfix ts = .ok out → (∀ t ∈ out, t.isBracket = false) ∧
      out.Perm (ts.filter Token.bearsValue) ∧ out.filter Token.isOperand = ts.filter Token.isOperand) ∧
    ∀ (e : Expression) (names : List String), Expression.compile e.source names = .ok { e with defaults := [] } →
      ∃ ps, Cut e.declared e.source.toList ps ∧ e.referenced.Nodup ∧ (∀ n, n ∈ e.referenced ↔ n ∈ Piece.names ps) ∧
        e.referenced.Pairwise fun m n => Piece.firstOffset m ps < Piece.firstOffset n ps := by
  refine ⟨fun ts out h => ⟨fun t ht => ?_, perm_of_toPostfix h, filter_isOperand_of_toPostfix h⟩, fun e names h => ?_⟩
  · have hmem := (perm_of_toPostfix h).mem_iff.1 ht
    simpa [Token.bearsValue] using (List.mem_filter.1 hmem).2
  · obtain ⟨v, ts, out, -, ht, hp, he⟩ := Expression.compile_eq_ok_iff.1 h
    obtain ⟨hdeclared, htokens⟩ : e.declared = v.names ∧ e.tokens = out := by
      cases e
      cases he
      exact ⟨rfl, rfl⟩
    obtain ⟨ps, hps, rfl⟩ := Vocabulary.exists_cut_of_tokens ht
    have hreferenced : e.referenced = (Piece.names ps).eraseDups := by
      rw [Expression.referenced, htokens, ← Expression.variablesOf_filter, filter_isOperand_of_toPostfix hp,
        Expression.variablesOf_filter, Expression.variablesOf_pieces]
    have hsorted := Piece.pairwise_firstOffset hps.text_ne_nil
    rw [hdeclared, hreferenced]
    refine ⟨ps, hps, hsorted.imp fun {m n} hlt heq => ?_, fun n => List.mem_eraseDups, hsorted⟩
    rw [heq] at hlt
    exact Nat.lt_irrefl _ hlt

/-- Tokens that are no expression, and a text with a variable used twice, declared behind the other one. -/
theorem conversion_keeps_tokens_twice :
    let ts : List Token := [.op .pow, .var "b", .fn .sin, .bracket ⟨.round, .opening⟩, .var "a", .op .sub,
      .bracket ⟨.square, .closing⟩, .var "b"]
    let out : List Token := [.var "b", .var "a", .op .sub, .fn .sin, .var "b", .op .pow]
    let e : Expression := ⟨"b*a-b", ["a", "b"], [.var "b", .var "a", .op .mul, .var "b", .op .sub], [("a", 1)]⟩
    toPostfix ts = .ok out ∧ out.Perm (ts.filter Token.bearsValue) ∧
      Expression.compile "b*a-b" ["b", "a"] = .ok { e with defaults := [] } ∧ e.referenced = ["b", "a"] ∧
      ∃ ps, Cut ["a", "b"] "b*a-b".toList ps ∧ Piece.firstOffset "b" ps < Piece.firstOffset "a" ps := by
  intro ts out e
  have hout : toPostfix ts = .ok out := rfl
  have ha : Spells ["a", "b"] ['a'] (.var "a") := .var ⟨⟨'a', [], rfl, rfl⟩, List.all_eq_true.1 rfl⟩ (by simp)
  have hb : Spells ["a", "b"] ['b'] (.var "b") := .var ⟨⟨'b', [], rfl, rfl⟩, List.all_eq_true.1 rfl⟩ (by simp)
  have hw : Written ["a", "b"] "b*a-b".toList [.var "b", .op .mul, .var "a", .op .sub, .var "b"] := by
    have last : Written ["a", "b"] ['b'] [.var "b"] := .token hb (by simp) .nil
    have minus : Written ["a", "b"] ['-', 'b'] [.op .sub, .var "b"] := .token (.op .sub) (fun _ _ => rfl) last
    have second := Written.token ha (by rintro c ⟨⟩; rfl) minus
    exact .token hb (by rintro c ⟨⟩; rfl) (.token (.op .mul) (fun _ _ => rfl) second)
  have he : Expression.compile "b*a-b" ["b", "a"] = .ok { e with defaults := [] } := by
    have hv : Vocabulary.ofNames ["b", "a"] = .ok ⟨["a", "b"], by decide, by decide⟩ := rfl
    exact Expression.compile_eq_ok_iff.2 ⟨_, _, _, hv, Vocabulary.tokenize_of_written (fun _ => Iff.rfl) hw, rfl, rfl⟩
  obtain ⟨-, hperm, -⟩ := conversion_keeps_tokens.1 ts out hout
  obtain ⟨ps, hps, -, -, hsorted⟩ := conversion_keeps_tokens.2 e ["b", "a"] he
  have hreferenced : e.referenced = ["b", "a"] := rfl
  rw [hreferenced] at hsorted
  exact ⟨hout, hperm, he, hreferenced, ps, hps, by simpa using hsorted⟩

end Reckon
