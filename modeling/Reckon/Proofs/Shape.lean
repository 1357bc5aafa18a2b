import Mathlib.Data.List.Perm.Subperm
import Reckon.Proofs.Balance
import Reckon.Proofs.Conversion

/-!
# The shape of tokens

Converting looks at nothing of a token but its shape: whether it is an operand, a function, an opening or closing
bracket, or an operator, and of an operator its precedence and associativity. How many entries a step takes off the
stack is a function of shapes (`Postfix.step_eq`). So sequences of one shape are read in lockstep, with entries from
the same positions on their stacks (`Postfix.exists_placed`), and either are put out in the same order of positions or
fail alike (`toPostfix_order_of_shape`).
-/

namespace Reckon

inductive Shape
  | operand
  | function
  | opening
  | closing
  | operator (precedence : Nat) (associativity : Associativity)
  deriving DecidableEq, Repr

def Token.shape : Token → Shape
  | num _ | var _ => .operand
  | fn _ => .function
  | op o => .operator o.precedence o.associativity
  | bracket ⟨_, .opening⟩ => .opening
  | bracket ⟨_, .closing⟩ => .closing

def Pending.shape : Pending → Shape
  | op o => .operator o.precedence o.associativity
  | fn _ => .function
  | opening => .opening

/-- What a token leaves on the stack. -/
def Token.pending? : Token → Option Pending
  | op o => some (.op o)
  | fn f => some (.fn f)
  | bracket ⟨_, .opening⟩ => some .opening
  | _ => none

namespace Shape

/-- Whether an operator of this precedence and associativity takes an entry of the given shape off the stack. -/
def bindsBefore (precedence : Nat) : Associativity → Shape → Bool
  | .left, .operator top _ => precedence ≤ top
  | .right, .operator top _ => precedence < top
  | _, _ => false

/-- How many entries a closing bracket takes off a stack of these shapes; none if no group is open. -/
def closed? : List Shape → Option Nat
  | [] => none
  | .opening :: .function :: _ => some 2
  | .opening :: _ => some 1
  | _ :: stack => (closed? stack).map (· + 1)

/-- How many entries a token of the given shape takes off a stack of these shapes. -/
def taken? (stack : List Shape) : Shape → Option Nat
  | .operator p a => some (stack.takeWhile (bindsBefore p a)).length
  | .closing => closed? stack
  | _ => some 0

end Shape

theorem Token.shape_of_pending? {t : Token} {p : Pending} (h : t.pending? = some p) : p.shape = t.shape := by
  rcases t with _ | _ | _ | _ | ⟨_, _ | _⟩ <;> cases h <;> rfl

theorem Token.token?_of_pending? {t : Token} {p : Pending} (h : t.pending? = some p) :
    p.token? = if t.shape = .opening then none else some t := by
  rcases t with _ | _ | _ | _ | ⟨_, _ | _⟩ <;> cases h <;> rfl

theorem Pending.bindsBefore_shape (p o : Operator) :
    (Pending.op p).shape.bindsBefore o.precedence o.associativity = p.bindsBefore o := by
  unfold Operator.bindsBefore
  cases o.associativity <;> rfl

namespace Postfix

/-! ### Steps -/

theorem popBefore_eq (o : Operator) (stack : List Pending) {n : Nat}
    (hn : ((stack.map Pending.shape).takeWhile (Shape.bindsBefore o.precedence o.associativity)).length = n) :
    popBefore o stack = (waiting (stack.take n), stack.drop n) := by
  fun_induction popBefore o stack generalizing n with
  | case1 p stack hp out rest he ih =>
    rw [List.map_cons, List.takeWhile_cons_of_pos ((Pending.bindsBefore_shape p o).trans hp)] at hn
    subst hn
    have hrest := ih rfl
    rw [he] at hrest
    cases hrest
    rfl
  | case2 p stack hp =>
    rw [← Pending.bindsBefore_shape] at hp
    rw [List.map_cons, List.takeWhile_cons_of_neg hp] at hn
    subst hn
    rfl
  | case3 stack hs =>
    have hnone : (stack.map Pending.shape).takeWhile (Shape.bindsBefore o.precedence o.associativity) = [] := by
      rcases stack with _ | ⟨p | _ | _, stack⟩
      · rfl
      · exact absurd rfl (hs p stack)
      all_goals exact List.takeWhile_cons_of_neg (by cases o.associativity <;> simp [Pending.shape, Shape.bindsBefore])
    rw [hnone] at hn
    subst hn
    rfl

theorem closeGroup_eq (stack : List Pending) :
    closeGroup stack = (Shape.closed? (stack.map Pending.shape)).map fun n => (waiting (stack.take n), stack.drop n) := by
  fun_induction closeGroup stack with
  | case1 => rfl
  | case2 f stack => rfl
  | case3 stack hs =>
    rcases stack with _ | ⟨_ | f | _, stack⟩
    · rfl
    · rfl
    · exact absurd rfl (hs f stack)
    · rfl
  | case4 o stack ih =>
    rw [ih, Option.map_map]
    show _ = ((Shape.closed? (stack.map Pending.shape)).map (· + 1)).map _
    rw [Option.map_map]
    rfl
  | case5 f stack ih =>
    rw [ih, Option.map_map]
    show _ = ((Shape.closed? (stack.map Pending.shape)).map (· + 1)).map _
    rw [Option.map_map]
    rfl

/-- A step puts out an operand, or what it takes off the stack. -/
theorem step_eq (stack : List Pending) (t : Token) :
    step stack t = (Shape.taken? (stack.map Pending.shape) t.shape).map fun n =>
      ([t].filter Token.isOperand ++ waiting (stack.take n), t.pending?.toList ++ stack.drop n) := by
  cases t with
  | num x => rfl
  | var n => rfl
  | op o =>
    rw [step, popBefore_eq o stack rfl]
    rfl
  | fn f => rfl
  | bracket b =>
    obtain ⟨shape, side⟩ := b
    cases side with
    | opening => rfl
    | closing => exact closeGroup_eq stack

theorem openings_eq_count_shape (stack : List Pending) :
    openings stack = (stack.map Pending.shape).count .opening := by
  induction stack with
  | nil => rfl
  | cons p stack ih => cases p <;> simp [ih, Pending.shape]

/-! ### Positions -/

section

variable {us : List Token} {held : List Nat} {stack : List Pending}

theorem exists_of_held_cons {i : Nat}
    (h : stack.map some = (i :: held).map fun j => us[j]?.bind Token.pending?) :
    ∃ t p rest, us[i]? = some t ∧ t.pending? = some p ∧ stack = p :: rest ∧
      rest.map some = held.map fun j => us[j]?.bind Token.pending? := by
  rcases stack with _ | ⟨p, rest⟩
  · cases h
  · obtain ⟨hp, hrest⟩ := List.cons.inj h
    obtain ⟨t, ht, hpending⟩ := Option.bind_eq_some_iff.1 hp.symm
    exact ⟨t, p, rest, ht, hpending, rfl, hrest⟩

theorem map_shape_of_held (h : stack.map some = held.map fun j => us[j]?.bind Token.pending?) :
    stack.map Pending.shape = held.filterMap ((us.map Token.shape)[·]?) := by
  induction held generalizing stack with
  | nil =>
    rw [List.map_eq_nil_iff.1 h]
    rfl
  | cons i held ih =>
    obtain ⟨t, p, rest, ht, hp, rfl, hrest⟩ := exists_of_held_cons h
    have hi : (us.map Token.shape)[i]? = some p.shape := by
      rw [List.getElem?_map, ht, Token.shape_of_pending? hp]
      rfl
    rw [List.map_cons, ih hrest, List.filterMap_cons_some hi]

/-- The tokens that wait are at the positions that hold no opening bracket. -/
theorem map_waiting_of_held (h : stack.map some = held.map fun j => us[j]?.bind Token.pending?) :
    (waiting stack).map some =
      (held.filter fun i => (us.map Token.shape)[i]? ≠ some .opening).map (us[·]?) := by
  induction held generalizing stack with
  | nil =>
    rw [List.map_eq_nil_iff.1 h]
    rfl
  | cons i held ih =>
    obtain ⟨t, p, rest, ht, hp, rfl, hrest⟩ := exists_of_held_cons h
    have hi : (us.map Token.shape)[i]? = some t.shape := by
      rw [List.getElem?_map, ht]
      rfl
    have htoken := Token.token?_of_pending? hp
    by_cases hopening : t.shape = .opening
    · rw [if_pos hopening] at htoken
      rw [List.filter_cons_of_neg (by simp [hi, hopening]), ← ih hrest, waiting, List.filterMap_cons_none htoken]
      rfl
    · rw [if_neg hopening] at htoken
      rw [List.filter_cons_of_pos (by simp [hi, hopening]), List.map_cons, ← ih hrest, ht, waiting,
        List.filterMap_cons_some htoken]
      rfl

end

/-- The position of a token is put out, kept on the stack or dropped. -/
theorem exists_position (s : Shape) (n : Nat) : ∃ out kept : List Nat, (out ++ kept).Sublist [n] ∧
    ∀ (us : List Token) t, us[n]? = some t → t.shape = s →
      ([t].filter Token.isOperand).map some = out.map (us[·]?) ∧
      t.pending?.toList.map some = kept.map fun i => us[i]?.bind Token.pending? := by
  cases s with
  | operand =>
    refine ⟨[n], [], List.Sublist.refl _, fun us t ht hs => ?_⟩
    rw [List.map_singleton, ht]
    rcases t with _ | _ | _ | _ | ⟨_, _ | _⟩ <;> cases hs
    all_goals exact ⟨rfl, rfl⟩
  | closing =>
    refine ⟨[], [], List.nil_sublist _, fun us t ht hs => ?_⟩
    rcases t with _ | _ | _ | _ | ⟨_, _ | _⟩ <;> cases hs
    exact ⟨rfl, rfl⟩
  | function | opening | operator =>
    refine ⟨[], [n], List.Sublist.refl _, fun us t ht hs => ?_⟩
    rw [List.map_singleton, ht]
    rcases t with _ | _ | _ | _ | ⟨_, _ | _⟩ <;> cases hs
    all_goals exact ⟨rfl, rfl⟩

/-! ### Runs -/

variable {S : List Shape} {n : Nat} {done held : List Nat} {s : Shape}

/-- From all tokens of this shape, the first `n` put out those at the positions `done` and leave those at `held`. -/
def Placed (S : List Shape) (n : Nat) (done held : List Nat) : Prop :=
  ∀ us : List Token, us.map Token.shape = S → ∃ out stack, run 0 [] (us.take n) = .ok (out, stack) ∧
    out.map some = done.map (us[·]?) ∧ stack.map some = held.map fun i => us[i]?.bind Token.pending?

theorem Placed.fails (h : Placed S n done held) (hs : S[n]? = some s)
    (hnone : Shape.taken? (held.filterMap (S[·]?)) s = none) (us : List Token) (hus : us.map Token.shape = S) :
    run 0 [] us = .error (.unmatched n) := by
  obtain ⟨out, stack, hr, -, hstack⟩ := h us hus
  subst hus
  rw [List.getElem?_map, Option.map_eq_some_iff] at hs
  obtain ⟨t, ht, rfl⟩ := hs
  rw [← map_shape_of_held hstack] at hnone
  have hstep : step stack t = none := by rw [step_eq, hnone]; rfl
  obtain ⟨hn, rfl⟩ := List.getElem?_eq_some_iff.1 ht
  have hlen : 0 + (us.take n).length = n := by rw [Nat.zero_add, List.length_take_of_le (Nat.le_of_lt hn)]
  have hrest : run n stack (us.drop n) = .error (.unmatched n) := by
    rw [List.drop_eq_getElem_cons hn, run, hstep]
  rw [← List.take_append_drop n us, run_append, hr, hlen]
  simp only [bind, Except.bind, hrest]

theorem Placed.next {k : Nat} (h : Placed S n done held) (hs : S[n]? = some s)
    (hk : Shape.taken? (held.filterMap (S[·]?)) s = some k) (hrange : (done ++ held).Subperm (List.range n)) :
    ∃ done' held', (done' ++ held').Subperm (List.range (n + 1)) ∧ Placed S (n + 1) done' held' := by
  obtain ⟨out₁, kept, hsub, hposition⟩ := exists_position s n
  refine ⟨done ++ (out₁ ++ (held.take k).filter fun i => S[i]? ≠ some .opening), kept ++ held.drop k, ?_,
    fun us hus => ?_⟩
  · -- nothing but `n` is new, and each position goes one way at most
    rw [List.range_succ, List.subperm_iff_count]
    intro i
    have hn := hsub.count_le i
    have hold := hrange.count_le i
    have htake := (List.filter_sublist (p := fun i => S[i]? ≠ some .opening) (l := held.take k)).count_le i
    have hheld := congrArg (List.count i) (List.take_append_drop k held)
    simp only [List.count_append] at hn hold htake hheld ⊢
    omega
  · obtain ⟨out, stack, hr, hout, hstack⟩ := h us hus
    subst hus
    rw [List.getElem?_map, Option.map_eq_some_iff] at hs
    obtain ⟨t, ht, rfl⟩ := hs
    obtain ⟨hoperand, hpending⟩ := hposition us t ht rfl
    rw [← map_shape_of_held hstack] at hk
    have hstep := step_eq stack t
    rw [hk, Option.map_some] at hstep
    have htake : (stack.take k).map some = (held.take k).map fun i => us[i]?.bind Token.pending? := by
      rw [List.map_take, hstack, List.map_take]
    have hrun := run_append_of_run hr (run_singleton_of_step hstep)
    refine ⟨out ++ ([t].filter Token.isOperand ++ waiting (stack.take k)), t.pending?.toList ++ stack.drop k, ?_, ?_, ?_⟩
    · rw [List.take_add_one, ht]
      exact hrun
    · simp only [List.map_append, hout, hoperand, map_waiting_of_held htake]
    · simp only [List.map_append, hpending, List.map_drop, hstack]

/-- All tokens of one shape fail at the same index, or have their beginnings placed alike. -/
theorem exists_placed (S : List Shape) : (∃ i, ∀ us : List Token, us.map Token.shape = S →
      run 0 [] us = .error (.unmatched i)) ∨
    ∀ n ≤ S.length, ∃ done held, (done ++ held).Subperm (List.range n) ∧ Placed S n done held := by
  by_cases hfail : ∃ i, ∀ us : List Token, us.map Token.shape = S → run 0 [] us = .error (.unmatched i)
  · exact .inl hfail
  refine .inr fun n => ?_
  induction n with
  | zero =>
    intro _
    exact ⟨[], [], List.nil_subperm, fun us _ => ⟨[], [], rfl, rfl, rfl⟩⟩
  | succ n ih =>
    intro hn
    obtain ⟨done, held, hrange, hplaced⟩ := ih (Nat.le_of_succ_le hn)
    have hs : S[n]? = some S[n] := List.getElem?_eq_getElem hn
    cases hk : Shape.taken? (held.filterMap (S[·]?)) S[n] with
    | none => exact absurd ⟨n, hplaced.fails hs hk⟩ hfail
    | some k => exact hplaced.next hs hk hrange

end Postfix

open Postfix

/-- The shape of tokens decides how they are converted. All sequences of one shape fail with one error, or there is
one list of positions, none of them twice, such that each sequence is put out as its tokens at these positions. -/
theorem toPostfix_order_of_shape (ts : List Token) :
    (∃ e, ∀ us : List Token, us.map Token.shape = ts.map Token.shape → toPostfix us = .error e) ∨
      ∃ order : List Nat, order.Nodup ∧ ∀ us : List Token, us.map Token.shape = ts.map Token.shape →
        ∃ out, toPostfix us = .ok out ∧ out.map some = order.map (us[·]?) := by
  rcases exists_placed (ts.map Token.shape) with ⟨i, hfail⟩ | hplaced
  · exact .inl ⟨.unmatched i, fun us hus => toPostfix_eq_error_iff.2 (.inl (hfail us hus))⟩
  obtain ⟨done, held, hrange, hall⟩ := hplaced _ (Nat.le_refl _)
  have hrun : ∀ us : List Token, us.map Token.shape = ts.map Token.shape → ∃ out stack,
      run 0 [] us = .ok (out, stack) ∧ out.map some = done.map (us[·]?) ∧
        stack.map some = held.map fun i => us[i]?.bind Token.pending? := by
    intro us hus
    have h := hall us hus
    rwa [← hus, List.length_map, List.take_length] at h
  by_cases hopen : (held.filterMap ((ts.map Token.shape)[·]?)).count .opening = 0
  · refine .inr ⟨done ++ held.filter fun i => (ts.map Token.shape)[i]? ≠ some .opening, ?_, fun us hus => ?_⟩
    · have hsub : (done ++ held.filter fun i => (ts.map Token.shape)[i]? ≠ some .opening).Sublist (done ++ held) :=
        List.filter_sublist.append_left done
      obtain ⟨l, hperm, hl⟩ := hrange
      exact (hperm.nodup (List.nodup_range.sublist hl)).sublist hsub
    · obtain ⟨out, stack, hr, hout, hstack⟩ := hrun us hus
      have hcount := openings_eq_count_shape stack
      rw [map_shape_of_held hstack, hus, hopen] at hcount
      refine ⟨out ++ waiting stack, toPostfix_eq_ok.2 ⟨out, stack, hr, hcount, rfl⟩, ?_⟩
      rw [List.map_append, hout, map_waiting_of_held hstack, hus, List.map_append]
  · refine .inl ⟨.unclosed, fun us hus => toPostfix_eq_error_iff.2 (.inr ⟨rfl, ?_⟩)⟩
    obtain ⟨out, stack, hr, -, hstack⟩ := hrun us hus
    refine ⟨out, stack, hr, ?_⟩
    rwa [openings_eq_count_shape, map_shape_of_held hstack, hus]

end Reckon
