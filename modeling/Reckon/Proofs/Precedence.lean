import Mathlib.Data.List.Chain
import Reckon.Proofs.Shape

/-!
# Precedence on the stack

However tokens are put together, the operators that lie next to one another on the stack bind the tighter the higher
they lie, powers alone excepted, which may lie on powers (`Operator.LiesOn`). An operator is put on only when what is
below may stay (`Postfix.not_bindsBefore_of_popBefore`), and whatever is taken off is taken from the top, so that a step
keeps this order, and with it a run. Which tokens lie there and how many groups are open is read off the tokens
(`Postfix.operators_ascend`).
-/

namespace Reckon

/-- The upper of two operators binds tighter, or both are powers. -/
def Operator.LiesOn (upper lower : Operator) : Prop := lower.precedence < upper.precedence ∨ upper = .pow ∧ lower = .pow

instance : Trans Operator.LiesOn Operator.LiesOn Operator.LiesOn where
  trans := by
    rintro a b c (hab | ⟨rfl, rfl⟩) hbc
    · rcases hbc with hbc | ⟨rfl, rfl⟩
      · exact .inl (hbc.trans hab)
      · exact .inl hab
    · exact hbc

/-- Both ways to compare precedences leave an operator only on what binds less tightly, or a power on a power. -/
theorem Operator.liesOn_of_not_bindsBefore {p o : Operator} (h : ¬p.bindsBefore o = true) : o.LiesOn p := by
  revert h
  cases o <;> cases p <;> simp [bindsBefore, associativity, precedence, LiesOn]

namespace Postfix

variable {stack rest : List Pending} {ts out : List Token}

/-- Between two entries there is an order to keep only if both are operators. -/
def Ascends : Pending → Pending → Prop
  | .op upper, .op lower => upper.LiesOn lower
  | _, _ => True

/-! ### Steps -/

theorem not_bindsBefore_of_popBefore {o p : Operator} (h : (popBefore o stack).2 = .op p :: rest) :
    ¬p.bindsBefore o = true := by
  fun_induction popBefore o stack with
  | case1 q stack hq out below he ih =>
    rw [he] at ih
    exact ih h
  | case2 q stack hq =>
    cases h
    exact hq
  | case3 stack hs => exact absurd h (hs p rest)

theorem isChain_popBefore (h : stack.IsChain Ascends) (o : Operator) :
    (Pending.op o :: (popBefore o stack).2).IsChain Ascends := by
  have hbelow : (popBefore o stack).2.IsChain Ascends := by
    rw [popBefore_eq o stack rfl]
    exact h.drop _
  refine hbelow.cons fun q hq => ?_
  obtain ⟨rest, hrest⟩ := List.head?_eq_some_iff.1 hq
  cases q with
  | op p => exact Operator.liesOn_of_not_bindsBefore (not_bindsBefore_of_popBefore hrest)
  | fn f => trivial
  | opening => trivial

theorem isChain_step {t : Token} (h : stack.IsChain Ascends) (hs : step stack t = some (out, rest)) :
    rest.IsChain Ascends := by
  cases t with
  | num x => cases hs; exact h
  | var n => cases hs; exact h
  | op o => cases hs; exact isChain_popBefore h o
  | fn f => cases hs; exact h.cons fun _ _ => trivial
  | bracket b =>
    obtain ⟨shape, side⟩ := b
    cases side with
    | opening => cases hs; exact h.cons fun _ _ => trivial
    | closing =>
      rw [step_eq, Option.map_eq_some_iff] at hs
      obtain ⟨n, -, he⟩ := hs
      cases he
      exact h.drop n

/-- Of what was there before a step something may be missing, and only the token that was read is new. -/
theorem sublist_step {t : Token} (hs : step stack t = some (out, rest)) : rest.Sublist (t.pending?.toList ++ stack) := by
  rw [step_eq, Option.map_eq_some_iff] at hs
  obtain ⟨n, -, he⟩ := hs
  cases he
  exact (List.drop_sublist n stack).append_left _

/-! ### Runs -/

theorem isChain_run {i : Nat} (h : stack.IsChain Ascends) (hr : run i stack ts = .ok (out, rest)) :
    rest.IsChain Ascends := by
  induction ts generalizing i stack out with
  | nil => cases hr; exact h
  | cons t ts ih =>
    obtain ⟨_, mid, _, hs, htail, rfl⟩ := run_cons_eq_ok.1 hr
    exact ih (isChain_step h hs) htail

theorem sublist_run {i : Nat} (hr : run i stack ts = .ok (out, rest)) :
    rest.Sublist ((ts.filterMap Token.pending?).reverse ++ stack) := by
  induction ts generalizing i stack out with
  | nil => cases hr; exact List.Sublist.refl _
  | cons t ts ih =>
    obtain ⟨_, mid, _, hs, htail, rfl⟩ := run_cons_eq_ok.1 hr
    have hall := (ih htail).trans ((sublist_step hs).append_left _)
    cases ht : t.pending? with
    | none =>
      rw [ht] at hall
      rwa [List.filterMap_cons_none ht]
    | some p =>
      rw [ht] at hall
      rwa [List.filterMap_cons_some ht, List.reverse_cons, List.append_assoc]

/-! ### Moments -/

/-- What lies on the stack at some moment when `ts` has been read: what `ts` leaves there, and again what is left of it
while the next token, or the end, takes entries off one by one. A closing bracket has been read when it has taken off
the mark of its group. -/
inductive Waits : List Token → List Pending → Prop
  | read {ts out : List Token} {stack : List Pending} : run 0 [] ts = .ok (out, stack) → Waits ts stack
  | off {ts : List Token} {p : Pending} {stack : List Pending} : Waits ts (p :: stack) → p ≠ .opening → Waits ts stack
  | close {ts : List Token} {stack : List Pending} (s : BracketShape) : Waits ts (.opening :: stack) →
      Waits (ts ++ [.bracket ⟨s, .closing⟩]) stack

namespace Waits

theorem isChain (h : Waits ts stack) : stack.IsChain Ascends := by
  induction h with
  | read hr => exact isChain_run .nil hr
  | off _ _ ih => exact ih.tail
  | close _ _ ih => exact ih.tail

theorem sublist (h : Waits ts stack) : stack.Sublist (ts.filterMap Token.pending?).reverse := by
  induction h with
  | read hr => simpa using sublist_run hr
  | off _ _ ih => exact (List.sublist_cons_self _ _).trans ih
  | @close ts stack s _ ih =>
    have hnone : [Token.bracket ⟨s, .closing⟩].filterMap Token.pending? = [] := rfl
    rw [List.filterMap_append, hnone, List.append_nil]
    exact (List.sublist_cons_self _ _).trans ih

theorem openings_add (h : Waits ts stack) :
    openings stack + ts.countP Token.isClosing = ts.countP Token.isOpening := by
  induction h with
  | read hr => simpa using openings_run hr
  | @off ts p stack _ hp ih =>
    cases p with
    | op o => simpa using ih
    | fn f => simpa using ih
    | opening => exact absurd rfl hp
  | @close ts stack s _ ih =>
    have hclosing : [Token.bracket ⟨s, .closing⟩].countP Token.isClosing = 1 := rfl
    have hopening : [Token.bracket ⟨s, .closing⟩].countP Token.isOpening = 0 := rfl
    rw [openings_opening] at ih
    rw [List.countP_append, List.countP_append, hclosing, hopening]
    omega

end Waits

/-- At every moment and whatever the tokens are, of the operators that lie next to one another each binds tighter than all
below it, only that powers may lie on powers, so that no two of one precedence group to the left. The stack holds
nothing but operators, functions and opening brackets, each where it was read and the later ones on top, and as many opening
brackets as have been opened and not closed. -/
theorem operators_ascend {ts : List Token} {stack : List Pending} (h : Waits ts stack) :
    (∀ (above : List Pending) (ops : List Operator) (below : List Pending), stack = above ++ ops.map .op ++ below →
      ops.Pairwise fun upper lower => (lower.precedence < upper.precedence ∨ upper = .pow ∧ lower = .pow) ∧
        (upper.precedence = lower.precedence → upper.associativity = .right ∧ lower.associativity = .right)) ∧
    stack.Sublist (ts.filterMap Token.pending?).reverse ∧
    (∀ p ∈ stack, ∃ t ∈ ts, t.pending? = some p ∧ (t.isOperator ∨ t.isFunction ∨ t.isOpening)) ∧
    openings stack + ts.countP Token.isClosing = ts.countP Token.isOpening := by
  refine ⟨?_, h.sublist, fun p hp => ?_, h.openings_add⟩
  · rintro above ops below rfl
    have hops : (ops.map Pending.op).IsChain Ascends := h.isChain.left_of_append.right_of_append
    have hchain : ops.IsChain Operator.LiesOn := (List.isChain_map Pending.op).1 hops
    refine hchain.pairwise.imp fun {upper lower} hlies => ⟨hlies, fun he => ?_⟩
    rcases hlies with hlt | ⟨rfl, rfl⟩
    · exact absurd he (Nat.ne_of_gt hlt)
    · exact ⟨rfl, rfl⟩
  · have hmem : p ∈ ts.filterMap Token.pending? := List.mem_reverse.1 (h.sublist.subset hp)
    obtain ⟨t, ht, hpending⟩ := List.mem_filterMap.1 hmem
    refine ⟨t, ht, hpending, ?_⟩
    rcases t with _ | _ | _ | _ | ⟨_, _ | _⟩ <;> cases hpending <;> simp [Token.isOperator, Token.isFunction, Token.isOpening]

/-- In `a + b * sin(c ^ d ^ e]`, before the bracket has taken anything off, and when it has taken off its group but not the
function. -/
theorem operators_ascend_in_call :
    let ts : List Token := [.var "a", .op .add, .var "b", .op .mul, .fn .sin, .bracket ⟨.round, .opening⟩, .var "c",
      .op .pow, .var "d", .op .pow, .var "e"]
    let before : List Pending := [.op .pow, .op .pow, .opening, .fn .sin, .op .mul, .op .add]
    let behind : List Pending := [.fn .sin, .op .mul, .op .add]
    let closed := ts ++ [.bracket ⟨.square, .closing⟩]
    Waits ts before ∧ openings before + ts.countP Token.isClosing = ts.countP Token.isOpening ∧
      Waits closed behind ∧ openings behind + closed.countP Token.isClosing = closed.countP Token.isOpening ∧
      behind.Sublist (closed.filterMap Token.pending?).reverse := by
  intro ts before behind closed
  have hbefore : Waits ts before := .read rfl
  have hbehind : Waits closed behind := .close .square ((hbefore.off (by decide)).off (by decide))
  obtain ⟨-, -, -, hopen⟩ := operators_ascend hbefore
  obtain ⟨-, hsublist, -, hclosed⟩ := operators_ascend hbehind
  exact ⟨hbefore, hopen, hbehind, hclosed, hsublist⟩

end Postfix

end Reckon
