import Mathlib.Data.List.Perm.Basic
import Reckon.Postfix

/-!
# What waits on the stack

`waiting` lists the operators and functions on a stack and `openings` counts its open groups. One lemma
for each operation says what it does to both: what is put out is what stops waiting, and only a closing
bracket ends a group. So it is for a run (`perm_run`, `openings_run`), and hence converting puts out every
token but the brackets, each as often as it was read (`perm_of_toPostfix`). Operands never wait, so they keep
their order (`filter_isOperand_of_toPostfix`).
-/

namespace Reckon

/-- The token that waits, none for the mark of a group. -/
def Pending.token? : Pending → Option Token
  | op o => some (.op o)
  | fn f => some (.fn f)
  | opening => none

namespace Postfix

variable {stack rest : List Pending} {out : List Token}

def waiting (stack : List Pending) : List Token := stack.filterMap Pending.token?

def openings (stack : List Pending) : Nat := stack.count .opening

@[simp] theorem waiting_nil : waiting [] = [] := rfl

@[simp] theorem waiting_op (o : Operator) (stack : List Pending) :
    waiting (.op o :: stack) = .op o :: waiting stack := rfl

@[simp] theorem waiting_fn (f : Func) (stack : List Pending) :
    waiting (.fn f :: stack) = .fn f :: waiting stack := rfl

@[simp] theorem waiting_opening (stack : List Pending) : waiting (.opening :: stack) = waiting stack := rfl

@[simp] theorem waiting_append (above below : List Pending) :
    waiting (above ++ below) = waiting above ++ waiting below := by simp [waiting]

@[simp] theorem openings_nil : openings [] = 0 := rfl

@[simp] theorem openings_op (o : Operator) (stack : List Pending) :
    openings (.op o :: stack) = openings stack := List.count_cons_of_ne (by simp)

@[simp] theorem openings_fn (f : Func) (stack : List Pending) :
    openings (.fn f :: stack) = openings stack := List.count_cons_of_ne (by simp)

@[simp] theorem openings_opening (stack : List Pending) :
    openings (.opening :: stack) = openings stack + 1 := List.count_cons_self

/-! ### Operations -/

theorem waiting_popBefore (o : Operator) (stack : List Pending) :
    (popBefore o stack).1 ++ waiting (popBefore o stack).2 = waiting stack := by
  fun_induction popBefore o stack with
  | case1 p stack hp out rest he ih => simpa [he] using ih
  | case2 p stack hp => rfl
  | case3 stack hs => rfl

theorem openings_popBefore (o : Operator) (stack : List Pending) :
    openings (popBefore o stack).2 = openings stack := by
  fun_induction popBefore o stack with
  | case1 p stack hp out rest he ih => simpa [he] using ih
  | case2 p stack hp => rfl
  | case3 stack hs => rfl

theorem waiting_closeGroup (h : closeGroup stack = some (out, rest)) :
    out ++ waiting rest = waiting stack := by
  fun_induction closeGroup stack generalizing out with
  | case1 => cases h
  | case2 f stack => cases h; rfl
  | case3 stack hs => cases h; rfl
  | case4 o stack ih =>
    obtain ⟨⟨out', rest'⟩, hc, he⟩ := Option.map_eq_some_iff.1 h
    cases he
    simp [ih hc]
  | case5 f stack ih =>
    obtain ⟨⟨out', rest'⟩, hc, he⟩ := Option.map_eq_some_iff.1 h
    cases he
    simp [ih hc]

theorem openings_closeGroup (h : closeGroup stack = some (out, rest)) :
    openings stack = openings rest + 1 := by
  fun_induction closeGroup stack generalizing out with
  | case1 => cases h
  | case2 f stack => cases h; simp
  | case3 stack hs => cases h; simp
  | case4 o stack ih =>
    obtain ⟨⟨out', rest'⟩, hc, he⟩ := Option.map_eq_some_iff.1 h
    cases he
    simpa using ih hc
  | case5 f stack ih =>
    obtain ⟨⟨out', rest'⟩, hc, he⟩ := Option.map_eq_some_iff.1 h
    cases he
    simpa using ih hc

theorem flush_eq (stack : List Pending) :
    flush stack = if openings stack = 0 then .ok (waiting stack) else .error .unclosed := by
  fun_induction flush stack with
  | case1 => rfl
  | case2 stack => simp
  | case3 o stack ih => by_cases h : openings stack = 0 <;> simp [ih, h, Except.map]
  | case4 f stack ih => by_cases h : openings stack = 0 <;> simp [ih, h, Except.map]

/-! ### Steps -/

theorem perm_step {t : Token} (h : step stack t = some (out, rest)) :
    (out ++ waiting rest).Perm ([t].filter Token.bearsValue ++ waiting stack) := by
  cases t with
  | num x => cases h; rfl
  | var n => cases h; rfl
  | op o =>
    cases h
    rw [← waiting_popBefore o stack]
    exact List.perm_middle
  | fn f => cases h; rfl
  | bracket b =>
    obtain ⟨shape, side⟩ := b
    cases side with
    | opening => cases h; rfl
    | closing => rw [waiting_closeGroup h]; rfl

theorem openings_step {t : Token} (h : step stack t = some (out, rest)) :
    openings rest + [t].countP Token.isClosing = openings stack + [t].countP Token.isOpening := by
  cases t with
  | num x => cases h; rfl
  | var n => cases h; rfl
  | op o => cases h; simpa [Token.isClosing, Token.isOpening] using openings_popBefore o stack
  | fn f => cases h; simp [Token.isClosing, Token.isOpening]
  | bracket b =>
    obtain ⟨shape, side⟩ := b
    cases side with
    | opening => cases h; simp [Token.isClosing, Token.isOpening]
    | closing => simpa [Token.isClosing, Token.isOpening] using (openings_closeGroup h).symm

theorem filter_isOperand_waiting (stack : List Pending) : (waiting stack).filter Token.isOperand = [] := by
  induction stack with
  | nil => rfl
  | cons p stack ih => cases p <;> simpa [Token.isOperand, Token.isNumber, Token.isVariable] using ih

theorem filter_isOperand_of_append (h : out ++ waiting rest = waiting stack) : out.filter Token.isOperand = [] := by
  have hall := filter_isOperand_waiting stack
  rw [← h, List.filter_append] at hall
  exact (List.append_eq_nil_iff.1 hall).1

/-- An operand is put out at once, and with other tokens no operand is. -/
theorem filter_isOperand_step {t : Token} (h : step stack t = some (out, rest)) :
    out.filter Token.isOperand = [t].filter Token.isOperand := by
  cases t with
  | num x => cases h; rfl
  | var n => cases h; rfl
  | op o => cases h; exact filter_isOperand_of_append (waiting_popBefore o stack)
  | fn f => cases h; rfl
  | bracket b =>
    obtain ⟨shape, side⟩ := b
    cases side with
    | opening => cases h; rfl
    | closing => exact filter_isOperand_of_append (waiting_closeGroup h)

theorem run_cons_eq_ok {i : Nat} {t : Token} {ts : List Token} :
    run i stack (t :: ts) = .ok (out, rest) ↔ ∃ out₁ mid out₂, step stack t = some (out₁, mid) ∧
      run (i + 1) mid ts = .ok (out₂, rest) ∧ out = out₁ ++ out₂ := by
  rw [run]
  cases step stack t with
  | none => simp
  | some p =>
    obtain ⟨out₁, mid⟩ := p
    cases h : run (i + 1) mid ts with
    | error e => simp [Except.map, h]
    | ok q => simp [Except.map, h, Prod.ext_iff, eq_comm, and_comm]

/-! ### Runs -/

open scoped List in
theorem perm_run {i : Nat} {ts : List Token} (h : run i stack ts = .ok (out, rest)) :
    (out ++ waiting rest).Perm (ts.filter Token.bearsValue ++ waiting stack) := by
  induction ts generalizing i stack out with
  | nil => cases h; rfl
  | cons t ts ih =>
    obtain ⟨out₁, mid, out₂, hs, hr, rfl⟩ := run_cons_eq_ok.1 h
    calc out₁ ++ out₂ ++ waiting rest
        _ = out₁ ++ (out₂ ++ waiting rest) := List.append_assoc ..
        _ ~ out₁ ++ (ts.filter Token.bearsValue ++ waiting mid) := (ih hr).append_left out₁
        _ ~ ts.filter Token.bearsValue ++ (out₁ ++ waiting mid) := List.perm_append_comm_assoc ..
        _ ~ ts.filter Token.bearsValue ++ ([t].filter Token.bearsValue ++ waiting stack) :=
          (perm_step hs).append_left _
        _ ~ [t].filter Token.bearsValue ++ (ts.filter Token.bearsValue ++ waiting stack) :=
          List.perm_append_comm_assoc ..
        _ = (t :: ts).filter Token.bearsValue ++ waiting stack := by
          rw [← List.append_assoc, ← List.filter_append]; rfl

theorem openings_run {i : Nat} {ts : List Token} (h : run i stack ts = .ok (out, rest)) :
    openings rest + ts.countP Token.isClosing = openings stack + ts.countP Token.isOpening := by
  induction ts generalizing i stack out with
  | nil => cases h; rfl
  | cons t ts ih =>
    obtain ⟨out₁, mid, out₂, hs, hr, rfl⟩ := run_cons_eq_ok.1 h
    have h₁ := openings_step hs
    have h₂ := ih hr
    rw [← List.singleton_append, List.countP_append, List.countP_append]
    omega

theorem filter_isOperand_run {i : Nat} {ts : List Token} (h : run i stack ts = .ok (out, rest)) :
    out.filter Token.isOperand = ts.filter Token.isOperand := by
  induction ts generalizing i stack out with
  | nil => cases h; rfl
  | cons t ts ih =>
    obtain ⟨out₁, mid, out₂, hs, hr, rfl⟩ := run_cons_eq_ok.1 h
    rw [List.filter_append, filter_isOperand_step hs, ih hr, ← List.filter_append, List.singleton_append]

end Postfix

open Postfix

theorem toPostfix_eq_ok {ts out : List Token} : toPostfix ts = .ok out ↔
    ∃ first stack, run 0 [] ts = .ok (first, stack) ∧ openings stack = 0 ∧ first ++ waiting stack = out := by
  rw [toPostfix]
  cases h : run 0 [] ts with
  | error e => simp [bind, Except.bind]
  | ok p =>
    obtain ⟨first, stack⟩ := p
    simp only [bind, Except.bind, flush_eq]
    by_cases ho : openings stack = 0 <;> simp [ho, pure, Except.pure]

/-- Every token but the brackets is put out, as often as it was read. -/
theorem perm_of_toPostfix {ts out : List Token} (h : toPostfix ts = .ok out) :
    out.Perm (ts.filter Token.bearsValue) := by
  obtain ⟨first, stack, hr, -, rfl⟩ := toPostfix_eq_ok.1 h
  simpa using perm_run hr

/-- The operands keep their order. -/
theorem filter_isOperand_of_toPostfix {ts out : List Token} (h : toPostfix ts = .ok out) :
    out.filter Token.isOperand = ts.filter Token.isOperand := by
  obtain ⟨first, stack, hr, -, rfl⟩ := toPostfix_eq_ok.1 h
  rw [List.filter_append, filter_isOperand_run hr, filter_isOperand_waiting, List.append_nil]

end Reckon
