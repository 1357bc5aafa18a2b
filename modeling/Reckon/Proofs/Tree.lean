import Mathlib.Data.List.Forall2
import Reckon.Evaluation

/-!
# Expression trees

A tree has a value by recursion on it, and a listing in postorder. `evaluate_postorder`: evaluating the
listing gives the value of the tree. `Tree.growAll` is the stack machine with trees in the place of their
values, and reads a listing back: hence `postorder_injective`, and `exists_tree_of_evaluate`, which finds
the tree behind every sequence that has a value.
-/

namespace Reckon

/-- The numbers and variables among tokens minus the operators: how many values they leave. -/
def Token.surplus (ts : List Token) : Int := (ts.countP isOperand : Int) - ts.countP isOperator

theorem Token.surplus_append (ts us : List Token) : surplus (ts ++ us) = surplus ts + surplus us := by
  simp only [surplus, List.countP_append]
  omega

theorem Token.surplus_cons (t : Token) (ts : List Token) : surplus (t :: ts) = surplus [t] + surplus ts :=
  surplus_append [t] ts

theorem Token.surplus_perm {ts us : List Token} (h : ts.Perm us) : surplus ts = surplus us := by
  rw [surplus, surplus, h.countP_eq, h.countP_eq]

theorem Token.surplus_filter_bearsValue (ts : List Token) : surplus (ts.filter bearsValue) = surplus ts := by
  induction ts with
  | nil => rfl
  | cons t ts ih =>
    rw [← List.singleton_append, List.filter_append, surplus_append, surplus_append, ih]
    cases t <;> rfl

inductive Tree
  | num (x : Float)
  | var (name : String)
  | op (o : Operator) (left right : Tree)
  | fn (f : Func) (arg : Tree)

namespace Tree

/-- The tokens of the tree, every operator and function behind its operands. -/
def postorder : Tree → List Token
  | num x => [.num x]
  | var n => [.var n]
  | op o l r => l.postorder ++ r.postorder ++ [.op o]
  | fn f t => t.postorder ++ [.fn f]

/-- The value by recursion on the tree; the left operand is the first argument. -/
def value (ρ : Valuation) : Tree → Except EvalError Float
  | num x => .ok x
  | var n => ρ n
  | op o l r => do
    let x ← l.value ρ
    let y ← r.value ρ
    return o.apply x y
  | fn f t => do
    let x ← t.value ρ
    return f.apply x

def names : Tree → List String
  | num _ => []
  | var n => [n]
  | op _ l r => l.names ++ r.names
  | fn _ t => t.names

theorem surplus_postorder (t : Tree) : Token.surplus t.postorder = 1 := by
  induction t with
  | num x => rfl
  | var n => rfl
  | op o l r ihl ihr => rw [postorder, Token.surplus_append, Token.surplus_append, ihl, ihr]; rfl
  | fn f t ih => rw [postorder, Token.surplus_append, ih]; rfl

theorem mem_names {n : String} (t : Tree) : n ∈ t.names ↔ .var n ∈ t.postorder := by
  induction t with
  | num x => simp [names, postorder]
  | var m => simp [names, postorder]
  | op o l r ihl ihr => simp [names, postorder, ihl, ihr]
  | fn f t ih => simp [names, postorder, ih]

theorem exists_value_iff {ρ : Valuation} (t : Tree) :
    (∃ x, t.value ρ = .ok x) ↔ ∀ n ∈ t.names, ∃ x, ρ n = .ok x := by
  induction t with
  | num x => simp [value, names]
  | var m => simp [value, names]
  | op o l r ihl ihr =>
    simp only [names, List.mem_append, or_imp, forall_and, ← ihl, ← ihr, value]
    cases hl : l.value ρ with
    | error e => simp [bind, Except.bind]
    | ok x => cases hr : r.value ρ <;> simp [bind, Except.bind, pure, Except.pure]
  | fn f t ih =>
    simp only [names, ← ih, value]
    cases t.value ρ <;> simp [bind, Except.bind, pure, Except.pure]

/-! ### The stack machine on trees -/

/-- The stack of trees after a token, its top first. -/
def grow (stack : List Tree) : Token → Option (List Tree)
  | .num x => some (num x :: stack)
  | .var n => some (var n :: stack)
  | .op o =>
    match stack with
    | r :: l :: rest => some (op o l r :: rest)
    | _ => none
  | .fn f =>
    match stack with
    | t :: rest => some (fn f t :: rest)
    | _ => none
  | .bracket _ => none

def growAll (stack : List Tree) (ts : List Token) : Option (List Tree) := ts.foldlM grow stack

theorem growAll_cons (stack : List Tree) (t : Token) (ts : List Token) :
    growAll stack (t :: ts) = grow stack t >>= fun stack => growAll stack ts := by
  simp [growAll]

@[simp] theorem growAll_nil (stack : List Tree) : growAll stack [] = some stack := rfl

theorem growAll_postorder (t : Tree) (stack : List Tree) (ts : List Token) :
    growAll stack (t.postorder ++ ts) = growAll (t :: stack) ts := by
  induction t generalizing stack ts with
  | num x => rfl
  | var n => rfl
  | op o l r ihl ihr =>
    simp only [postorder, List.append_assoc, ihl, ihr, List.singleton_append, growAll_cons]
    rfl
  | fn f t ih =>
    simp only [postorder, List.append_assoc, ih, List.singleton_append, growAll_cons]
    rfl

theorem postorder_injective {t u : Tree} (h : t.postorder = u.postorder) : t = u := by
  have ht : growAll [] t.postorder = some [t] := by simpa using growAll_postorder t [] []
  have hu : growAll [] u.postorder = some [u] := by simpa using growAll_postorder u [] []
  rw [h, hu] at ht
  simpa using ht.symm

/-- The listings of the trees on a stack, the bottom one first. -/
def listing (stack : List Tree) : List Token := stack.reverse.flatMap postorder

theorem listing_cons (t : Tree) (stack : List Tree) : listing (t :: stack) = listing stack ++ t.postorder := by
  simp [listing]

theorem listing_grow {stack stack' : List Tree} {t : Token} (h : grow stack t = some stack') :
    listing stack' = listing stack ++ [t] := by
  unfold grow at h
  split at h
  · cases h; rw [listing_cons]; rfl
  · cases h; rw [listing_cons]; rfl
  · split at h
    · cases h; simp [listing_cons, postorder]
    · cases h
  · split at h
    · cases h; simp [listing_cons, postorder]
    · cases h
  · cases h

theorem listing_growAll {stack stack' : List Tree} {ts : List Token} (h : growAll stack ts = some stack') :
    listing stack' = listing stack ++ ts := by
  induction ts generalizing stack with
  | nil => cases h; simp
  | cons t ts ih =>
    rw [growAll_cons] at h
    obtain ⟨mid, hmid, h⟩ := Option.bind_eq_some_iff.1 h
    rw [ih h, listing_grow hmid, List.append_assoc]
    rfl

end Tree

namespace Evaluation

open Reckon.Tree

variable {ρ : Valuation}

theorem run_cons (ρ : Valuation) (stack : List Float) (t : Token) (ts : List Token) :
    run ρ stack (t :: ts) = step ρ stack t >>= fun stack => run ρ stack ts := by
  simp [run]

/-- The listing of a tree puts its value on the stack, whatever is there and whatever follows. -/
theorem run_postorder (ρ : Valuation) (t : Tree) (stack : List Float) (ts : List Token) :
    run ρ stack (t.postorder ++ ts) = t.value ρ >>= fun x => run ρ (x :: stack) ts := by
  induction t generalizing stack ts with
  | num x => rfl
  | var n =>
    simp only [postorder, List.singleton_append, run_cons, step, value]
    cases ρ n <;> rfl
  | op o l r ihl ihr =>
    simp only [postorder, List.append_assoc, ihl, ihr, List.singleton_append, run_cons, step, value]
    cases l.value ρ with
    | error e => rfl
    | ok x => cases r.value ρ <;> rfl
  | fn f t ih =>
    simp only [postorder, List.append_assoc, ih, List.singleton_append, run_cons, step, value]
    cases t.value ρ <;> rfl

/-- The numbers are the values of the trees, place by place. -/
def Values (ρ : Valuation) : List Tree → List Float → Prop := List.Forall₂ fun t x => t.value ρ = .ok x

theorem Values.step {trees : List Tree} {stack stack' : List Float} {t : Token} (hv : Values ρ trees stack)
    (h : step ρ stack t = .ok stack') : ∃ trees', grow trees t = some trees' ∧ Values ρ trees' stack' := by
  cases t with
  | num x =>
    cases h
    exact ⟨_, rfl, .cons rfl hv⟩
  | var n =>
    simp only [Evaluation.step] at h
    cases hn : ρ n with
    | error e => rw [hn] at h; cases h
    | ok x =>
      rw [hn] at h; cases h
      exact ⟨_, rfl, .cons hn hv⟩
  | op o =>
    rcases hv with _ | ⟨hr, _ | ⟨hl, hv⟩⟩
    · cases h
    · cases h
    · cases h
      refine ⟨_, rfl, .cons ?_ hv⟩
      simp only [value, hl, hr]; rfl
  | fn f =>
    rcases hv with _ | ⟨ht, hv⟩
    · cases h
    · cases h
      refine ⟨_, rfl, .cons ?_ hv⟩
      simp only [value, ht]; rfl
  | bracket b => cases h

theorem Values.run {trees : List Tree} {stack stack' : List Float} {ts : List Token}
    (hv : Values ρ trees stack) (h : run ρ stack ts = .ok stack') :
    ∃ trees', growAll trees ts = some trees' ∧ Values ρ trees' stack' := by
  induction ts generalizing trees stack with
  | nil => cases h; exact ⟨trees, rfl, hv⟩
  | cons t ts ih =>
    rw [run_cons] at h
    cases hs : Evaluation.step ρ stack t with
    | error e => rw [hs] at h; cases h
    | ok mid =>
      rw [hs] at h
      obtain ⟨trees', hg, hv'⟩ := hv.step hs
      rw [growAll_cons, hg]
      exact ih hv' h

end Evaluation

open Evaluation

theorem evaluate_postorder (ρ : Valuation) (t : Tree) : evaluate ρ t.postorder = t.value ρ := by
  have h := run_postorder ρ t [] []
  rw [List.append_nil] at h
  rw [evaluate, h]
  cases t.value ρ <;> rfl

/-- Whatever has a value is the listing of a tree. -/
theorem exists_tree_of_evaluate {ρ : Valuation} {ts : List Token} {x : Float} (h : evaluate ρ ts = .ok x) :
    ∃ t : Tree, t.postorder = ts ∧ t.value ρ = .ok x := by
  rw [evaluate] at h
  cases hr : run ρ [] ts with
  | error e => rw [hr] at h; cases h
  | ok stack =>
    rw [hr] at h
    have hnil : Values ρ [] [] := .nil
    obtain ⟨trees, hg, hv⟩ := hnil.run hr
    rcases stack with _ | ⟨y, _ | ⟨z, rest⟩⟩
    · cases h
    · cases h
      obtain ⟨t, _, ht, hnil, rfl⟩ := List.forall₂_cons_right_iff.1 hv
      rw [List.forall₂_nil_right_iff.1 hnil] at hg
      exact ⟨t, by simpa [Tree.listing] using Tree.listing_growAll hg, ht⟩
    · cases h

end Reckon
