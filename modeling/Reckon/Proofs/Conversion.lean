import Reckon.Proofs.Grammar
import Reckon.Proofs.Pending

/-!
# Converting gives the postorder

Reading a scope puts out the listing of its tree up to a last part, which is left waiting on the stack
(`Scope.run`). What is below on the stack stays there as long as no operator of the scope takes it off.
Nothing of a group is left waiting, since its closing bracket takes off what is above the mark. At the end
the rest is put out, so that `toPostfix_of_denotes`.
-/

namespace Reckon

namespace Postfix

variable {stack rest : List Pending} {out : List Token}

theorem run_cons_of_step {i : Nat} {t : Token} {ts out₁ out₂ : List Token} {mid : List Pending}
    (hs : step stack t = some (out₁, mid)) (h : run (i + 1) mid ts = .ok (out₂, rest)) :
    run i stack (t :: ts) = .ok (out₁ ++ out₂, rest) :=
  run_cons_eq_ok.2 ⟨out₁, mid, out₂, hs, h, rfl⟩

theorem run_singleton_of_step {i : Nat} {t : Token} (hs : step stack t = some (out, rest)) :
    run i stack [t] = .ok (out, rest) := by
  have hnil : run (i + 1) rest [] = .ok ([], rest) := rfl
  have h := run_cons_of_step hs hnil
  rwa [List.append_nil] at h

theorem run_append_of_run {i : Nat} {ts us out₁ out₂ : List Token} {mid : List Pending}
    (h₁ : run i stack ts = .ok (out₁, mid)) (h₂ : run (i + ts.length) mid us = .ok (out₂, rest)) :
    run i stack (ts ++ us) = .ok (out₁ ++ out₂, rest) := by
  rw [run_append, h₁]
  simp only [bind, Except.bind, h₂]
  rfl

/-- Operators that bind before `o` are taken off, and nothing below them if `o` takes nothing off there. -/
theorem popBefore_append {o : Operator} {ops : List Operator} (hops : ∀ p ∈ ops, p.bindsBefore o = true)
    (hstack : popBefore o stack = ([], stack)) :
    popBefore o (ops.map .op ++ stack) = (ops.map .op, stack) := by
  induction ops with
  | nil => exact hstack
  | cons p ops ih =>
    rw [List.forall_mem_cons] at hops
    rw [List.map_cons, List.cons_append, popBefore, if_pos hops.1, ih hops.2]
    rfl

theorem closeGroup_append {above : List Pending} (h : openings above = 0) (below : List Pending) :
    closeGroup (above ++ .opening :: below) =
      (closeGroup (.opening :: below)).map fun p => (waiting above ++ p.1, p.2) := by
  induction above with
  | nil => simp
  | cons p above ih =>
    cases p with
    | op o =>
      rw [openings_op] at h
      show (closeGroup (above ++ .opening :: below)).map _ = _
      rw [ih h, Option.map_map]
      rfl
    | fn f =>
      rw [openings_fn] at h
      show (closeGroup (above ++ .opening :: below)).map _ = _
      rw [ih h, Option.map_map]
      rfl
    | opening => simp at h

theorem closeGroup_call {above : List Pending} (h : openings above = 0) (f : Func) (below : List Pending) :
    closeGroup (above ++ .opening :: .fn f :: below) = some (waiting above ++ [.fn f], below) := by
  rw [closeGroup_append h]
  rfl

theorem closeGroup_mark {above below : List Pending} (h : openings above = 0)
    (hbelow : ∀ f rest, below ≠ .fn f :: rest) :
    closeGroup (above ++ .opening :: below) = some (waiting above, below) := by
  rw [closeGroup_append h]
  rcases below with _ | ⟨_ | f | _, below⟩
  · simp [closeGroup]
  · simp [closeGroup]
  · exact absurd rfl (hbelow f below)
  · simp [closeGroup]

@[simp] theorem waiting_map_op (ops : List Operator) : waiting (ops.map .op) = ops.map .op := by
  induction ops with
  | nil => rfl
  | cons o ops ih => simp [ih]

@[simp] theorem openings_append (above below : List Pending) :
    openings (above ++ below) = openings above + openings below := List.count_append

@[simp] theorem openings_map_op (ops : List Operator) : openings (ops.map .op) = 0 := by
  induction ops with
  | nil => rfl
  | cons o ops ih => simpa using ih

end Postfix

open Postfix

/-- What reading `ts` in front of the stack leads to: the listing of `t` has been put out but for what
waits above the stack. A closed scope leaves only operators of its own. -/
def Reaches (i : Nat) (stack : List Pending) (closed : Bool) (ops : List Operator) (ts : List Token)
    (t : Tree) : Prop :=
  ∃ out above, run i stack ts = .ok (out, above ++ stack) ∧ openings above = 0 ∧
    out ++ waiting above = t.postorder ∧
    (closed = true → ∃ left : List Operator, above = left.map .op ∧ ∀ o ∈ left, o ∈ ops)

theorem Scope.run {closed : Bool} {ops : List Operator} {ts : List Token} {t : Tree}
    (h : Scope closed ops ts t) (i : Nat) (stack : List Pending)
    (hstack : ∀ o ∈ ops, popBefore o stack = ([], stack))
    (hfn : ∀ f rest, stack = .fn f :: rest → ∀ s ∈ ts.head?, s.isOpening = false) :
    Reaches i stack closed ops ts t := by
  induction h generalizing i stack with
  | num x => exact ⟨[.num x], [], rfl, rfl, rfl, fun _ => ⟨[], rfl, by simp⟩⟩
  | var n => exact ⟨[.var n], [], rfl, rfl, rfl, fun _ => ⟨[], rfl, by simp⟩⟩
  | @group closed ops ts t l r h ih =>
    obtain ⟨out, above, hr, ho, hw, -⟩ := ih (i + 1) (.opening :: stack) (fun _ _ => rfl) (by simp)
    refine ⟨t.postorder, [], ?_, rfl, by simp, fun _ => ⟨[], rfl, by simp⟩⟩
    have hopen : step stack (.bracket ⟨l, .opening⟩) = some ([], .opening :: stack) := rfl
    have hfn' : ∀ f rest, stack ≠ .fn f :: rest := fun f rest hs => by
      have hno := hfn f rest hs _ rfl
      cases hno
    have hclose : step (above ++ .opening :: stack) (.bracket ⟨r, .closing⟩) = some (waiting above, stack) :=
      closeGroup_mark ho hfn'
    have hall := run_cons_of_step hopen (run_append_of_run hr (run_singleton_of_step hclose))
    rw [hw] at hall
    exact hall
  | @call closed ops ts t f l r h ih =>
    obtain ⟨out, above, hr, ho, hw, -⟩ :=
      ih (i + 1 + 1) (.opening :: .fn f :: stack) (fun _ _ => rfl) (by simp)
    refine ⟨t.postorder ++ [.fn f], [], ?_, rfl, by simp [Tree.postorder], fun _ => ⟨[], rfl, by simp⟩⟩
    have hpush : step stack (.fn f) = some ([], .fn f :: stack) := rfl
    have hopen : step (.fn f :: stack) (.bracket ⟨l, .opening⟩) = some ([], .opening :: .fn f :: stack) := rfl
    have hclose : step (above ++ .opening :: .fn f :: stack) (.bracket ⟨r, .closing⟩) =
        some (waiting above ++ [.fn f], stack) := closeGroup_call ho f stack
    have hall := run_cons_of_step hpush
      (run_cons_of_step hopen (run_append_of_run hr (run_singleton_of_step hclose)))
    rw [← List.append_assoc out, hw] at hall
    exact hall
  | @bare closed ops ts t f h hne ih =>
    obtain ⟨out, above, hr, ho, hw, -⟩ := ih (i + 1) (.fn f :: stack) (fun _ _ => rfl) (fun _ _ _ => hne)
    refine ⟨out, above ++ [.fn f], ?_, by simp [ho], ?_, by simp⟩
    · have hpush : step stack (.fn f) = some ([], .fn f :: stack) := rfl
      rw [List.append_assoc]
      exact run_cons_of_step hpush hr
    · rw [waiting_append, ← List.append_assoc, hw]
      rfl
  | @join closed ps qs ls rs l r o hl hr hps hqs ihl ihr =>
    obtain ⟨out₁, _, hr₁, -, hw₁, hown⟩ := ihl i stack (fun p hp => hstack p (by simp [hp])) fun f rest hf s hs =>
      hfn f rest hf s (by rw [List.head?_append, hs]; rfl)
    obtain ⟨left, rfl, hleft⟩ := hown rfl
    have hpop : popBefore o (left.map .op ++ stack) = (left.map .op, stack) :=
      popBefore_append (fun p hp => Operator.yields_left_iff.1 (hps p (hleft p hp))) (hstack o (by simp))
    have hop : step (left.map .op ++ stack) (.op o) = some (left.map .op, .op o :: stack) := by
      simp only [step, hpop]
    -- `o` stays below the operators to its right
    have hkeep : ∀ q ∈ qs, popBefore q (.op o :: stack) = ([], .op o :: stack) := by
      intro q hq
      rw [popBefore, if_neg]
      rw [Operator.yields_right_iff.1 (hqs q hq)]
      simp
    obtain ⟨out₂, above, hr₂, ho₂, hw₂, hright⟩ := ihr (i + ls.length + 1) (.op o :: stack) hkeep (by simp)
    have hall := run_append_of_run hr₁ (run_cons_of_step hop hr₂)
    refine ⟨_, above ++ [.op o], by simpa using hall, by simp [ho₂], ?_, fun hc => ?_⟩
    · rw [waiting_map_op] at hw₁
      simp [Tree.postorder, ← hw₁, ← hw₂]
    · obtain ⟨left₂, rfl, hsub⟩ := hright hc
      refine ⟨left₂ ++ [o], by simp, fun q hq => ?_⟩
      rcases List.mem_append.1 hq with hq | hq
      · simp [hsub q hq]
      · rw [List.mem_singleton.1 hq]; simp

/-- Converting an infix expression gives the listing of its tree. -/
theorem toPostfix_of_denotes {ts : List Token} {t : Tree} (h : Denotes ts t) :
    toPostfix ts = .ok t.postorder := by
  obtain ⟨closed, ops, hs⟩ := h
  obtain ⟨out, above, hr, ho, hw, -⟩ := hs.run 0 [] (fun _ _ => rfl) (by simp)
  rw [List.append_nil] at hr
  exact toPostfix_eq_ok.2 ⟨out, above, hr, ho, hw⟩

/-- An infix expression has one tree only. -/
theorem Denotes.unique {ts : List Token} {t u : Tree} (ht : Denotes ts t) (hu : Denotes ts u) : t = u := by
  have h := toPostfix_of_denotes ht
  rw [toPostfix_of_denotes hu] at h
  exact (Tree.postorder_injective (by simpa using h)).symm

end Reckon
