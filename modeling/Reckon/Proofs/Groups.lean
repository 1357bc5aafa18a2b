import Reckon.Proofs.Balance
import Reckon.Proofs.Inlining

/-!
# Groups as operands

A group between brackets is converted like one operand: what its tokens put out alone stands for it. If a function
waits in front of it, the group takes the function with it. That is so exactly if the function has only finished
operands behind it (`Postfix.LeftBy` follows how the tokens read came to lie on the stack), so it can be seen from
the tokens which of the two happens (`toPostfix_group_eq_operand`).
-/

namespace Reckon

open Token Postfix

theorem balanced_singleton {t : Token} (h : t.isBracket = false) : Balanced isOpening isClosing [t] := by
  have hcount : [t].countP isOpening = 0 ∧ [t].countP isClosing = 0 := by
    cases t with
    | bracket b => cases h
    | _ => exact ⟨rfl, rfl⟩
  refine ⟨fun n => ?_, by rw [hcount.1, hcount.2]⟩
  rcases n with _ | n
  · exact Nat.le_refl 0
  · rw [List.take_succ_cons, List.take_nil, hcount.1, hcount.2]

theorem balanced_group {us : List Token} (h : Balanced isOpening isClosing us) (l r : BracketShape) :
    Balanced isOpening isClosing (group l r us) := by
  have hempty : Balanced isOpening isClosing ([.bracket ⟨l, .opening⟩] ++ [.bracket ⟨r, .closing⟩]) := by
    refine ⟨fun n => ?_, by simp [isOpening, isClosing]⟩
    rcases n with _ | _ | n <;> simp [isOpening, isClosing]
  exact (balanced_insert_iff h _ _).2 hempty

/-- Finished operands one behind the other: numbers, variables, and functions that each have a group of their own
behind finished operands. -/
inductive Finished : List Token → Prop
  | nil : Finished []
  | num (x : Float) {ts : List Token} : Finished ts → Finished (.num x :: ts)
  | var (n : String) {ts : List Token} : Finished ts → Finished (.var n :: ts)
  | call (f : Func) (l r : BracketShape) {ms us ts : List Token} : Finished ms → Balanced isOpening isClosing us →
      Finished ts → Finished (.fn f :: (ms ++ (group l r us ++ ts)))

namespace Finished

variable {ms ts : List Token}

theorem append (hm : Finished ms) (ht : Finished ts) : Finished (ms ++ ts) := by
  induction hm with
  | nil => exact ht
  | num x _ ih => exact .num x ih
  | var n _ ih => exact .var n ih
  | call f l r hm hu _ _ ih =>
    rw [List.cons_append, List.append_assoc, List.append_assoc]
    exact .call f l r hm hu ih

theorem balanced (h : Finished ms) : Balanced isOpening isClosing ms := by
  induction h with
  | nil => exact ⟨fun n => by simp, rfl⟩
  | num x _ ih => exact (balanced_singleton rfl).append ih
  | var n _ ih => exact (balanced_singleton rfl).append ih
  | call f l r _ hu _ ihm iht => exact (balanced_singleton rfl).append (ihm.append ((balanced_group hu l r).append iht))

/-- Finished operands leave any stack as it was. -/
theorem exists_run (h : Finished ms) : ∃ out, ∀ i stack, run i stack ms = .ok (out, stack) := by
  induction h with
  | nil => exact ⟨[], fun _ _ => rfl⟩
  | num x _ ih =>
    obtain ⟨out, hr⟩ := ih
    exact ⟨[.num x] ++ out, fun i stack => run_cons_of_step rfl (hr (i + 1) stack)⟩
  | var n _ ih =>
    obtain ⟨out, hr⟩ := ih
    exact ⟨[.var n] ++ out, fun i stack => run_cons_of_step rfl (hr (i + 1) stack)⟩
  | @call f l r ms us ts _ hu _ ihm iht =>
    obtain ⟨out₁, hm⟩ := ihm
    obtain ⟨vs, hvs⟩ := exists_toPostfix_eq_ok_iff.2 hu
    obtain ⟨out₂, ht⟩ := iht
    refine ⟨out₁ ++ (vs ++ [.fn f] ++ out₂), fun i stack => ?_⟩
    have hpush : step stack (.fn f) = some ([], .fn f :: stack) := rfl
    have hgroup := run_append_of_run (run_group_call hvs (i + 1 + ms.length) l r f stack) (ht _ stack)
    have hall := run_cons_of_step hpush (run_append_of_run (hm (i + 1) (.fn f :: stack)) hgroup)
    exact hall

end Finished

namespace Postfix

variable {stack rest : List Pending} {ts us out : List Token}

/-- How the tokens read came to lie on the stack. Behind a function that waits, there are finished operands only;
behind the mark of a group or an operator, everything is balanced. -/
def LeftBy : List Pending → List Token → Prop
  | [], _ => True
  | .op _ :: stack, ts => ∃ before behind, ts = before ++ behind ∧ Balanced isOpening isClosing behind ∧
      LeftBy stack before
  | .fn f :: stack, ts => ∃ before behind, ts = before ++ .fn f :: behind ∧ Finished behind ∧ LeftBy stack before
  | .opening :: stack, ts => ∃ before l behind, ts = before ++ .bracket ⟨l, .opening⟩ :: behind ∧
      Balanced isOpening isClosing behind ∧ LeftBy stack before

theorem LeftBy.append_finished (h : LeftBy stack ts) (hu : Finished us) : LeftBy stack (ts ++ us) := by
  rcases stack with _ | ⟨o | f | _, stack⟩
  · trivial
  · obtain ⟨before, behind, rfl, hb, h⟩ := h
    exact ⟨before, behind ++ us, by simp, hb.append hu.balanced, h⟩
  · obtain ⟨before, behind, rfl, hb, h⟩ := h
    exact ⟨before, behind ++ us, by simp, hb.append hu, h⟩
  · obtain ⟨before, l, behind, rfl, hb, h⟩ := h
    exact ⟨before, l, behind ++ us, by simp, hb.append hu.balanced, h⟩

theorem LeftBy.append_balanced (h : LeftBy stack ts) (hu : Balanced isOpening isClosing us)
    (hstack : ∀ f rest, stack ≠ .fn f :: rest) : LeftBy stack (ts ++ us) := by
  rcases stack with _ | ⟨o | f | _, stack⟩
  · trivial
  · obtain ⟨before, behind, rfl, hb, h⟩ := h
    exact ⟨before, behind ++ us, by simp, hb.append hu, h⟩
  · exact absurd rfl (hstack f stack)
  · obtain ⟨before, l, behind, rfl, hb, h⟩ := h
    exact ⟨before, l, behind ++ us, by simp, hb.append hu, h⟩

theorem LeftBy.popBefore (o : Operator) (h : LeftBy stack ts) :
    ∃ before behind, ts = before ++ behind ∧ Balanced isOpening isClosing behind ∧
      LeftBy (Postfix.popBefore o stack).2 before := by
  fun_induction Postfix.popBefore o stack generalizing ts with
  | case1 p stack hp out rest he ih =>
    obtain ⟨before, behind, rfl, hb, h⟩ := h
    obtain ⟨front, middle, rfl, hm, h⟩ := ih h
    rw [he] at h
    exact ⟨front, middle ++ behind, by simp, hm.append hb, h⟩
  | case2 p stack hp => exact ⟨ts, [], by simp, Finished.nil.balanced, h⟩
  | case3 stack hs => exact ⟨ts, [], by simp, Finished.nil.balanced, h⟩

/-- A closing bracket behind `us` makes a group of what lies above the innermost mark, and of `us`. -/
theorem LeftBy.closeGroup (r : BracketShape) (h : LeftBy stack ts) (hu : Balanced isOpening isClosing us)
    (hc : Postfix.closeGroup stack = some (out, rest)) : LeftBy rest (ts ++ (us ++ [.bracket ⟨r, .closing⟩])) := by
  fun_induction Postfix.closeGroup stack generalizing ts us out with
  | case1 => cases hc
  | case2 f stack =>
    cases hc
    obtain ⟨_, l, behind, rfl, hb, before, ms, rfl, hm, h⟩ := h
    have hcall := h.append_finished (.call f l r hm (hb.append hu) .nil)
    simpa [group] using hcall
  | case3 stack hs =>
    cases hc
    obtain ⟨before, l, behind, rfl, hb, h⟩ := h
    have hgroup := h.append_balanced (balanced_group (hb.append hu) l r) fun f rest he => hs f rest he
    simpa [group] using hgroup
  | case4 o stack ih =>
    obtain ⟨⟨out', rest'⟩, hc', he⟩ := Option.map_eq_some_iff.1 hc
    cases he
    obtain ⟨before, behind, rfl, hb, h⟩ := h
    have hin := ih h (hb.append hu) hc'
    simpa using hin
  | case5 f stack ih =>
    obtain ⟨⟨out', rest'⟩, hc', he⟩ := Option.map_eq_some_iff.1 hc
    cases he
    obtain ⟨before, behind, rfl, hb, h⟩ := h
    have hf : Balanced isOpening isClosing [.fn f] := balanced_singleton rfl
    have hin := ih h (hf.append (hb.balanced.append hu)) hc'
    simpa using hin

theorem LeftBy.step {t : Token} (h : LeftBy stack ts) (hs : Postfix.step stack t = some (out, rest)) :
    LeftBy rest (ts ++ [t]) := by
  cases t with
  | num x => cases hs; exact h.append_finished (.num x .nil)
  | var n => cases hs; exact h.append_finished (.var n .nil)
  | fn f => cases hs; exact ⟨ts, [], rfl, .nil, h⟩
  | op o =>
    cases hs
    obtain ⟨before, behind, rfl, hb, h⟩ := h.popBefore o
    exact ⟨before, behind ++ [.op o], by simp, hb.append (balanced_singleton rfl), h⟩
  | bracket b =>
    obtain ⟨shape, side⟩ := b
    cases side with
    | opening => cases hs; exact ⟨ts, shape, [], rfl, Finished.nil.balanced, h⟩
    | closing => exact h.closeGroup shape Finished.nil.balanced hs

theorem LeftBy.run {i : Nat} (h : LeftBy stack ts) (hr : Postfix.run i stack us = .ok (out, rest)) :
    LeftBy rest (ts ++ us) := by
  induction us generalizing i stack ts out with
  | nil => cases hr; rwa [List.append_nil]
  | cons u us ih =>
    obtain ⟨out₁, mid, out₂, hs, htail, rfl⟩ := run_cons_eq_ok.1 hr
    have hin := ih (h.step hs) htail
    rwa [List.append_assoc] at hin

/-- A function with finished operands behind it waits on top of what is there without it. -/
theorem exists_run_append_finished {i : Nat} {p behind : List Token} (h : Postfix.run i [] p = .ok (out, stack))
    (hb : Finished behind) (f : Func) : ∃ out', Postfix.run i [] (p ++ behind) = .ok (out', stack) ∧
      Postfix.run i [] (p ++ .fn f :: behind) = .ok (out', .fn f :: stack) := by
  obtain ⟨out₂, hfinished⟩ := hb.exists_run
  have hpush : Postfix.step stack (.fn f) = some ([], .fn f :: stack) := rfl
  exact ⟨out ++ out₂, run_append_of_run h (hfinished _ _),
    run_append_of_run h (run_cons_of_step hpush (hfinished _ _))⟩

/-- And such a function only waits on top of the stack, so that the tokens show whether one does. -/
theorem functionWaits_iff : FunctionWaits [] ts ↔ (∃ p, Postfix.run 0 [] ts = .ok p) ∧
    ∃ before f behind, ts = before ++ .fn f :: behind ∧ Finished behind := by
  constructor
  · rintro ⟨i, out, f, rest, h⟩
    have hstart : LeftBy [] [] := trivial
    obtain ⟨before, behind, he, hb, -⟩ := hstart.run h
    exact ⟨⟨_, run_index h⟩, before, f, behind, he, hb⟩
  · rintro ⟨⟨p, hp⟩, before, f, behind, rfl, hb⟩
    cases hr : Postfix.run 0 [] before with
    | error e =>
      have hnone := congrArg Except.toOption hp
      rw [toOption_run_append, hr] at hnone
      cases hnone
    | ok q =>
      obtain ⟨out, -, hwaits⟩ := exists_run_append_finished hr hb f
      exact ⟨0, out, f, q.2, hwaits⟩

/-! ### Converting from a stack on -/

/-- What is put out from this stack on, unless a bracket stands in the way. -/
def complete? (stack : List Pending) (ts : List Token) : Option (List Token) :=
  (run 0 stack ts).toOption.bind fun p => if openings p.2 = 0 then some (p.1 ++ waiting p.2) else none

theorem toOption_run_index (i j : Nat) (stack : List Pending) (ts : List Token) :
    (run i stack ts).toOption = (run j stack ts).toOption := by
  cases hi : run i stack ts with
  | ok p => rw [run_index hi]
  | error e =>
    cases hj : run j stack ts with
    | ok p => rw [run_index hj] at hi; cases hi
    | error e' => rfl

theorem complete?_append {i : Nat} {mid : List Pending} (h : run i stack ts = .ok (out, mid)) (us : List Token) :
    complete? stack (ts ++ us) = (complete? mid us).map (out ++ ·) := by
  rw [complete?, complete?, toOption_run_append, run_index h]
  show ((run (0 + ts.length) mid us).toOption.map fun q => (out ++ q.1, q.2)).bind _ = _
  rw [toOption_run_index _ 0, Option.bind_map, Option.map_bind]
  congr 1
  funext p
  by_cases ho : openings p.2 = 0 <;> simp [ho]

theorem complete?_append_of_error {i : Nat} {e : GroupError} (h : run i stack ts = .error e) (us : List Token) :
    complete? stack (ts ++ us) = none := by
  rw [complete?, toOption_run_append, toOption_run_index 0 i, h]
  rfl

theorem var_notMem_of_run {i : Nat} {n : String} (h : run i stack ts = .ok (out, rest)) (hn : .var n ∉ ts) :
    .var n ∉ out ++ waiting rest := by
  intro hmem
  rcases List.mem_append.1 ((perm_run h).mem_iff.1 hmem) with hmem | hmem
  · exact hn (List.mem_filter.1 hmem).1
  · exact var_notMem_waiting n stack hmem

theorem var_notMem_of_complete? {n : String} (h : complete? stack ts = some out) (hn : .var n ∉ ts) :
    .var n ∉ out := by
  obtain ⟨⟨first, rest⟩, hr, hout⟩ := Option.bind_eq_some_iff.1 h
  cases hrun : run 0 stack ts with
  | error e => rw [hrun] at hr; cases hr
  | ok p =>
    rw [hrun] at hr
    cases hr
    split at hout
    · cases hout
      exact var_notMem_of_run hrun hn
    · cases hout

/-- What is put out with a variable in the middle, once it is replaced. -/
theorem map_replace_complete? {x : String} {vs q : List Token} (hout : .var x ∉ out) (hq : .var x ∉ q)
    (stack : List Pending) : ((complete? stack (.var x :: q)).map (out ++ ·)).map (replace x vs) =
      ((complete? stack q).map (vs ++ ·)).map (out ++ ·) := by
  have hvar : run 0 stack [.var x] = .ok ([.var x], stack) := rfl
  have hcons : complete? stack (.var x :: q) = (complete? stack q).map (.var x :: ·) := complete?_append hvar q
  rw [hcons]
  cases hrest : complete? stack q with
  | none => rfl
  | some rest =>
    show some (replace x vs (out ++ .var x :: rest)) = some (out ++ (vs ++ rest))
    rw [replace_append, replace_cons_var, replace_eq_self hout, replace_eq_self (var_notMem_of_complete? hrest hq)]

end Postfix

section Context

variable {p q us vs : List Token} {x : String}

/-- Without a function that waits the group is put out where the variable would be. -/
theorem toPostfix_group_of_not_waiting (hu : toPostfix us = .ok vs) (hp : .var x ∉ p) (hq : .var x ∉ q)
    (l r : BracketShape) (hfn : ∀ before f behind, p = before ++ .fn f :: behind → ¬Finished behind) :
    (toPostfix (p ++ (group l r us ++ q))).toOption = (toPostfix (p ++ .var x :: q)).toOption.map (replace x vs) := by
  rw [toOption_toPostfix, toOption_toPostfix, ← complete?, ← complete?]
  cases hrun : run 0 [] p with
  | error e => rw [complete?_append_of_error hrun, complete?_append_of_error hrun]; rfl
  | ok pair =>
    obtain ⟨out, stack⟩ := pair
    have hstack : ∀ f rest, stack ≠ .fn f :: rest := by
      rintro f rest rfl
      obtain ⟨-, before, g, behind, he, hb⟩ := functionWaits_iff.1 ⟨0, out, f, rest, hrun⟩
      exact hfn before g behind he hb
    have hout := fun hmem => var_notMem_of_run hrun hp (List.mem_append_left _ hmem)
    rw [complete?_append hrun, complete?_append hrun, complete?_append (run_group hu 0 l r hstack),
      map_replace_complete? hout hq]

/-- A function that waits is put out behind the group. -/
theorem toPostfix_group_of_waiting (hu : toPostfix us = .ok vs) {behind : List Token} (hb : Finished behind)
    (hp : .var x ∉ p ++ behind) (hq : .var x ∉ q) (f : Func) (l r : BracketShape) :
    (toPostfix (p ++ .fn f :: behind ++ (group l r us ++ q))).toOption =
      (toPostfix (p ++ behind ++ .var x :: q)).toOption.map (replace x (vs ++ [.fn f])) := by
  rw [toOption_toPostfix, toOption_toPostfix, ← complete?, ← complete?]
  cases hrun : run 0 [] p with
  | error e =>
    rw [List.append_assoc, complete?_append_of_error hrun, List.append_assoc, complete?_append_of_error hrun]
    rfl
  | ok pair =>
    obtain ⟨out₁, stack⟩ := pair
    obtain ⟨out, hwithout, hwaits⟩ := exists_run_append_finished hrun hb f
    have hout := fun hmem => var_notMem_of_run hwithout hp (List.mem_append_left _ hmem)
    rw [complete?_append hwaits, complete?_append hwithout, complete?_append (run_group_call hu 0 l r f stack),
      map_replace_complete? hout hq]

/-- A group between brackets is one operand in every context, and so may be a variable `x` of its own. Let `vs` be
what the tokens of the group put out alone. If a function in front has nothing but finished operands behind it, the
group takes it: then `vs` and the function are put out where without the function `x` would be. If there is no such
function, `vs` is put out where `x` would be. And with the group the brackets balance exactly if they do with `x`. -/
theorem toPostfix_group_eq_operand {p q us : List Token} {x : String} (hu : Balanced isOpening isClosing us)
    (hp : .var x ∉ p) (hq : .var x ∉ q) (l r : BracketShape) :
    ∃ vs, toPostfix us = .ok vs ∧
      ((∀ before f behind, p = before ++ .fn f :: behind → ¬Finished behind) →
        (toPostfix (p ++ (group l r us ++ q))).toOption =
          (toPostfix (p ++ .var x :: q)).toOption.map (replace x vs)) ∧
      (∀ before f behind, p = before ++ .fn f :: behind → Finished behind →
        (toPostfix (p ++ (group l r us ++ q))).toOption =
          (toPostfix (before ++ behind ++ .var x :: q)).toOption.map (replace x (vs ++ [.fn f]))) ∧
      ((∃ e, toPostfix (p ++ (group l r us ++ q)) = .error e) ↔ ∃ e, toPostfix (p ++ .var x :: q) = .error e) := by
  obtain ⟨vs, hvs⟩ := exists_toPostfix_eq_ok_iff.2 hu
  refine ⟨vs, hvs, toPostfix_group_of_not_waiting hvs hp hq l r, ?_, ?_⟩
  · rintro before f behind rfl hb
    have hfront : .var x ∉ before ++ behind := by simpa using hp
    exact toPostfix_group_of_waiting hvs hb hfront hq f l r
  · have hx : Balanced isOpening isClosing [.var x] := balanced_singleton rfl
    have hvar := balanced_insert_iff hx p q
    rw [exists_toPostfix_eq_error_iff, exists_toPostfix_eq_error_iff, balanced_insert_iff (balanced_group hu l r) p q]
    exact not_congr hvar.symm

/-- Nothing here is well-formed: `{sqrt 1 sin[2] (3-} ^}`, where the group `(3-}` takes `sqrt` with it. -/
theorem toPostfix_group_eq_operand_behind_call :
    let us : List Token := [.num 3, .op .sub]
    let behind : List Token := [.num 1, .fn .sin, .bracket ⟨.square, .opening⟩, .num 2, .bracket ⟨.square, .closing⟩]
    let p : List Token := .bracket ⟨.curly, .opening⟩ :: .fn .sqrt :: behind
    let q : List Token := [.op .pow, .bracket ⟨.curly, .closing⟩]
    Balanced isOpening isClosing us ∧ .var "x" ∉ p ∧ .var "x" ∉ q ∧ Finished behind ∧
      ∃ vs, toPostfix us = .ok vs ∧ (toPostfix (p ++ (group .round .curly us ++ q))).toOption =
        (toPostfix ([.bracket ⟨.curly, .opening⟩] ++ behind ++ .var "x" :: q)).toOption.map
          (replace "x" (vs ++ [.fn .sqrt])) := by
  intro us behind p q
  have hu : Balanced isOpening isClosing us := exists_toPostfix_eq_ok_iff.1 ⟨_, rfl⟩
  have hp : .var "x" ∉ p := by simp [p, behind]
  have hq : .var "x" ∉ q := by simp [q]
  have htwo : Balanced isOpening isClosing [.num 2] := balanced_singleton rfl
  have hb : Finished behind := .num 1 (.call .sin .square .square .nil htwo .nil)
  obtain ⟨vs, hvs, -, hwaits, -⟩ := toPostfix_group_eq_operand hu hp hq .round .curly
  exact ⟨hu, hp, hq, hb, vs, hvs, hwaits [.bracket ⟨.curly, .opening⟩] .sqrt behind rfl hb⟩

/-- That no function stands directly in front is not enough: `abs 1 (2) + 3` puts out the function behind the group,
`abs 1 x + 3` at the end. -/
theorem group_ne_operand_behind_number :
    let p : List Token := [.fn .abs, .num 1]
    let q : List Token := [.op .add, .num 3]
    let us : List Token := [.num 2]
    (∀ before f, p ≠ before ++ [.fn f]) ∧ Balanced isOpening isClosing us ∧
      .var "x" ∉ p ∧ .var "x" ∉ us ∧ .var "x" ∉ q ∧
      ∃ vs, toPostfix us = .ok vs ∧ (toPostfix (p ++ (group .round .round us ++ q))).toOption ≠
        (toPostfix (p ++ .var "x" :: q)).toOption.map (replace "x" vs) := by
  intro p q us
  have hu : Balanced isOpening isClosing us := exists_toPostfix_eq_ok_iff.1 ⟨_, rfl⟩
  refine ⟨fun before f h => ?_, hu, by simp [p], by simp [us], by simp [q], us, rfl, ?_⟩
  · have hlast := congrArg List.getLast? h
    simp [p] at hlast
  · have hgroup : toPostfix (p ++ (group .round .round us ++ q)) =
        .ok [.num 1, .num 2, .fn .abs, .num 3, .op .add] := rfl
    have hvar : toPostfix (p ++ .var "x" :: q) = .ok [.num 1, .var "x", .num 3, .op .add, .fn .abs] := rfl
    rw [hgroup, hvar]
    simp [Except.toOption, replace, us]

end Context

end Reckon
