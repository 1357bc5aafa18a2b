import Mathlib.Tactic.IntervalCases
import Reckon.Proofs.Conversion
import Reckon.Proofs.Juxtaposition

/-!
# Subexpressions in place of variables

A variable may be bound to the value of a subexpression, or the subexpression may stand in its place between
brackets. Converting treats the group as it treats the variable: it puts out what the subexpression alone
puts out and leaves the stack as it was (`Postfix.run_group`), unless a function waits on top of the stack,
which the closing bracket takes off. And the listing of the subexpression pushes its one value, as the
variable does. So both have one outcome wherever no function waits (`evaluate_inline_eq_bind`), for
ill-formed sequences too; that is so if the variable stands behind operators and opening brackets only
(`clearOfFunctions_of_previous`). That no function stands directly in front of it is not enough.
-/

namespace Reckon

/-- The tokens with `us` in the place of the variable `x`. -/
def Token.replace (x : String) (us : List Token) (ts : List Token) : List Token :=
  ts.flatMap fun t => if t = .var x then us else [t]

/-- The tokens between brackets. -/
def Token.group (l r : BracketShape) (us : List Token) : List Token :=
  .bracket ⟨l, .opening⟩ :: (us ++ [.bracket ⟨r, .closing⟩])

namespace Token

variable {x : String} {us : List Token}

theorem replace_append (ts ts' : List Token) : replace x us (ts ++ ts') = replace x us ts ++ replace x us ts' :=
  List.flatMap_append

theorem replace_cons_var (ts : List Token) : replace x us (.var x :: ts) = us ++ replace x us ts := by
  rw [replace, List.flatMap_cons, if_pos rfl, replace]

theorem replace_cons_of_ne {t : Token} (h : t ≠ .var x) (ts : List Token) :
    replace x us (t :: ts) = t :: replace x us ts := by
  rw [replace, List.flatMap_cons, if_neg h, replace]
  rfl

theorem replace_eq_self {ts : List Token} (h : .var x ∉ ts) : replace x us ts = ts := by
  induction ts with
  | nil => rfl
  | cons t ts ih =>
    rw [List.mem_cons, not_or] at h
    rw [replace_cons_of_ne (fun ht => h.1 ht.symm), ih h.2]

end Token

open Token

namespace Postfix

variable {stack rest below : List Pending} {out : List Token}

theorem var_notMem_waiting (n : String) (stack : List Pending) : .var n ∉ waiting stack := by
  induction stack with
  | nil => exact List.not_mem_nil
  | cons p stack ih => cases p <;> simp [ih]

/-- A step puts out a variable only if it reads it. -/
theorem var_notMem_of_step {t : Token} {n : String} (h : step stack t = some (out, rest)) (ht : t ≠ .var n) :
    .var n ∉ out := by
  intro hn
  rcases List.mem_append.1 ((perm_step h).mem_iff.1 (List.mem_append_left _ hn)) with hn | hn
  · exact ht (List.mem_singleton.1 (List.mem_filter.1 hn).1).symm
  · exact var_notMem_waiting n stack hn

/-! ### Groups -/

/-- The mark of a group keeps what is below it out of reach. -/
theorem popBefore_above (o : Operator) (stack below : List Pending) :
    popBefore o (stack ++ .opening :: below) =
      ((popBefore o stack).1, (popBefore o stack).2 ++ .opening :: below) := by
  fun_induction popBefore o stack with
  | case1 p stack hp out rest he ih => rw [List.cons_append, popBefore, if_pos hp, ih, he]
  | case2 p stack hp =>
    rw [List.cons_append, popBefore, if_neg hp]
  | case3 stack hs =>
    rcases stack with _ | ⟨_ | _ | _, stack⟩
    · rfl
    · exact absurd rfl (hs _ _)
    · rfl
    · rfl

theorem closeGroup_above (h : closeGroup stack = some (out, rest)) :
    closeGroup (stack ++ .opening :: below) = some (out, rest ++ .opening :: below) := by
  fun_induction closeGroup stack generalizing out with
  | case1 => cases h
  | case2 f stack => cases h; rfl
  | case3 stack hs =>
    cases h
    rcases rest with _ | ⟨_ | _ | _, rest⟩
    · rfl
    · rfl
    · exact absurd rfl (hs _ _)
    · rfl
  | case4 o stack ih =>
    obtain ⟨⟨out', rest'⟩, hc, he⟩ := Option.map_eq_some_iff.1 h
    cases he
    rw [List.cons_append, closeGroup, ih hc]
    rfl
  | case5 f stack ih =>
    obtain ⟨⟨out', rest'⟩, hc, he⟩ := Option.map_eq_some_iff.1 h
    cases he
    rw [List.cons_append, closeGroup, ih hc]
    rfl

theorem step_above {t : Token} (h : step stack t = some (out, rest)) :
    step (stack ++ .opening :: below) t = some (out, rest ++ .opening :: below) := by
  cases t with
  | num x => cases h; rfl
  | var n => cases h; rfl
  | fn f => cases h; rfl
  | op o =>
    cases h
    rw [step, popBefore_above]
    rfl
  | bracket b =>
    obtain ⟨shape, side⟩ := b
    cases side with
    | opening => cases h; rfl
    | closing => exact closeGroup_above h

theorem run_index {i j : Nat} {ts : List Token} (h : run i stack ts = .ok (out, rest)) :
    run j stack ts = .ok (out, rest) := by
  induction ts generalizing i j stack out with
  | nil => exact h
  | cons t ts ih =>
    obtain ⟨out₁, mid, out₂, hs, hr, rfl⟩ := run_cons_eq_ok.1 h
    exact run_cons_of_step hs (ih hr)

theorem run_above {i j : Nat} {ts : List Token} (h : run i stack ts = .ok (out, rest)) :
    run j (stack ++ .opening :: below) ts = .ok (out, rest ++ .opening :: below) := by
  induction ts generalizing i j stack out with
  | nil => cases h; rfl
  | cons t ts ih =>
    obtain ⟨out₁, mid, out₂, hs, hr, rfl⟩ := run_cons_eq_ok.1 h
    exact run_cons_of_step (step_above hs) (ih hr)

/-- A group puts out what its tokens alone put out, and what its closing bracket takes off in front of it. -/
theorem run_group_of_closeGroup {us vs : List Token} (hu : toPostfix us = .ok vs) (i : Nat) (l r : BracketShape)
    (hclose : closeGroup (.opening :: stack) = some (out, rest)) :
    run i stack (group l r us) = .ok (vs ++ out, rest) := by
  obtain ⟨first, left, hr, ho, rfl⟩ := toPostfix_eq_ok.1 hu
  have hopen : step stack (.bracket ⟨l, .opening⟩) = some ([], .opening :: stack) := rfl
  have hin : run (i + 1) (.opening :: stack) us = .ok (first, left ++ .opening :: stack) := run_above hr
  have hlast : step (left ++ .opening :: stack) (.bracket ⟨r, .closing⟩) = some (waiting left ++ out, rest) := by
    rw [step, closeGroup_append ho, hclose, Option.map_some]
  have hall := run_cons_of_step hopen (run_append_of_run hin (run_singleton_of_step hlast))
  rw [← List.append_assoc first] at hall
  exact hall

/-- If no function waits in front of it, it leaves the stack as it was. -/
theorem run_group {us vs : List Token} (hu : toPostfix us = .ok vs) (i : Nat) (l r : BracketShape)
    (hstack : ∀ f rest, stack ≠ .fn f :: rest) : run i stack (group l r us) = .ok (vs, stack) := by
  have hclose : closeGroup (.opening :: stack) = some ([], stack) := closeGroup_mark openings_nil hstack
  have hall := run_group_of_closeGroup hu i l r hclose
  rwa [List.append_nil] at hall

/-- Else it takes the function with it. -/
theorem run_group_call {us vs : List Token} (hu : toPostfix us = .ok vs) (i : Nat) (l r : BracketShape) (f : Func)
    (stack : List Pending) : run i (.fn f :: stack) (group l r us) = .ok (vs ++ [.fn f], stack) :=
  run_group_of_closeGroup hu i l r rfl

theorem toOption_run_cons (i : Nat) (stack : List Pending) (t : Token) (ts : List Token) :
    (run i stack (t :: ts)).toOption = (step stack t).bind fun p =>
      (run (i + 1) p.2 ts).toOption.map fun q => (p.1 ++ q.1, q.2) := by
  rw [run]
  cases step stack t with
  | none => rfl
  | some p =>
    show ((run (i + 1) p.2 ts).map fun q => (p.1 ++ q.1, q.2)).toOption =
      (run (i + 1) p.2 ts).toOption.map fun q => (p.1 ++ q.1, q.2)
    cases run (i + 1) p.2 ts <;> rfl

theorem toOption_run_append (i : Nat) (stack : List Pending) (ts us : List Token) :
    (run i stack (ts ++ us)).toOption = (run i stack ts).toOption.bind fun p =>
      (run (i + ts.length) p.2 us).toOption.map fun q => (p.1 ++ q.1, q.2) := by
  rw [run_append]
  cases run i stack ts with
  | error e => rfl
  | ok p =>
    show (run (i + ts.length) p.2 us >>= fun q => pure (p.1 ++ q.1, q.2)).toOption =
      (run (i + ts.length) p.2 us).toOption.map fun q => (p.1 ++ q.1, q.2)
    cases run (i + ts.length) p.2 us <;> rfl

/-! ### Replacing in what is converted -/

/-- After these tokens a function waits on top of the stack. -/
def FunctionWaits (stack : List Pending) (ts : List Token) : Prop :=
  ∃ i out f rest, run i stack ts = .ok (out, .fn f :: rest)

/-- Whenever `x` is read, no function waits on top of the stack. -/
def ClearOfFunctions (x : String) (stack : List Pending) (ts : List Token) : Prop :=
  ∀ before behind, ts = before ++ .var x :: behind → ¬FunctionWaits stack before

variable {x : String} {us vs ts : List Token} {i j : Nat}

theorem clearOfFunctions_nil : ClearOfFunctions x stack [] := by
  rintro before behind h
  cases before <;> cases h

theorem clearOfFunctions_cons {t : Token} : ClearOfFunctions x stack (t :: ts) ↔
    (t = .var x → ∀ f rest, stack ≠ .fn f :: rest) ∧
      ∀ out mid, step stack t = some (out, mid) → ClearOfFunctions x mid ts := by
  constructor
  · intro h
    refine ⟨?_, ?_⟩
    · rintro rfl f rest rfl
      exact h [] ts rfl ⟨0, [], f, rest, rfl⟩
    · rintro out mid hs before behind rfl ⟨i, out', f, rest, hr⟩
      exact h (t :: before) behind rfl ⟨i, out ++ out', f, rest, run_cons_of_step hs (run_index hr)⟩
  · rintro ⟨htop, htail⟩ before behind he ⟨i, out, f, rest, hr⟩
    cases before with
    | nil =>
      cases he
      cases hr
      exact htop rfl f rest rfl
    | cons s before =>
      cases he
      obtain ⟨out₁, mid, out₂, hs, htop', rfl⟩ := run_cons_eq_ok.1 hr
      exact htail out₁ mid hs before behind rfl ⟨i + 1, out₂, f, rest, htop'⟩

/-- No function waits behind an operator or an opening bracket. -/
theorem isFunction_or_endsOperand_of_functionWaits {before : List Token} {t : Token}
    (h : FunctionWaits stack (before ++ [t])) : t.isFunction ∨ t.endsOperand := by
  obtain ⟨i, out, f, rest, hr⟩ := h
  have hrun := congrArg Except.toOption hr
  rw [toOption_run_append] at hrun
  obtain ⟨⟨out₁, mid⟩, -, hlast⟩ := Option.bind_eq_some_iff.1 hrun
  obtain ⟨⟨out₂, last⟩, hstep, he⟩ := Option.map_eq_some_iff.1 hlast
  cases he
  cases t with
  | num y => exact .inr rfl
  | var n => exact .inr rfl
  | fn g => exact .inl rfl
  | op o => cases hstep
  | bracket b =>
    obtain ⟨shape, side⟩ := b
    cases side with
    | opening => cases hstep
    | closing => exact .inr rfl

/-- So nothing waits if each `x` is the first token or stands behind an operator or an opening bracket. -/
theorem clearOfFunctions_of_previous
    (h : ∀ before behind, ts = before ++ .var x :: behind → ∀ t ∈ before.getLast?, ¬t.isFunction ∧ ¬t.endsOperand) :
    ClearOfFunctions x [] ts := by
  intro before behind he hwaits
  rcases List.eq_nil_or_concat' before with rfl | ⟨front, t, rfl⟩
  · obtain ⟨i, out, f, rest, hr⟩ := hwaits
    cases hr
  · obtain ⟨hfunction, hoperand⟩ := h _ behind he t (by simp)
    rcases isFunction_or_endsOperand_of_functionWaits hwaits with ht | ht
    · exact hfunction ht
    · exact hoperand ht

/-- With a group in the place of a variable a run leaves the same stack, and puts out the listing of the
group in the place of the variable. -/
theorem run_replace (hu : toPostfix us = .ok vs) (l r : BracketShape) (hx : ClearOfFunctions x stack ts) :
    (run j stack (replace x (group l r us) ts)).toOption =
      (run i stack ts).toOption.map fun p => (replace x vs p.1, p.2) := by
  induction ts generalizing i j stack with
  | nil => rfl
  | cons t ts ih =>
    by_cases ht : t = .var x
    · subst ht
      have hs : step stack (.var x) = some ([.var x], stack) := rfl
      have hgroup : run j stack (group l r us) = .ok (vs, stack) :=
        run_group hu j l r ((clearOfFunctions_cons.1 hx).1 rfl)
      have htail := ih (i := i + 1) (j := j + (group l r us).length) ((clearOfFunctions_cons.1 hx).2 _ _ hs)
      rw [replace_cons_var, toOption_run_append, hgroup, toOption_run_cons, hs]
      simp only [Except.toOption, Option.bind_some] at htail ⊢
      rw [htail, Option.map_map, Option.map_map]
      congr 1
      funext p
      show (vs ++ replace x vs p.1, p.2) = (replace x vs (.var x :: p.1), p.2)
      rw [replace_cons_var]
    · rw [replace_cons_of_ne ht, toOption_run_cons, toOption_run_cons]
      cases hs : step stack t with
      | none => rfl
      | some p =>
        have htail := ih (i := i + 1) (j := j + 1) ((clearOfFunctions_cons.1 hx).2 _ _ hs)
        rw [Option.bind_some, Option.bind_some, htail, Option.map_map, Option.map_map]
        congr 1
        funext q
        show (p.1 ++ replace x vs q.1, q.2) = (replace x vs (p.1 ++ q.1), q.2)
        rw [replace_append, replace_eq_self (var_notMem_of_step hs ht)]

end Postfix

open Postfix

theorem toOption_toPostfix (ts : List Token) : (toPostfix ts).toOption =
    (run 0 [] ts).toOption.bind fun p => if openings p.2 = 0 then some (p.1 ++ waiting p.2) else none := by
  rw [toPostfix]
  cases run 0 [] ts with
  | error e => rfl
  | ok p =>
    simp only [bind, Except.bind, flush_eq]
    by_cases ho : openings p.2 = 0 <;> simp [ho, pure, Except.pure, Except.toOption]

/-- Converting with the group gives the listing of the group in the place of the variable. -/
theorem toOption_toPostfix_replace {x : String} {us vs ts : List Token} (hu : toPostfix us = .ok vs)
    (l r : BracketShape) (hx : ClearOfFunctions x [] ts) :
    (toPostfix (replace x (group l r us) ts)).toOption = (toPostfix ts).toOption.map (replace x vs) := by
  rw [toOption_toPostfix, toOption_toPostfix, run_replace (i := 0) hu l r hx, Option.bind_map, Option.map_bind]
  congr 1
  funext p
  have hwaiting : replace x vs (waiting p.2) = waiting p.2 := replace_eq_self (var_notMem_waiting x p.2)
  by_cases ho : openings p.2 = 0 <;> simp [ho, replace_append, hwaiting]

/-! ### Values -/

namespace Evaluation

variable {ρ ρ' : Valuation} {x : String} {v : Float} {vs : List Token}

theorem run_of_evaluate (h : evaluate ρ vs = .ok v) (stack : List Float) : run ρ stack vs = .ok (v :: stack) := by
  obtain ⟨t, rfl, hv⟩ := exists_tree_of_evaluate h
  have hrun := run_postorder ρ t stack []
  rwa [List.append_nil, hv] at hrun

/-- What pushes one value may stand in the place of a variable with this value. -/
theorem run_replace (h : evaluate ρ vs = .ok v) (hx : ρ' x = .ok v) (hne : ∀ n, n ≠ x → ρ' n = ρ n)
    (stack : List Float) (ts : List Token) : run ρ stack (replace x vs ts) = run ρ' stack ts := by
  induction ts generalizing stack with
  | nil => rfl
  | cons t ts ih =>
    by_cases ht : t = .var x
    · subst ht
      rw [replace_cons_var, run_append, run_of_evaluate h, run_cons, step, hx]
      exact ih (v :: stack)
    · have hstep : step ρ stack t = step ρ' stack t := by
        cases t with
        | var n =>
          have hn : n ≠ x := fun he => ht (he ▸ rfl)
          rw [step, step, hne n hn]
        | _ => rfl
      rw [replace_cons_of_ne ht, run_cons, run_cons, hstep]
      cases step ρ' stack t with
      | error e => rfl
      | ok stack' => exact ih stack'

end Evaluation

theorem Bindings.value_concat (b : Bindings) (x n : String) (v : Float) :
    Bindings.value (b ++ [(x, Supplied.number v)]) n = if n = x then .ok v else b.value n := by
  have hget : Bindings.get? (b ++ [(x, Supplied.number v)]) n = if n = x then some (Supplied.number v) else b.get? n := by
    rw [get?, get?, List.reverse_append, List.reverse_singleton, List.singleton_append, List.lookup_cons]
    by_cases hn : n = x
    · simp [hn]
    · have hb : (n == x) = false := by simpa using hn
      rw [hb, if_neg hn]
  rw [value, value, hget]
  by_cases hn : n = x
  · simp [hn, Supplied.toFloat, Except.mapError]
  · simp [hn]

/-- A variable bound to the value of a subexpression, or the subexpression in its place between brackets: as
long as no function waits on top of the stack where the variable is read, both give the same value or the
same error, or in both the brackets do not balance. -/
theorem evaluate_inline_eq_bind {b : Bindings} {us vs ts : List Token} {x : String} {v : Float}
    (hu : toPostfix us = .ok vs) (hv : evaluate b.value vs = .ok v) (hx : ClearOfFunctions x [] ts)
    (l r : BracketShape) :
    (∃ e e', toPostfix ts = .error e ∧ toPostfix (replace x (group l r us) ts) = .error e') ∨
      ∃ out out', toPostfix ts = .ok out ∧ toPostfix (replace x (group l r us) ts) = .ok out' ∧
        evaluate b.value out' = evaluate (Bindings.value (b ++ [(x, .number v)])) out := by
  have hconvert := toOption_toPostfix_replace hu l r hx
  cases hts : toPostfix ts with
  | error e =>
    cases hts' : toPostfix (replace x (group l r us) ts) with
    | error e' => exact .inl ⟨e, e', rfl, rfl⟩
    | ok out' =>
      rw [hts, hts'] at hconvert
      cases hconvert
  | ok out =>
    cases hts' : toPostfix (replace x (group l r us) ts) with
    | error e' =>
      rw [hts, hts'] at hconvert
      cases hconvert
    | ok out' =>
      rw [hts, hts'] at hconvert
      obtain rfl : out' = replace x vs out := Option.some.inj hconvert
      refine .inr ⟨out, _, rfl, rfl, ?_⟩
      rw [evaluate, evaluate, Evaluation.run_replace hv]
      · rw [Bindings.value_concat, if_pos rfl]
      · intro n hn
        rw [Bindings.value_concat, if_neg hn]

/-- Ill-formed tokens, and a subexpression with the variable in it: `sin{x+1) x ^` and `x*2`. -/
theorem evaluate_inline_eq_bind_itself :
    let b : Bindings := [("x", .number 3)]
    let us : List Token := [.var "x", .op .mul, .num 2]
    let vs : List Token := [.var "x", .num 2, .op .mul]
    let ts : List Token := [.fn .sin, .bracket ⟨.curly, .opening⟩, .var "x", .op .add, .num 1,
      .bracket ⟨.round, .closing⟩, .var "x", .op .pow]
    toPostfix us = .ok vs ∧ evaluate b.value vs = .ok (3 * 2) ∧ ClearOfFunctions "x" [] ts ∧
      ((∃ e e', toPostfix ts = .error e ∧ toPostfix (replace "x" (group .square .round us) ts) = .error e') ∨
        ∃ out out', toPostfix ts = .ok out ∧ toPostfix (replace "x" (group .square .round us) ts) = .ok out' ∧
          evaluate b.value out' = evaluate (Bindings.value (b ++ [("x", .number (3 * 2))])) out) := by
  intro b us vs ts
  have hu : toPostfix us = .ok vs := rfl
  have hv : evaluate b.value vs = .ok (3 * 2) := rfl
  have hx : ClearOfFunctions "x" [] ts := by
    simp [ts, clearOfFunctions_cons, clearOfFunctions_nil, step, popBefore, closeGroup]
  exact ⟨hu, hv, hx, evaluate_inline_eq_bind hu hv hx .square .round⟩

/-- The function waits on although a number stands between it and the variable: `* abs 1 x + 2` takes the
sum as the argument, `* abs 1 (0-3) + 2` the group. -/
theorem inline_ne_bind_behind_operand :
    let ts : List Token := [.op .mul, .fn .abs, .num 1, .var "x", .op .add, .num 2]
    let us : List Token := [.num 0, .op .sub, .num 3]
    (∀ before f behind, ts ≠ before ++ .fn f :: .var "x" :: behind) ∧
      ∃ vs v out out', toPostfix us = .ok vs ∧ evaluate (Bindings.value []) vs = .ok v ∧
        toPostfix ts = .ok out ∧ toPostfix (replace "x" (group .round .round us) ts) = .ok out' ∧
        evaluate (Bindings.value []) out' ≠ evaluate (Bindings.value [("x", .number v)]) out := by
  intro ts us
  refine ⟨?_, [.num 0, .num 3, .op .sub], 0 - 3, [.num 1, .var "x", .num 2, .op .add, .fn .abs, .op .mul],
    [.num 1, .num 0, .num 3, .op .sub, .fn .abs, .op .mul, .num 2, .op .add], rfl, rfl, rfl, rfl, ?_⟩
  · intro before f behind h
    have hf : ts[before.length]? = some (.fn f) := by simp [h]
    have hnext : ts[before.length + 1]? = some (.var "x") := by simp [h]
    obtain ⟨hlt, -⟩ := List.getElem?_eq_some_iff.1 hf
    generalize before.length = k at hf hnext hlt
    have hk : k < 6 := hlt
    interval_cases k <;> simp [ts] at hf hnext
  · have hgroup : evaluate (Bindings.value [])
        [.num 1, .num 0, .num 3, .op .sub, .fn .abs, .op .mul, .num 2, .op .add] = .ok 5 := by decide +kernel
    have hname : evaluate (Bindings.value [("x", .number (0 - 3))])
        [.num 1, .var "x", .num 2, .op .add, .fn .abs, .op .mul] = .ok 1 := by decide +kernel
    rw [hgroup, hname]
    decide +kernel

end Reckon
