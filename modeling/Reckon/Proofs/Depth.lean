import Mathlib.Data.List.Induction
import Mathlib.Data.Nat.Find
import Reckon.Proofs.Acceptance

/-!
# Errors by counting

How many values are on the stack can be counted: the numbers and variables read so far minus the operators. So
which token stops the stack machine, and with what error, depends on the tokens and on which names are bound, not
on any number (`evaluate_stops_at_first_fault`).
-/

namespace Reckon

namespace Evaluation

/-- The error of a token with `d` values on the stack, if these names are bound. -/
def fault? (names : List String) (d : Int) : Token → Option EvalError
  | .num _ => none
  | .var n => if n ∈ names then none else some (.unbound n)
  | .op o => if d < 2 then some (.missingOperands (.op o) 2 d.toNat) else none
  | .fn f => if d < 1 then some (.missingOperands (.fn f) 1 d.toNat) else none
  | .bracket b => some (.strayBracket b d.toNat)

/-- The error of the token at this index, by the count of what is in front of it. -/
def faultAt (names : List String) (ts : List Token) (i : Nat) : Option EvalError :=
  ts[i]?.bind (fault? names (Token.surplus (ts.take i)))

variable {b : List (String × Float)} {names : List String} {stack : List Float} {t : Token} {ts : List Token}
  {e : EvalError} {i j : Nat}

/-! ### Steps -/

theorem step_of_fault (h : fault? (b.map (·.1)) stack.length t = some e) :
    step (Bindings.ofFloats b).value stack t = .error e := by
  cases t with
  | num x => cases h
  | var n =>
    by_cases hn : n ∈ b.map (·.1)
    · rw [fault?, if_pos hn] at h
      cases h
    · rw [fault?, if_neg hn] at h
      cases h
      cases hv : (Bindings.ofFloats b).value n with
      | ok x => exact absurd (Bindings.exists_value_ofFloats_iff.1 ⟨x, hv⟩) hn
      | error e' =>
        rw [step, hv, Bindings.eq_unbound_of_value_ofFloats hv]
        rfl
  | op o =>
    rcases stack with _ | ⟨y, _ | ⟨x, rest⟩⟩
    · cases h; rfl
    · cases h; rfl
    · rw [fault?, if_neg (by simp only [List.length_cons]; omega)] at h
      cases h
  | fn f =>
    rcases stack with _ | ⟨x, rest⟩
    · cases h; rfl
    · rw [fault?, if_neg (by simp only [List.length_cons]; omega)] at h
      cases h
  | bracket b => cases h; rfl

/-- A token that is no fault changes the number of values as counted. -/
theorem step_of_no_fault (h : fault? (b.map (·.1)) stack.length t = none) :
    ∃ stack', step (Bindings.ofFloats b).value stack t = .ok stack' ∧
      (stack'.length : Int) = stack.length + Token.surplus [t] := by
  cases t with
  | num x => exact ⟨_, rfl, rfl⟩
  | var n =>
    have hn : n ∈ b.map (·.1) := by
      by_contra hn
      rw [fault?, if_neg hn] at h
      cases h
    obtain ⟨x, hx⟩ := Bindings.exists_value_ofFloats_iff.2 hn
    exact ⟨x :: stack, by rw [step, hx]; rfl, rfl⟩
  | op o =>
    have hsurplus : Token.surplus [.op o] = -1 := rfl
    rcases stack with _ | ⟨y, _ | ⟨x, rest⟩⟩
    · cases h
    · cases h
    · refine ⟨_, rfl, ?_⟩
      simp only [List.length_cons, hsurplus]
      omega
  | fn f =>
    have hsurplus : Token.surplus [.fn f] = 0 := rfl
    rcases stack with _ | ⟨x, rest⟩
    · cases h
    · exact ⟨_, rfl, by rw [hsurplus, Int.add_zero]; rfl⟩
  | bracket b => cases h

/-! ### Runs -/

theorem faultAt_take (h : j < i) : faultAt names (ts.take i) j = faultAt names ts j := by
  rw [faultAt, faultAt, List.getElem?_take_of_lt h, List.take_take, Nat.min_eq_left (Nat.le_of_lt h)]

theorem faultAt_eq_none_of_le (h : ts.length ≤ i) : faultAt names ts i = none := by
  rw [faultAt, List.getElem?_eq_none h]
  rfl

/-- Without a fault the stack is as high as counted. -/
theorem run_of_no_fault (h : ∀ i, faultAt (b.map (·.1)) ts i = none) :
    ∃ stack, run (Bindings.ofFloats b).value [] ts = .ok stack ∧ (stack.length : Int) = Token.surplus ts := by
  induction ts using List.reverseRecOn with
  | nil => exact ⟨[], rfl, rfl⟩
  | append_singleton ts t ih =>
    have hlast : fault? (b.map (·.1)) (Token.surplus ts) t = none := by simpa [faultAt] using h ts.length
    have hfront : ∀ i, faultAt (b.map (·.1)) ts i = none := by
      intro i
      rcases Nat.lt_or_ge i ts.length with hi | hi
      · have htake : faultAt (b.map (·.1)) ((ts ++ [t]).take ts.length) i = faultAt (b.map (·.1)) (ts ++ [t]) i :=
          faultAt_take hi
        rw [List.take_left] at htake
        rw [htake, h i]
      · exact faultAt_eq_none_of_le hi
    obtain ⟨stack, hr, hlen⟩ := ih hfront
    rw [← hlen] at hlast
    obtain ⟨stack', hs, hlen'⟩ := step_of_no_fault hlast
    refine ⟨stack', ?_, by rw [hlen', hlen, Token.surplus_append]⟩
    rw [run_append, hr]
    show run _ stack [t] = _
    rw [run_cons, hs]
    rfl

theorem run_take_of_no_fault (h : ∀ j < i, faultAt (b.map (·.1)) ts j = none) :
    ∃ stack, run (Bindings.ofFloats b).value [] (ts.take i) = .ok stack ∧
      (stack.length : Int) = Token.surplus (ts.take i) := by
  refine run_of_no_fault fun j => ?_
  rcases Nat.lt_or_ge j i with hj | hj
  · rw [faultAt_take hj, h j hj]
  · exact faultAt_eq_none_of_le (Nat.le_trans (List.length_take_le i ts) hj)

theorem run_of_first_fault (h : faultAt (b.map (·.1)) ts i = some e)
    (hbefore : ∀ j < i, faultAt (b.map (·.1)) ts j = none) : run (Bindings.ofFloats b).value [] ts = .error e := by
  obtain ⟨stack, hr, hlen⟩ := run_take_of_no_fault hbefore
  obtain ⟨t, ht, hfault⟩ := Option.bind_eq_some_iff.1 h
  rw [← hlen] at hfault
  obtain ⟨hi, rfl⟩ := List.getElem?_eq_some_iff.1 ht
  rw [← List.take_append_drop i ts, run_append, hr, List.drop_eq_getElem_cons hi]
  show run _ stack (ts[i] :: _) = _
  rw [run_cons, step_of_fault hfault]
  rfl

theorem no_fault_or_exists_first_fault (names : List String) (ts : List Token) :
    (∀ i, faultAt names ts i = none) ∨ ∃ i e, faultAt names ts i = some e ∧ ∀ j < i, faultAt names ts j = none := by
  by_cases h : ∃ i, (faultAt names ts i).isSome
  · obtain ⟨e, he⟩ := Option.isSome_iff_exists.1 (Nat.find_spec h)
    exact .inr ⟨_, e, he, fun j hj => by simpa using Nat.find_min h hj⟩
  · exact .inl fun i => by simpa using fun hi => h ⟨i, hi⟩

theorem faultAt_congr {names' : List String} (h : ∀ n, n ∈ names ↔ n ∈ names') (ts : List Token) (i : Nat) :
    faultAt names ts i = faultAt names' ts i := by
  rw [faultAt, faultAt]
  congr 1
  funext t
  cases t with
  | var n => simp only [fault?, h]
  | _ => rfl

end Evaluation

open Evaluation

theorem evaluate_of_no_fault {b : List (String × Float)} {ts : List Token}
    (h : ∀ i, faultAt (b.map (·.1)) ts i = none) :
    (Token.surplus ts = 1 ∧ ∃ x, evaluate (Bindings.ofFloats b).value ts = .ok x) ∨
      Token.surplus ts ≠ 1 ∧
        evaluate (Bindings.ofFloats b).value ts = .error (.notSingle (Token.surplus ts).toNat) := by
  obtain ⟨stack, hr, hlen⟩ := run_of_no_fault h
  rw [evaluate, hr, ← hlen]
  rcases stack with _ | ⟨x, _ | ⟨y, rest⟩⟩
  · exact .inr ⟨by decide, rfl⟩
  · exact .inl ⟨rfl, x, rfl⟩
  · refine .inr ⟨?_, rfl⟩
    simp only [List.length_cons]
    omega

theorem evaluate_of_first_fault {b : List (String × Float)} {ts : List Token} {i : Nat} {e : EvalError}
    (h : faultAt (b.map (·.1)) ts i = some e) (hbefore : ∀ j < i, faultAt (b.map (·.1)) ts j = none) :
    evaluate (Bindings.ofFloats b).value ts = .error e := by
  rw [evaluate, run_of_first_fault h hbefore]
  rfl

theorem evaluate_eq_error_iff_fault {b : List (String × Float)} {ts : List Token} {e : EvalError} :
    evaluate (Bindings.ofFloats b).value ts = .error e ↔
      (∃ i, faultAt (b.map (·.1)) ts i = some e ∧ ∀ j < i, faultAt (b.map (·.1)) ts j = none) ∨
        (∀ i, faultAt (b.map (·.1)) ts i = none) ∧ Token.surplus ts ≠ 1 ∧
          e = .notSingle (Token.surplus ts).toNat := by
  constructor
  · intro he
    rcases no_fault_or_exists_first_fault (b.map (·.1)) ts with hnone | ⟨i, e', hi, hbefore⟩
    · rcases evaluate_of_no_fault hnone with ⟨-, x, hx⟩ | ⟨hne, he'⟩
      · rw [hx] at he
        cases he
      · rw [he'] at he
        cases he
        exact .inr ⟨hnone, hne, rfl⟩
    · rw [evaluate_of_first_fault hi hbefore] at he
      cases he
      exact .inl ⟨i, hi, hbefore⟩
  · rintro (⟨i, hi, hbefore⟩ | ⟨hnone, hne, rfl⟩)
    · exact evaluate_of_first_fault hi hbefore
    · rcases evaluate_of_no_fault hnone with ⟨hone, -⟩ | ⟨-, he⟩
      · exact absurd hone hne
      · exact he

theorem exists_evaluate_eq_ok_iff_no_fault {b : List (String × Float)} {ts : List Token} :
    (∃ x, evaluate (Bindings.ofFloats b).value ts = .ok x) ↔
      (∀ i, faultAt (b.map (·.1)) ts i = none) ∧ Token.surplus ts = 1 := by
  constructor
  · rintro ⟨x, hx⟩
    rcases no_fault_or_exists_first_fault (b.map (·.1)) ts with hnone | ⟨i, e, hi, hbefore⟩
    · rcases evaluate_of_no_fault hnone with ⟨hone, -⟩ | ⟨-, he⟩
      · exact ⟨hnone, hone⟩
      · rw [hx] at he
        cases he
    · rw [evaluate_of_first_fault hi hbefore] at hx
      cases hx
  · rintro ⟨hnone, hone⟩
    rcases evaluate_of_no_fault hnone with ⟨-, hx⟩ | ⟨hne, -⟩
    · exact hx
    · exact absurd hone hne

/-- Under bindings of names to floats the first token at fault decides on the error: a bracket, a name that is not
bound, an operator or function with too few values in front of it, as many as there are numbers and variables
minus operators. Up to it this count is not negative. Without such a token there is a value if the count of all
tokens is one, and else an error. So bindings of the same names have a value both, or the same error. -/
theorem evaluate_stops_at_first_fault (b : List (String × Float)) (ts : List Token) :
    (∀ e, evaluate (Bindings.ofFloats b).value ts = .error e ↔
      (∃ i, faultAt (b.map (·.1)) ts i = some e ∧ ∀ j < i, faultAt (b.map (·.1)) ts j = none) ∨
        (∀ i, faultAt (b.map (·.1)) ts i = none) ∧ Token.surplus ts ≠ 1 ∧
          e = .notSingle (Token.surplus ts).toNat) ∧
    ((∃ x, evaluate (Bindings.ofFloats b).value ts = .ok x) ↔
      (∀ i, faultAt (b.map (·.1)) ts i = none) ∧ Token.surplus ts = 1) ∧
    (∀ i, (∀ j < i, faultAt (b.map (·.1)) ts j = none) → 0 ≤ Token.surplus (ts.take i)) ∧
    ∀ c : List (String × Float), (∀ n, n ∈ c.map (·.1) ↔ n ∈ b.map (·.1)) →
      ∀ e, evaluate (Bindings.ofFloats c).value ts = .error e ↔ evaluate (Bindings.ofFloats b).value ts = .error e := by
  refine ⟨fun e => evaluate_eq_error_iff_fault, exists_evaluate_eq_ok_iff_no_fault, ?_, ?_⟩
  · intro i hbefore
    obtain ⟨stack, -, hlen⟩ := run_take_of_no_fault hbefore
    omega
  · intro c hc e
    simp only [evaluate_eq_error_iff_fault, faultAt_congr hc]

end Reckon
