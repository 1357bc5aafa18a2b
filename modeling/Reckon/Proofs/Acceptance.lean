import Reckon.Proofs.Tree

/-!
# What the evaluator accepts

Under a valuation that fails only on names without a value, a sequence has a value exactly if it is the
listing of a tree whose variables are all bound, and is refused otherwise for an unbound variable or for
what is on the stack (`evaluate_accepts_postorder`).
-/

namespace Reckon

namespace Bindings

variable {b : List (String × Float)} {n : String}

theorem get?_ofFloats (b : List (String × Float)) (n : String) :
    (ofFloats b).get? n = (b.reverse.lookup n).map .number := by
  rw [get?, ofFloats, ← List.map_reverse]
  induction b.reverse with
  | nil => rfl
  | cons p rest ih =>
    obtain ⟨m, y⟩ := p
    by_cases h : n = m
    · simp [h]
    · have hb : (n == m) = false := by simpa using h
      simpa [List.lookup_cons, hb] using ih

theorem value_ofFloats (b : List (String × Float)) (n : String) :
    (ofFloats b).value n = match b.reverse.lookup n with
      | some x => .ok x
      | none => .error (.unbound n) := by
  rw [value, get?_ofFloats]
  cases b.reverse.lookup n <;> rfl

theorem exists_value_ofFloats_iff : (∃ x, (ofFloats b).value n = .ok x) ↔ n ∈ b.map (·.1) := by
  rw [value_ofFloats, ← List.mem_reverse, ← List.map_reverse]
  cases h : b.reverse.lookup n with
  | none =>
    rw [List.lookup_eq_none_iff] at h
    simp only [reduceCtorEq, exists_false, false_iff, List.mem_map, not_exists, not_and]
    rintro p hp rfl
    simpa using h p hp
  | some x =>
    obtain ⟨l, r, hb, -⟩ := List.lookup_eq_some_iff.1 h
    simp [hb]

theorem eq_unbound_of_value_ofFloats {e : EvalError} (h : (ofFloats b).value n = .error e) :
    e = .unbound n := by
  rw [value_ofFloats] at h
  split at h
  · cases h
  · cases h; rfl

end Bindings

namespace Evaluation

variable {ρ : Valuation} {stack : List Float} {e : EvalError}

/-- The errors of a sequence: one of its variables has no value, or the stack does not fit. -/
def Fault (ρ : Valuation) (ts : List Token) (e : EvalError) : Prop :=
  (∃ n, .var n ∈ ts ∧ ρ n = .error e) ∨ e.depth?.isSome

theorem fault_of_step {t : Token} (h : step ρ stack t = .error e) : Fault ρ [t] e := by
  cases t with
  | num x => cases h
  | var n =>
    refine .inl ⟨n, by simp, ?_⟩
    simp only [step] at h
    cases hn : ρ n with
    | error e' => rw [hn] at h; cases h; rfl
    | ok x => rw [hn] at h; cases h
  | op o =>
    simp only [step] at h
    split at h
    · cases h
    · cases h; exact .inr rfl
  | fn f =>
    simp only [step] at h
    split at h
    · cases h
    · cases h; exact .inr rfl
  | bracket b => cases h; exact .inr rfl

theorem Fault.mono {ts us : List Token} (h : Fault ρ ts e) (hsub : ∀ t ∈ ts, t ∈ us) : Fault ρ us e :=
  h.imp (fun ⟨n, hn, he⟩ => ⟨n, hsub _ hn, he⟩) id

theorem fault_of_run {ts : List Token} (h : run ρ stack ts = .error e) : Fault ρ ts e := by
  induction ts generalizing stack with
  | nil => cases h
  | cons t ts ih =>
    rw [run_cons] at h
    cases hs : step ρ stack t with
    | error e' =>
      rw [hs] at h; cases h
      exact (fault_of_step hs).mono (by simp)
    | ok mid =>
      rw [hs] at h
      exact (ih h).mono (by simp +contextual)

theorem fault_of_evaluate {ts : List Token} (h : evaluate ρ ts = .error e) : Fault ρ ts e := by
  rw [evaluate] at h
  cases hr : run ρ [] ts with
  | error e' => rw [hr] at h; cases h; exact fault_of_run hr
  | ok stack =>
    rw [hr] at h
    rcases stack with _ | ⟨x, _ | ⟨y, rest⟩⟩
    · cases h; exact .inr rfl
    · cases h
    · cases h; exact .inr rfl

end Evaluation

/-- Under bindings of names to floats, a sequence has a value exactly if it lists a tree, all of whose
variables are bound, in postorder. That tree is the only one, and its value is the value of the sequence.
Every other sequence is refused: a variable in it is not bound, or the stack does not fit. -/
theorem evaluate_accepts_postorder (b : List (String × Float)) (ts : List Token) :
    ((∃ x, evaluate (Bindings.ofFloats b).value ts = .ok x) ↔
      ∃ t : Tree, t.postorder = ts ∧ ∀ n ∈ t.names, n ∈ b.map (·.1)) ∧
    (∀ t : Tree, t.postorder = ts → (∀ u : Tree, u.postorder = ts → u = t) ∧
      evaluate (Bindings.ofFloats b).value ts = t.value (Bindings.ofFloats b).value) ∧
    ((¬∃ t : Tree, t.postorder = ts ∧ ∀ n ∈ t.names, n ∈ b.map (·.1)) →
      ∃ e, evaluate (Bindings.ofFloats b).value ts = .error e ∧
        ((∃ n, .var n ∈ ts ∧ n ∉ b.map (·.1) ∧ e = .unbound n) ∨ e.depth?.isSome)) := by
  have accepts : (∃ x, evaluate (Bindings.ofFloats b).value ts = .ok x) ↔
      ∃ t : Tree, t.postorder = ts ∧ ∀ n ∈ t.names, n ∈ b.map (·.1) := by
    simp only [← Bindings.exists_value_ofFloats_iff, ← Tree.exists_value_iff]
    constructor
    · rintro ⟨x, hx⟩
      obtain ⟨t, ht, hv⟩ := exists_tree_of_evaluate hx
      exact ⟨t, ht, x, hv⟩
    · rintro ⟨t, rfl, x, hv⟩
      exact ⟨x, by rw [evaluate_postorder, hv]⟩
  refine ⟨accepts, ?_, fun hno => ?_⟩
  · rintro t rfl
    exact ⟨fun u hu => Tree.postorder_injective hu, evaluate_postorder _ t⟩
  · cases he : evaluate (Bindings.ofFloats b).value ts with
    | ok x => exact absurd (accepts.1 ⟨x, he⟩) hno
    | error e =>
      refine ⟨e, rfl, (Evaluation.fault_of_evaluate he).imp ?_ id⟩
      rintro ⟨n, hn, hv⟩
      refine ⟨n, hn, fun hmem => ?_, Bindings.eq_unbound_of_value_ofFloats hv⟩
      obtain ⟨x, hx⟩ := Bindings.exists_value_ofFloats_iff.2 hmem
      rw [hx] at hv; cases hv

end Reckon
