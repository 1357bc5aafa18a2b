import Reckon.Expression
import Reckon.Proofs.Acceptance

/-!
# Names without a value

A tree is evaluated from left to right, so it fails as its first variable without a value does, and nothing
but the values of its variables matters (`Tree.value_eq_error_iff`, `Tree.value_congr`). An expression lists
its variables in the same order, and three sources give the values: hence `evaluate_fails_at_first_unbound`.
-/

namespace Reckon

/-- Leaving out repetitions does not change which item is found first. -/
theorem find?_eraseDups (p : String → Bool) : ∀ l : List String, l.eraseDups.find? p = l.find? p
  | [] => rfl
  | a :: l => by
    rw [List.eraseDups_cons]
    by_cases ha : p a = true
    · rw [List.find?_cons_of_pos ha, List.find?_cons_of_pos ha]
    -- of the items left out none is looked for, as they equal `a`
    have hkeep : (fun b => decide ((!b == a) = true ∧ p b = true)) = p := by
      funext b
      by_cases hb : b = a
      · subst hb
        simpa using ha
      · simp [hb]
    rw [List.find?_cons_of_neg ha, List.find?_cons_of_neg ha, find?_eraseDups p (l.filter fun b => !b == a),
      List.find?_filter, hkeep]
termination_by l => l.length
decreasing_by
  have := List.length_filter_le (fun b => !b == a) l
  rw [List.length_cons]
  omega

/-! ### Trees -/

namespace Tree

variable {ρ : Valuation} {e : EvalError} {n : String}

theorem variablesOf_postorder (t : Tree) : Expression.variablesOf t.postorder = t.names.eraseDups := by
  unfold Expression.variablesOf
  congr 1
  induction t with
  | num x => rfl
  | var n => rfl
  | op o l r ihl ihr => rw [postorder, List.filterMap_append, List.filterMap_append, ihl, ihr, names]; simp
  | fn f t ih => rw [postorder, List.filterMap_append, ih, names]; simp

theorem find?_names_eq_none_iff (t : Tree) :
    t.names.find? (fun n => !(ρ n).isOk) = none ↔ ∃ x, t.value ρ = .ok x := by
  rw [t.exists_value_iff, List.find?_eq_none]
  refine forall₂_congr fun n _ => ?_
  cases ρ n <;> simp [Except.isOk, Except.toBool]

/-- The first variable without a value stops the evaluation. -/
theorem value_of_find? (t : Tree) (hn : t.names.find? (fun n => !(ρ n).isOk) = some n) (he : ρ n = .error e) :
    t.value ρ = .error e := by
  induction t with
  | num x => cases hn
  | var m =>
    have hmem : n = m := by simpa [names] using List.mem_of_find?_eq_some hn
    subst hmem
    exact he
  | op o l r ihl ihr =>
    rw [names, List.find?_append] at hn
    cases hl : l.names.find? (fun n => !(ρ n).isOk) with
    | some m =>
      rw [hl] at hn
      cases hn
      rw [value, ihl hl]
      rfl
    | none =>
      rw [hl] at hn
      obtain ⟨x, hx⟩ := l.find?_names_eq_none_iff.1 hl
      rw [value, hx, ihr hn]
      rfl
  | fn f t ih =>
    rw [value, ih hn]
    rfl

theorem value_eq_error_iff (t : Tree) :
    t.value ρ = .error e ↔ ∃ n, t.names.find? (fun n => !(ρ n).isOk) = some n ∧ ρ n = .error e := by
  constructor
  · intro h
    cases hf : t.names.find? fun n => !(ρ n).isOk with
    | none =>
      obtain ⟨x, hx⟩ := t.find?_names_eq_none_iff.1 hf
      rw [hx] at h
      cases h
    | some n =>
      refine ⟨n, rfl, ?_⟩
      cases hn : ρ n with
      | ok x =>
        have hnot := List.find?_some hf
        rw [hn] at hnot
        cases hnot
      | error e' => rw [← h, t.value_of_find? hf hn]
  · rintro ⟨n, hn, he⟩
    exact t.value_of_find? hn he

/-- Only the values of the variables matter. -/
theorem value_congr {ρ' : Valuation} (t : Tree) (h : ∀ n ∈ t.names, ρ n = ρ' n) : t.value ρ = t.value ρ' := by
  induction t with
  | num x => rfl
  | var n => exact h n (List.mem_singleton_self n)
  | op o l r ihl ihr =>
    rw [value, value, ihl fun n hn => h n (List.mem_append_left _ hn), ihr fun n hn => h n (List.mem_append_right _ hn)]
  | fn f t ih => rw [value, value, ih h]

end Tree

/-! ### Sources of values -/

namespace Bindings

variable {b c : Bindings} {n : String}

theorem get?_append (b c : Bindings) (n : String) : (b ++ c).get? n = (c.get? n).or (b.get? n) := by
  rw [get?, get?, get?, List.reverse_append, List.lookup_append]

theorem mem_of_get? {v : Supplied} (h : b.get? n = some v) : (n, v) ∈ b := by
  obtain ⟨l, r, he, -⟩ := List.lookup_eq_some_iff.1 h
  rw [← List.mem_reverse, he]
  simp

end Bindings

namespace Expression

/-- The value that counts for a name: the overriding one, else the bound one, else the last default. -/
def effective (e : Expression) (bindings overrides : Bindings) (name : String) : Option Supplied :=
  (overrides.get? name).or <| (bindings.get? name).or <| (e.defaults.reverse.lookup name).map .number

variable {e : Expression} {bindings overrides : Bindings}

theorem get?_sources (e : Expression) (bindings overrides : Bindings) (n : String) :
    (Bindings.ofFloats e.defaults ++ bindings ++ overrides).get? n = e.effective bindings overrides n := by
  rw [Bindings.get?_append, Bindings.get?_append, Bindings.get?_ofFloats]
  rfl

/-- A value that counts is one of those given, or a default. -/
theorem usable_effective (hb : ∀ p ∈ bindings ++ overrides, ∃ x, p.2.toFloat = .ok x) {n : String} {v : Supplied}
    (h : e.effective bindings overrides n = some v) : ∃ x, v.toFloat = .ok x := by
  rw [← get?_sources, List.append_assoc] at h
  rcases List.mem_append.1 (Bindings.mem_of_get? h) with hmem | hmem
  · obtain ⟨p, -, hp⟩ := List.mem_map.1 hmem
    cases hp
    exact ⟨p.2, rfl⟩
  · exact hb _ hmem

/-- The values under which the expression is evaluated. -/
theorem value_sources (e : Expression) (bindings overrides : Bindings) (n : String) :
    (Bindings.ofFloats e.defaults ++ bindings ++ overrides).value n =
      ((e.effective bindings overrides n).map Supplied.toFloat).elim (.error (.unbound n)) (·.mapError .unusable) := by
  rw [Bindings.value, get?_sources]
  cases e.effective bindings overrides n <;> rfl

theorem value_sources_of_usable (hb : ∀ p ∈ bindings ++ overrides, ∃ x, p.2.toFloat = .ok x) (n : String) :
    (e.effective bindings overrides n = none ∧
        (Bindings.ofFloats e.defaults ++ bindings ++ overrides).value n = .error (.unbound n)) ∨
      ∃ v x, e.effective bindings overrides n = some v ∧
        (Bindings.ofFloats e.defaults ++ bindings ++ overrides).value n = .ok x := by
  rw [value_sources]
  cases hv : e.effective bindings overrides n with
  | none => exact .inl ⟨rfl, rfl⟩
  | some v =>
    obtain ⟨x, hx⟩ := usable_effective hb hv
    refine .inr ⟨v, x, rfl, ?_⟩
    rw [Option.map_some, Option.elim_some, hx]
    rfl

end Expression

open Expression in
/-- An expression that lists a tree is evaluated under values that can be used as floats. It has a value
exactly if a value counts for each of its variables, and else it fails for the first of them without one.
Nothing matters but the values that count for its variables: under the same ones, any expression with these
tokens gives the same. -/
theorem evaluate_fails_at_first_unbound (e : Expression) {t : Tree} (ht : e.tokens = t.postorder)
    {bindings overrides : Bindings} (hb : ∀ p ∈ bindings ++ overrides, ∃ x, p.2.toFloat = .ok x) :
    ((∃ x, e.evaluate bindings overrides = .ok x) ↔
      ∀ n ∈ e.referenced, (e.effective bindings overrides n).isSome = true) ∧
    (∀ err, e.evaluate bindings overrides = .error err ↔
      ∃ n, e.referenced.find? (fun n => (e.effective bindings overrides n).isNone) = some n ∧ err = .unbound n) ∧
    ∀ (d : Expression) (bindings' overrides' : Bindings), d.tokens = e.tokens →
      (∀ n ∈ e.referenced, (d.effective bindings' overrides' n).map Supplied.toFloat =
        (e.effective bindings overrides n).map Supplied.toFloat) →
      d.evaluate bindings' overrides' = e.evaluate bindings overrides := by
  have hnames : e.referenced = t.names.eraseDups := by rw [referenced, ht, t.variablesOf_postorder]
  have hmem : ∀ n, n ∈ e.referenced ↔ n ∈ t.names := fun n => by rw [hnames, List.mem_eraseDups]
  have hvalue : e.evaluate bindings overrides =
      t.value (Bindings.ofFloats e.defaults ++ bindings ++ overrides).value := by
    rw [Expression.evaluate, ht, evaluate_postorder]
  refine ⟨?_, fun err => ?_, fun d bindings' overrides' hd hagree => ?_⟩
  · rw [hvalue, t.exists_value_iff]
    refine forall_congr' fun n => ?_
    rw [hmem]
    refine forall_congr' fun _ => ?_
    rcases value_sources_of_usable (e := e) hb n with ⟨hnone, hn⟩ | ⟨v, x, hsome, hn⟩
    · rw [hnone, hn]; simp
    · rw [hsome, hn]; simp
  · have hlacks : (fun n => !((Bindings.ofFloats e.defaults ++ bindings ++ overrides).value n).isOk) =
        fun n => (e.effective bindings overrides n).isNone := by
      funext n
      rcases value_sources_of_usable (e := e) hb n with ⟨hnone, hn⟩ | ⟨v, x, hsome, hn⟩
      · rw [hnone, hn]; rfl
      · rw [hsome, hn]; rfl
    rw [hvalue, t.value_eq_error_iff, hlacks, hnames, find?_eraseDups]
    refine exists_congr fun n => and_congr_right fun hfind => ?_
    have hnone := List.find?_some hfind
    rcases value_sources_of_usable (e := e) hb n with ⟨-, hn⟩ | ⟨v, x, hsome, -⟩
    · rw [hn, Except.error.injEq, eq_comm]
    · rw [hsome] at hnone
      cases hnone
  · rw [hvalue, Expression.evaluate, hd, ht, evaluate_postorder]
    refine t.value_congr fun n hn => ?_
    rw [value_sources, value_sources, hagree n ((hmem n).2 hn)]

/-- Two defaults of one name behind a value that overrides both, and a name without a value used twice. The
same values in other places give the same failure, with something that is no float for a name not used. -/
theorem evaluate_fails_at_first_unbound_twice :
    let one := Binary64.ofRat 1
    let two := Binary64.ofRat 2
    let t : Tree := .op .mul (.var "x") (.op .sub (.var "z") (.op .add (.var "y") (.var "z")))
    let e : Expression := ⟨"x*(z-(y+z))", ["x", "y", "z"], t.postorder, [("x", two), ("y", one), ("x", two)]⟩
    let d : Expression := ⟨"x*(z-(y+z))", [], t.postorder, [("x", two), ("x", one)]⟩
    let bindings : Bindings := [("w", .flag true)]
    let overrides : Bindings := [("x", .number one)]
    let bindings' : Bindings := [("v", .missing), ("y", .flag true)]
    e.tokens = t.postorder ∧ (∀ p ∈ bindings ++ overrides, ∃ x, p.2.toFloat = .ok x) ∧ d.tokens = e.tokens ∧
      (∀ n ∈ e.referenced, (d.effective bindings' [] n).map Supplied.toFloat =
        (e.effective bindings overrides n).map Supplied.toFloat) ∧
      e.evaluate bindings overrides = .error (.unbound "z") ∧
      d.evaluate bindings' [] = e.evaluate bindings overrides := by
  intro one two t e d bindings overrides bindings'
  have hone : (Supplied.flag true).toFloat = .ok one := by rw [Supplied.toFloat, if_pos rfl]
  have hb : ∀ p ∈ bindings ++ overrides, ∃ x, p.2.toFloat = .ok x := by
    intro p hp
    rcases List.mem_cons.1 hp with rfl | hp
    · exact ⟨one, hone⟩
    · rw [List.mem_singleton.1 hp]
      exact ⟨one, rfl⟩
  have hagree : ∀ n ∈ e.referenced, (d.effective bindings' [] n).map Supplied.toFloat =
      (e.effective bindings overrides n).map Supplied.toFloat := by
    have hnames : e.referenced = ["x", "z", "y"] := rfl
    rw [hnames]
    simp only [List.forall_mem_cons]
    refine ⟨rfl, ?_, congrArg some hone, fun _ hn => by cases hn⟩
    simp [d, e, bindings, bindings', overrides, Expression.effective, Bindings.get?, List.lookup_cons]
  obtain ⟨-, hfails, hsame⟩ := evaluate_fails_at_first_unbound e (t := t) rfl hb
  exact ⟨rfl, hb, rfl, hagree, (hfails _).2 ⟨"z", rfl, rfl⟩, hsame d bindings' [] rfl hagree⟩

end Reckon
