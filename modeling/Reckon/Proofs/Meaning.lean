import Reckon.Proofs.Conversion
import Reckon.Proofs.EngineRun
import Reckon.Proofs.Spelling

/-!
# The meaning of a text

A text that spells an infix expression compiles, and its compiled form evaluates to the value of the one
tree that the expression has (`evaluate_compiled_eq_value`). The three stages have their own statements,
`Vocabulary.tokenize_of_written`, `toPostfix_of_denotes` and `evaluate_postorder`.
-/

namespace Reckon

theorem Vocabulary.exists_ofNames {names : List String} (h : ∀ n ∈ names, Func.ofWord? n = none) :
    ∃ v, ofNames names = .ok v ∧ ∀ n, n ∈ v.names ↔ n ∈ names := by
  have hv : ∃ v, ofNames names = .ok v := by
    unfold ofNames
    split
    · next n hn =>
      have hmem := mem_sortNames.1 (List.mem_of_find?_eq_some hn)
      have hsome := List.find?_some hn
      rw [h n hmem] at hsome
      cases hsome
    · exact ⟨_, rfl⟩
  obtain ⟨v, hv⟩ := hv
  exact ⟨v, hv, fun n => by rw [names_of_ofNames hv, mem_sortNames]⟩

namespace Expression

theorem compile_of_denotes {names : List String} (hnames : ∀ n ∈ names, Func.ofWord? n = none) {source : String}
    {ts : List Token} (hw : Written names source.toList ts) {t : Tree} (ht : Denotes ts t) :
    compile source (sortNames names) = .ok ⟨source, sortNames names, t.postorder, []⟩ := by
  have hsorted : ∀ n ∈ sortNames names, Func.ofWord? n = none := fun n hn => hnames n (mem_sortNames.1 hn)
  obtain ⟨v, hv, hmem⟩ := Vocabulary.exists_ofNames hsorted
  have htokens : v.tokenize source = .ok ts :=
    Vocabulary.tokenize_of_written (fun n => by rw [hmem, mem_sortNames]) hw
  refine compile_eq_ok_iff.2 ⟨v, ts, t.postorder, hv, htokens, toPostfix_of_denotes ht, ?_⟩
  rw [Vocabulary.names_of_ofNames hv, sortNames_sortNames]

theorem evaluate_of_defaults_nil {e : Expression} (h : e.defaults = []) (bindings : Bindings) :
    e.evaluate bindings [] = Reckon.evaluate bindings.value e.tokens := by
  rw [evaluate, h, List.append_nil]
  rfl

end Expression

/-- The variables of a tree stand in the tokens that denote it. -/
theorem Denotes.mem_of_mem_names {ts : List Token} {t : Tree} (h : Denotes ts t) {n : String} (hn : n ∈ t.names) :
    .var n ∈ ts := by
  have hperm := perm_of_toPostfix (toPostfix_of_denotes h)
  exact (List.mem_filter.1 (hperm.mem_iff.1 (t.mem_names.1 hn))).1

/-- A text that spells an infix expression over names that no function has, with a float bound to each of
its variables: whatever was compiled before, compiling and evaluating it gives the value of its tree. -/
theorem evaluate_compiled_eq_value {env : Environment} (henv : env.Fits) {requests : List Request}
    (hr : ∀ r ∈ requests, r.Fits) {names : List String} (hnames : ∀ n ∈ names, Func.ofWord? n = none)
    {source : String} {ts : List Token} (hw : Written names source.toList ts) (hi : IsInfix ts)
    {bindings : Bindings} (hb : ∀ n, .var n ∈ ts → ∃ x, bindings.value n = .ok x) :
    ∃ made t x, (((Engine.start env).after requests).compile source names).1 = .ok made ∧
      Denotes ts t ∧ (∀ u, Denotes ts u → u = t) ∧
      t.value bindings.value = .ok x ∧ made.expression.evaluate bindings [] = .ok x := by
  obtain ⟨t, ht⟩ := hi.exists_denotes
  obtain ⟨x, hx⟩ := t.exists_value_iff.2 fun n hn => hb n (ht.mem_of_mem_names hn)
  have sound := (Engine.Sound.start henv).after hr
  have hcompile := (sound.compile source names).1
  rw [Expression.compile_of_denotes hnames hw ht] at hcompile
  cases hmade : (((Engine.start env).after requests).compile source names).1 with
  | error e => rw [hmade] at hcompile; cases hcompile
  | ok made =>
    rw [hmade] at hcompile
    have hexpr : made.expression = ⟨source, sortNames names, t.postorder, []⟩ := by injection hcompile
    refine ⟨made, t, x, rfl, ht, fun u hu => hu.unique ht, hx, ?_⟩
    rw [Expression.evaluate_of_defaults_nil (by rw [hexpr]), hexpr, evaluate_postorder, hx]

/-- A function in capitals with an argument in two kinds of brackets, after a compilation that failed. -/
theorem evaluate_compiled_eq_value_sin :
    let two := Binary64.ofOrdinal false (Decimal.ordinal ⟨2, 0⟩)
    let ts : List Token := [.num two, .op .mul, .fn .sin, .bracket ⟨.square, .opening⟩, .var "x",
      .bracket ⟨.round, .closing⟩, .op .sub, .var "x"]
    let bindings : Bindings := [("x", .number two)]
    Environment.Fits [] ∧ (∀ r ∈ [Request.compile "2*" ["x"]], r.Fits) ∧
      (∀ n ∈ ["x"], Func.ofWord? n = none) ∧ Written ["x"] "2*SIN[ x)-x".toList ts ∧ IsInfix ts ∧
      (∀ n, .var n ∈ ts → ∃ x, bindings.value n = .ok x) ∧
      ∃ made t x, (((Engine.start []).after [.compile "2*" ["x"]]).compile "2*SIN[ x)-x" ["x"]).1 = .ok made ∧
        Denotes ts t ∧ (∀ u, Denotes ts u → u = t) ∧
        t.value bindings.value = .ok x ∧ made.expression.evaluate bindings [] = .ok x := by
  intro two ts bindings
  have henv : Environment.Fits [] := by unfold Environment.Fits; decide
  have hr : ∀ r ∈ [Request.compile "2*" ["x"]], r.Fits := by simp [Request.Fits]
  have hnames : ∀ n ∈ ["x"], Func.ofWord? n = none := by decide
  have htwo : Spells ["x"] ['2'] (.num two) := by
    have h : Numeral.IsLiteral ['2'] := ⟨List.all_eq_true.1 rfl, ⟨'2', by simp, rfl⟩, by decide⟩
    exact .num h (h.typed?_eq rfl)
  have hsin : Spells ["x"] ['S', 'I', 'N'] (.fn .sin) :=
    .fn ⟨⟨'S', ['I', 'N'], rfl, rfl⟩, List.all_eq_true.1 rfl⟩ rfl
  have hx : Spells ["x"] ['x'] (.var "x") := .var ⟨⟨'x', [], rfl, rfl⟩, List.all_eq_true.1 rfl⟩ (by simp)
  have hw : Written ["x"] "2*SIN[ x)-x".toList ts := by
    have last : Written ["x"] ['x'] [.var "x"] := .token hx (by simp) .nil
    have minus : Written ["x"] ['-', 'x'] [.op .sub, .var "x"] := .token (.op .sub) (fun _ _ => rfl) last
    have close := Written.token (.bracket ⟨.round, .closing⟩) (fun _ _ => rfl) minus
    have arg := Written.token hx (by rintro c ⟨⟩; rfl) close
    have group := Written.token (.bracket ⟨.square, .opening⟩) (fun _ _ => rfl) (.space arg)
    have call := Written.token hsin (by rintro c ⟨⟩; rfl) group
    exact .token htwo (by rintro c ⟨⟩; rfl) (.token (.op .mul) (fun _ _ => rfl) call)
  have hi : IsInfix ts := by
    have hcall := IsOperand.call .sin (.group .square .round (.operand (.var "x")))
    exact .join .mul (.num two) (.join .sub hcall (.operand (.var "x")))
  have hb : ∀ n, .var n ∈ ts → ∃ x, bindings.value n = .ok x := by
    intro n hn
    have : n = "x" := by simpa [ts] using hn
    exact ⟨two, by rw [this]; rfl⟩
  exact ⟨henv, hr, hnames, hw, hi, hb, evaluate_compiled_eq_value henv hr hnames hw hi hb⟩

end Reckon
