import Reckon.Proofs.LastValues
import Reckon.Proofs.Pending
import Reckon.Proofs.StoredForms
import Reckon.Proofs.Unbound

/-!
# Routes to a value

`calculate` takes a text and its bindings through the stages one by one. Compiling first, with the bindings
given in either way at the evaluation, building with the bindings as defaults, and storing and restoring in
between give the same in every state of the engine (`Engine.routes_agree`). A variable that is read is
declared, so none is ever unbound.
-/

namespace Reckon

/-- The value of a text under bindings, which also declare its variables. -/
def calculate (source : String) (b : List (String × Float)) : Except Error Float := do
  let v ← (Vocabulary.ofNames (b.map (·.1))).mapError .reserved
  let ts ← (v.tokenize source).mapError .lex
  let out ← (toPostfix ts).mapError .group
  (evaluate (Bindings.ofFloats b).value out).mapError .eval

/-! ### Stages -/

namespace Vocabulary

theorem ofNames_sortNames (names : List String) : ofNames (sortNames names) = ofNames names := by
  unfold ofNames
  split
  · next n hn =>
    rw [sortNames_sortNames] at hn
    split
    · next m hm => rw [hn] at hm; cases hm; rfl
    · next hm => rw [hn] at hm; cases hm
  · next hn =>
    rw [sortNames_sortNames] at hn
    split
    · next m hm => rw [hn] at hm; cases hm
    · congr 2
      exact sortNames_sortNames names

variable {v : Vocabulary} {n : String}

/-- A variable is read only from a declared name. -/
theorem mem_names_of_token {i : Nat} {l : Lexeme} (h : v.token i l = .ok (some (.var n))) : n ∈ v.names := by
  cases l with
  | word c cs =>
    simp only [token, word?] at h
    split at h
    · next t ht =>
      cases h
      split at ht
      · next hmem =>
        cases ht
        exact hmem
      · obtain ⟨f, -, hf⟩ := Option.map_eq_some_iff.1 ht
        cases hf
    · cases h
  | numeral c cs =>
    simp only [token] at h
    split at h <;> cases h
  | _ => cases h

theorem mem_names_of_tokens {i : Nat} {ls : List Lexeme} {ts : List Token} (h : v.tokens i ls = .ok ts)
    (hn : .var n ∈ ts) : n ∈ v.names := by
  induction ls generalizing i ts with
  | nil => cases h; cases hn
  | cons l ls ih =>
    obtain ⟨t, rest, ht, hrest, rfl⟩ := tokens_cons_eq_ok.1 h
    rcases List.mem_append.1 hn with hmem | hmem
    · rw [Option.mem_toList] at hmem
      rw [hmem] at ht
      exact mem_names_of_token ht
    · exact ih hrest hmem

theorem mem_names_of_tokenize {s : String} {ts : List Token} (h : v.tokenize s = .ok ts) (hn : .var n ∈ ts) :
    n ∈ v.names := mem_names_of_tokens h hn

end Vocabulary

/-- The variables of a compiled expression are declared. -/
theorem Expression.mem_of_compile {source : String} {names : List String} {e : Expression}
    (h : compile source names = .ok e) {n : String} (hn : .var n ∈ e.tokens) : n ∈ names := by
  obtain ⟨v, ts, out, hv, ht, hp, rfl⟩ := compile_eq_ok_iff.1 h
  have hread : .var n ∈ ts := (List.mem_filter.1 ((perm_of_toPostfix hp).mem_iff.1 hn)).1
  have hmem := Vocabulary.mem_names_of_tokenize ht hread
  rwa [Vocabulary.names_of_ofNames hv, mem_sortNames] at hmem

/-- Neither the order of the declared names matters nor how often one is declared. -/
theorem Expression.compile_sortNames (source : String) (names : List String) :
    compile source (sortNames names) = compile source names := by
  rw [compile, compile, Vocabulary.ofNames_sortNames]

theorem Expression.compile_of_tokenize {source : String} {names : List String} {v : Vocabulary} {ts : List Token}
    (hv : Vocabulary.ofNames names = .ok v) (ht : v.tokenize source = .ok ts) :
    compile source names = ((toPostfix ts).mapError .group).map fun out => ⟨source, v.names, out, []⟩ := by
  simp only [compile, hv, ht, Except.mapError, bind, Except.bind]
  cases toPostfix ts <;> rfl

theorem calculate_eq_compile (source : String) (b : List (String × Float)) :
    calculate source b = Expression.compile source (sortNames (b.map (·.1))) >>= fun e =>
      (evaluate (Bindings.ofFloats b).value e.tokens).mapError .eval := by
  rw [calculate, Expression.compile, Vocabulary.ofNames_sortNames]
  cases Vocabulary.ofNames (b.map (·.1)) with
  | error r => rfl
  | ok v =>
    simp only [Except.mapError, bind, Except.bind]
    cases v.tokenize source with
    | error l => rfl
    | ok ts =>
      dsimp only
      cases toPostfix ts <;> rfl

/-- Nothing is evaluated when an expression is compiled. -/
theorem Expression.compile_ne_eval (source : String) (names : List String) (e : EvalError) :
    compile source names ≠ .error (.eval e) := by
  rw [compile]
  cases Vocabulary.ofNames names with
  | error r => simp [Except.mapError, bind, Except.bind]
  | ok v =>
    simp only [Except.mapError, bind, Except.bind]
    cases v.tokenize source with
    | error l => simp
    | ok ts =>
      dsimp only
      cases toPostfix ts <;> simp [pure, Except.pure]

/-- The variables are bound to floats, so evaluating fails only for what is on the stack. -/
theorem depth?_of_calculate {source : String} {b : List (String × Float)} {e : EvalError}
    (h : calculate source b = .error (.eval e)) : e.depth?.isSome = true := by
  rw [calculate_eq_compile] at h
  cases hc : Expression.compile source (sortNames (b.map (·.1))) with
  | error e =>
    rw [hc] at h
    cases h
    exact absurd hc (Expression.compile_ne_eval _ _ _)
  | ok made =>
    rw [hc] at h
    cases he : evaluate (Bindings.ofFloats b).value made.tokens with
    | ok x => simp only [bind, Except.bind, he, Except.mapError] at h; cases h
    | error err =>
      simp only [bind, Except.bind, he, Except.mapError] at h
      cases h
      -- the variable was read, so it is one of the declared names, and each of these is bound
      rcases Evaluation.fault_of_evaluate he with ⟨m, hm, hv⟩ | hdepth
      · have hbound : m ∈ b.map (·.1) := mem_sortNames.1 (Expression.mem_of_compile hc hm)
        obtain ⟨x, hx⟩ := Bindings.exists_value_ofFloats_iff.2 hbound
        rw [hx] at hv
        cases hv
      · exact hdepth

theorem calculate_ne_unbound (source : String) (b : List (String × Float)) (n : String) :
    calculate source b ≠ .error (.eval (.unbound n)) := by
  intro h
  cases depth?_of_calculate h

theorem calculate_ne_unusable (source : String) (b : List (String × Float)) (cause : Supplied.Fault) :
    calculate source b ≠ .error (.eval (.unusable cause)) := by
  intro h
  cases depth?_of_calculate h

/-- Only the values that the names have in the end matter. -/
theorem calculate_congr {b c : List (String × Float)}
    (h : ∀ n, (Bindings.ofFloats b).value n = (Bindings.ofFloats c).value n) (source : String) :
    calculate source b = calculate source c := by
  have hnames : sortNames (b.map (·.1)) = sortNames (c.map (·.1)) := by
    refine sortNames_eq_of_mem_iff fun n => ?_
    rw [← Bindings.exists_value_ofFloats_iff, ← Bindings.exists_value_ofFloats_iff, h]
  rw [calculate_eq_compile, calculate_eq_compile, hnames, funext h]

/-! ### Defaults from bindings -/

/-- A builder with every binding declared. -/
def Builder.ofBindings (source : String) (b : List (String × Float)) : Builder :=
  (Builder.new source).declareAll (b.map fun p => (p.1, some (.number p.2)))

namespace Builder

theorem ofBindings_eq (source : String) (b : List (String × Float)) :
    ofBindings source b = (new source).declareFloats (b.map fun p => (p.1, some p.2)) := by
  rw [ofBindings, declareFloats, List.map_map]
  rfl

theorem source_ofBindings (source : String) (b : List (String × Float)) : (ofBindings source b).source = source :=
  source_declareAll _ _

theorem sortNames_ofBindings (source : String) (b : List (String × Float)) :
    sortNames (ofBindings source b).names = sortNames (b.map (·.1)) := by
  rw [ofBindings_eq, sortNames_declareFloats, List.map_map]
  rfl

/-- The defaults of such a builder give every name the value that the bindings give it. -/
theorem exists_defaults_ofBindings (source : String) (b : List (String × Float)) :
    ∃ ds, (ofBindings source b).defaults = .ok ds ∧
      ∀ n, (Bindings.ofFloats ds).value n = (Bindings.ofFloats b).value n := by
  refine ⟨_, (congrArg defaults (ofBindings_eq source b)).trans (defaults_declareFloats source _), fun n => ?_⟩
  have hvalues : (b.map fun p => (p.1, some p.2)).reverse.lookup n = (b.reverse.lookup n).map some := by
    rw [← List.map_reverse]
    exact Named.lookup_map some b.reverse n
  rw [Bindings.value_ofFloats, lookup_lastValues, hvalues, Bindings.value_ofFloats]
  cases b.reverse.lookup n <;> rfl

end Builder

/-! ### Routes -/

/-- What evaluating gives, if there is an expression to evaluate. -/
def outcome (made : Except Failure Issued) (bindings overrides : Bindings) : Except Failure Float :=
  made >>= fun m => (m.expression.evaluate bindings overrides).mapError fun e => .expression (.eval e)

/-- Evaluating a compiled expression is calculating, if its sources of values together give what the bindings
give. -/
theorem outcome_eq_calculate {made : Except Failure Issued} {source : String} {b ds : List (String × Float)}
    (bindings overrides : Bindings) (hmade : made.map (·.expression) =
      ((Expression.compile source (sortNames (b.map (·.1)))).map fun e => { e with defaults := ds }).mapError .expression)
    (hvalue : ∀ n, (Bindings.ofFloats ds ++ bindings ++ overrides).value n = (Bindings.ofFloats b).value n) :
    outcome made bindings overrides = (calculate source b).mapError .expression ∧
      ∀ m, made = .ok m → (m.expression.evaluate bindings overrides).mapError .eval = calculate source b := by
  rw [calculate_eq_compile]
  cases hc : Expression.compile source (sortNames (b.map (·.1))) with
  | error e =>
    rw [hc] at hmade
    cases made with
    | error f => cases hmade; exact ⟨rfl, fun m hm => by cases hm⟩
    | ok m => cases hmade
  | ok e =>
    rw [hc] at hmade
    cases made with
    | error f => cases hmade
    | ok m =>
      have hexpr : m.expression = { e with defaults := ds } := by injection hmade
      have heval : m.expression.evaluate bindings overrides = evaluate (Bindings.ofFloats b).value e.tokens := by
        rw [hexpr, Expression.evaluate, funext hvalue]
      refine ⟨?_, fun m' hm => ?_⟩
      · show (m.expression.evaluate bindings overrides).mapError _ = _
        rw [heval]
        show _ = ((evaluate _ e.tokens).mapError Error.eval).mapError Failure.expression
        cases evaluate (Bindings.ofFloats b).value e.tokens <;> rfl
      · cases hm
        rw [heval]
        rfl

namespace Engine

/-- A text with its bindings gives the same on every route, whatever the engine has been asked before: the
value, or the same error. No variable is ever unbound. -/
theorem routes_agree {env : Environment} (henv : env.Fits) {requests : List Request} (hr : ∀ r ∈ requests, r.Fits)
    (source : String) (b : List (String × Float)) :
    let g := (start env).after requests
    let compiled := (g.compile source (b.map (·.1))).1
    let built := (g.build (Builder.ofBindings source b)).1
    let result := (calculate source b).mapError .expression
    outcome compiled (Bindings.ofFloats b) [] = result ∧
      outcome compiled [] (Bindings.ofFloats b) = result ∧
      outcome built [] [] = result ∧
      (∀ m, compiled = .ok m → ∃ e, Expression.parse m.expression.render = .ok e ∧
        (e.evaluate (Bindings.ofFloats b) []).mapError .eval = calculate source b ∧
        (e.evaluate [] (Bindings.ofFloats b)).mapError .eval = calculate source b) ∧
      (∀ m, built = .ok m → ∃ e, Expression.parse m.expression.render = .ok e ∧
        (e.evaluate [] []).mapError .eval = calculate source b) ∧
      ∀ n, calculate source b ≠ .error (.eval (.unbound n)) := by
  intro g compiled built result
  have sound : g.Sound := (Sound.start henv).after hr
  have hcompiled : compiled.map (·.expression) =
      ((Expression.compile source (sortNames (b.map (·.1)))).map fun e => { e with defaults := [] }).mapError
        .expression := by
    rw [Expression.map_defaults_nil_compile]
    exact (sound.compile source (b.map (·.1))).1
  obtain ⟨ds, hds, hvalue⟩ := Builder.exists_defaults_ofBindings source b
  have hbuilt := sound.build_eq_uncached hds
  rw [Builder.sortNames_ofBindings, Builder.source_ofBindings] at hbuilt
  have bound := outcome_eq_calculate (.ofFloats b) [] hcompiled fun n => by rw [List.append_nil]; rfl
  have overridden := outcome_eq_calculate [] (.ofFloats b) hcompiled fun _ => rfl
  have defaulted := outcome_eq_calculate [] [] hbuilt fun n => by rw [List.append_nil, List.append_nil]; exact hvalue n
  refine ⟨bound.1, overridden.1, defaulted.1, fun m hm => ?_, fun m hm => ?_, calculate_ne_unbound source b⟩
  · exact ⟨m.expression, m.expression.parse_render, bound.2 m hm, overridden.2 m hm⟩
  · exact ⟨m.expression, m.expression.parse_render, defaulted.2 m hm⟩

/-- A name bound twice, in a cache for one that has dropped the text once and held a build of it with another
default. -/
theorem routes_agree_evicted :
    let one := Binary64.ofRat 1
    let two := Binary64.ofRat 2
    let env : Environment := [(Settings.cacheSizeName, "1")]
    let requests : List Request :=
      [.compile "x*y" ["y", "x"], .compile "x+1" ["x"], .compile "1 $" [],
        .build ((Builder.new "x*y").declareAll [("y", none), ("x", some (.number one))])]
    let b : List (String × Float) := [("y", one), ("x", two), ("y", two)]
    let g := (start env).after requests
    env.Fits ∧ (∀ r ∈ requests, r.Fits) ∧
      outcome (g.compile "x*y" ["y", "x", "y"]).1 (Bindings.ofFloats b) [] =
        (calculate "x*y" b).mapError .expression ∧
      outcome (g.build (Builder.ofBindings "x*y" b)).1 [] [] = (calculate "x*y" b).mapError .expression := by
  intro one two env requests b g
  have henv : env.Fits := by show (1 : Nat) ≤ maxCacheSize; decide
  have hr : ∀ r ∈ requests, r.Fits := by simp [requests, Request.Fits]
  obtain ⟨hbound, -, hbuilt, -⟩ := routes_agree henv hr "x*y" b
  exact ⟨henv, hr, hbound, hbuilt⟩

end Engine

end Reckon
