import Reckon.Proofs.Tree

/-!
# The infix grammar

`IsInfix` says which token sequences are infix expressions and `Denotes` which tree one has. The root of a
scope is its operator that is applied last: those to its left are applied before it, and so are those to
its right (`Operator.Yields`). A function takes the bracketed scope behind it; without a bracket behind it
the function takes the rest of its scope. Every infix expression has a tree (`IsInfix.exists_denotes`).
-/

namespace Reckon

mutual
/-- Operands joined by operators. -/
inductive IsInfix : List Token → Prop
  | operand {ts : List Token} : IsOperand ts → IsInfix ts
  | join {ts us : List Token} (o : Operator) : IsOperand ts → IsInfix us → IsInfix (ts ++ .op o :: us)

/-- A number, a variable, a function with an operand behind it, or a group in any brackets. -/
inductive IsOperand : List Token → Prop
  | num (x : Float) : IsOperand [.num x]
  | var (n : String) : IsOperand [.var n]
  | call {ts : List Token} (f : Func) : IsOperand ts → IsOperand (.fn f :: ts)
  | group {ts : List Token} (l r : BracketShape) : IsInfix ts →
      IsOperand (.bracket ⟨l, .opening⟩ :: (ts ++ [.bracket ⟨r, .closing⟩]))
end

/-! ### Operators of one scope -/

namespace Operator

inductive Rank
  | sum
  | product
  | power

def rank : Operator → Rank
  | add | sub => .sum
  | mul | div | mod => .product
  | pow => .power

/-- Within a scope, `p` is applied before `o` if it stands on this side of it: powers are applied before
products and these before sums, powers from the right and all others from the left. -/
def Yields (o : Operator) (side : Associativity) (p : Operator) : Prop :=
  match o.rank, p.rank with
  | .sum, .sum | .product, .product => side = .left
  | .power, .power => side = .right
  | .sum, .product | .sum, .power | .product, .power => True
  | .product, .sum | .power, .sum | .power, .product => False

theorem yields_left_iff {o p : Operator} : o.Yields .left p ↔ p.bindsBefore o = true := by
  cases o <;> cases p <;> simp [Yields, rank, bindsBefore, associativity, precedence]

theorem yields_right_iff {o p : Operator} : o.Yields .right p ↔ o.bindsBefore p = false := by
  cases o <;> cases p <;> simp [Yields, rank, bindsBefore, associativity, precedence]

theorem yields_or (o p : Operator) : p.Yields .left o ∨ o.Yields .right p := by
  rw [yields_left_iff, yields_right_iff]
  cases o.bindsBefore p <;> simp

theorem Yields.trans {o p q : Operator} {side : Associativity} (h : o.Yields .right p) (h' : p.Yields side q) :
    o.Yields .right q := by
  unfold Yields at h h' ⊢
  generalize o.rank = i, p.rank = j, q.rank = k at h h' ⊢
  cases i <;> cases j <;> cases k <;> simp_all

end Operator

/-! ### Scopes -/

/-- Tokens that are operands joined by the operators `ops`, with their tree. Unless it is `closed`, the
scope ends in a function without brackets. -/
inductive Scope : Bool → List Operator → List Token → Tree → Prop
  | num (x : Float) : Scope true [] [.num x] (.num x)
  | var (n : String) : Scope true [] [.var n] (.var n)
  | group {closed : Bool} {ops : List Operator} {ts : List Token} {t : Tree} (l r : BracketShape) :
      Scope closed ops ts t →
      Scope true [] (.bracket ⟨l, .opening⟩ :: (ts ++ [.bracket ⟨r, .closing⟩])) t
  | call {closed : Bool} {ops : List Operator} {ts : List Token} {t : Tree} (f : Func) (l r : BracketShape) :
      Scope closed ops ts t →
      Scope true [] (.fn f :: .bracket ⟨l, .opening⟩ :: (ts ++ [.bracket ⟨r, .closing⟩])) (.fn f t)
  | bare {closed : Bool} {ops : List Operator} {ts : List Token} {t : Tree} (f : Func) :
      Scope closed ops ts t → (∀ s ∈ ts.head?, s.isOpening = false) →
      Scope false [] (.fn f :: ts) (.fn f t)
  | join {closed : Bool} {ps qs : List Operator} {ls rs : List Token} {l r : Tree} (o : Operator) :
      Scope true ps ls l → Scope closed qs rs r →
      (∀ p ∈ ps, o.Yields .left p) → (∀ q ∈ qs, o.Yields .right q) →
      Scope closed (ps ++ o :: qs) (ls ++ .op o :: rs) (.op o l r)

/-- The tokens are an infix expression, and this is its tree. -/
def Denotes (ts : List Token) (t : Tree) : Prop := ∃ closed ops, Scope closed ops ts t

/-- An operand in front of a scope goes below the operators that it does not yield to. -/
theorem Scope.insert {closed : Bool} {ops : List Operator} {is ts : List Token} {a t : Tree} (o : Operator)
    (hi : Scope true [] is a) (h : Scope closed ops ts t) :
    ∃ u, Scope closed (o :: ops) (is ++ .op o :: ts) u := by
  have single {closed : Bool} {ts : List Token} {t : Tree} (h : Scope closed [] ts t) :
      ∃ u, Scope closed [o] (is ++ .op o :: ts) u :=
    ⟨_, .join o hi h (by simp) (by simp)⟩
  induction h with
  | num x => exact single (.num x)
  | var n => exact single (.var n)
  | group l r h => exact single (.group l r h)
  | call f l r h => exact single (.call f l r h)
  | bare f h hne => exact single (.bare f h hne)
  | @join closed ps qs ls rs l r p hl hr hps hqs ih _ =>
    rcases Operator.yields_or o p with hop | hop
    · obtain ⟨u, hu⟩ := ih
      refine ⟨.op p u r, ?_⟩
      have hps' : ∀ q ∈ o :: ps, p.Yields .left q := List.forall_mem_cons.2 ⟨hop, hps⟩
      simpa using Scope.join p hu hr hps' hqs
    · refine ⟨_, Scope.join o hi (.join p hl hr hps hqs) (by simp) fun q hq => ?_⟩
      rcases List.mem_append.1 hq with hq | hq
      · exact hop.trans (hps q hq)
      rcases List.mem_cons.1 hq with rfl | hq
      · exact hop
      · exact hop.trans (hqs q hq)

theorem Denotes.bare {ts : List Token} {t : Tree} (f : Func) (h : Denotes ts t)
    (hne : ∀ s ∈ ts.head?, s.isOpening = false) : Denotes (.fn f :: ts) (.fn f t) :=
  let ⟨_, _, hs⟩ := h
  ⟨false, [], .bare f hs hne⟩

/-- The tokens can begin a scope: they make one alone, and with an operator and a scope behind them. -/
def BeginsScope (ts : List Token) : Prop :=
  (∃ t, Denotes ts t) ∧ ∀ o us u, Denotes us u → ∃ t, Denotes (ts ++ .op o :: us) t

theorem Scope.beginsScope {ts : List Token} {t : Tree} (h : Scope true [] ts t) : BeginsScope ts := by
  refine ⟨⟨t, true, [], h⟩, fun o us u hu => ?_⟩
  obtain ⟨closed, ops, hs⟩ := hu
  obtain ⟨v, hv⟩ := Scope.insert o h hs
  exact ⟨v, closed, _, hv⟩

theorem BeginsScope.bare {ts : List Token} {t : Token} (f : Func) (h : BeginsScope (t :: ts))
    (hne : t.isOpening = false) : BeginsScope (.fn f :: t :: ts) := by
  refine ⟨?_, fun o us u hu => ?_⟩
  · obtain ⟨v, hv⟩ := h.1
    exact ⟨_, hv.bare f (by simpa using hne)⟩
  · obtain ⟨v, hv⟩ := h.2 o us u hu
    exact ⟨_, hv.bare f (by simpa using hne)⟩

mutual
theorem IsInfix.exists_denotes {ts : List Token} : IsInfix ts → ∃ t, Denotes ts t
  | .operand h => h.beginsScope.1.1
  | .join o h h' =>
    let ⟨u, hu⟩ := h'.exists_denotes
    h.beginsScope.1.2 o _ u hu

/-- An operand begins a scope, with a function in front of it too. -/
theorem IsOperand.beginsScope {ts : List Token} :
    IsOperand ts → BeginsScope ts ∧ ∀ f, BeginsScope (.fn f :: ts)
  | .num x =>
    have h := (Scope.num x).beginsScope
    ⟨h, fun f => h.bare f rfl⟩
  | .var n =>
    have h := (Scope.var n).beginsScope
    ⟨h, fun f => h.bare f rfl⟩
  | .call g h => ⟨h.beginsScope.2 g, fun f => (h.beginsScope.2 g).bare f rfl⟩
  | .group l r h =>
    let ⟨_, _, _, hs⟩ := h.exists_denotes
    ⟨(Scope.group l r hs).beginsScope, fun f => (Scope.call f l r hs).beginsScope⟩
end

end Reckon
