import Reckon.Proofs.Conversion

/-!
# Scopes with bare calls

A scope is items joined by operators, and a function in front of a bracket takes that bracket alone. The last
item may be a bare call: a function that has no bracket behind it takes all that is left of the scope. The
scopes are the sequences that have a tree (`IsScope.exists_denotes`, `Scope.isScope`), and converting lists it
in postorder (`isScope_iff_toPostfix_eq_postorder`).
-/

namespace Reckon

mutual
/-- Items joined by operators, with perhaps a bare call at the end. -/
inductive IsScope : List Token → Prop
  | item {ts : List Token} : IsItem ts → IsScope ts
  | bare {ts : List Token} (f : Func) : IsScope ts → (∀ s ∈ ts.head?, s.isOpening = false) → IsScope (.fn f :: ts)
  | join {ts us : List Token} (o : Operator) : IsItem ts → IsScope us → IsScope (ts ++ .op o :: us)

/-- A number, a variable, a scope in any brackets, or a function with such a scope directly behind it. -/
inductive IsItem : List Token → Prop
  | num (x : Float) : IsItem [.num x]
  | var (n : String) : IsItem [.var n]
  | group {ts : List Token} (l r : BracketShape) : IsScope ts →
      IsItem (.bracket ⟨l, .opening⟩ :: (ts ++ [.bracket ⟨r, .closing⟩]))
  | call {ts : List Token} (f : Func) (l r : BracketShape) : IsScope ts →
      IsItem (.fn f :: .bracket ⟨l, .opening⟩ :: (ts ++ [.bracket ⟨r, .closing⟩]))
end

/-! ### The tree of a scope -/

mutual
theorem IsScope.exists_denotes {ts : List Token} : IsScope ts → ∃ t, Denotes ts t
  | .item h =>
    let ⟨t, ht⟩ := h.exists_scope
    ⟨t, true, [], ht⟩
  | .bare f h hne =>
    let ⟨_, ht⟩ := h.exists_denotes
    ⟨_, ht.bare f hne⟩
  | .join o h h' => by
    obtain ⟨t, ht⟩ := h.exists_scope
    obtain ⟨u, hu⟩ := h'.exists_denotes
    exact ht.beginsScope.2 o _ u hu

/-- An item has a tree, none of whose operators an operator of the scope can come between. -/
theorem IsItem.exists_scope {ts : List Token} : IsItem ts → ∃ t, Scope true [] ts t
  | .num x => ⟨_, .num x⟩
  | .var n => ⟨_, .var n⟩
  | .group l r h =>
    let ⟨_, _, _, hs⟩ := h.exists_denotes
    ⟨_, .group l r hs⟩
  | .call f l r h =>
    let ⟨_, _, _, hs⟩ := h.exists_denotes
    ⟨_, .call f l r hs⟩
end

/-- What has a tree is a scope; unless it ends in a bare call, it may be the first part of one. -/
theorem Scope.isScope {closed : Bool} {ops : List Operator} {ts : List Token} {t : Tree} (h : Scope closed ops ts t) :
    IsScope ts ∧ (closed = true → ∀ o us, IsScope us → IsScope (ts ++ .op o :: us)) := by
  have item {ts : List Token} (hi : IsItem ts) :
      IsScope ts ∧ (true = true → ∀ o us, IsScope us → IsScope (ts ++ .op o :: us)) :=
    ⟨.item hi, fun _ o _ hu => .join o hi hu⟩
  induction h with
  | num x => exact item (.num x)
  | var n => exact item (.var n)
  | group l r _ ih => exact item (.group l r ih.1)
  | call f l r _ ih => exact item (.call f l r ih.1)
  | bare f _ hne ih => exact ⟨.bare f ih.1 hne, fun hc => by cases hc⟩
  | join o _ _ _ _ ihl ihr =>
    refine ⟨ihl.2 rfl o _ ihr.1, fun hc p us hu => ?_⟩
    rw [List.append_assoc, List.cons_append]
    exact ihl.2 rfl o _ (ihr.2 hc p us hu)

/-- The scopes are the sequences that denote a tree. It is the only one, and converting the scope lists it in
postorder. -/
theorem isScope_iff_toPostfix_eq_postorder (ts : List Token) :
    IsScope ts ↔ ∃ t, Denotes ts t ∧ (∀ u, Denotes ts u → u = t) ∧ toPostfix ts = .ok t.postorder := by
  constructor
  · intro h
    obtain ⟨t, ht⟩ := h.exists_denotes
    exact ⟨t, ht, fun u hu => hu.unique ht, toPostfix_of_denotes ht⟩
  · rintro ⟨t, ⟨closed, ops, hs⟩, -⟩
    exact hs.isScope.1

/-- A bare call takes the product behind it, not the sum in front. -/
example (a b x : String) : toPostfix [.var a, .op .add, .fn .sin, .var x, .op .mul, .var b] =
    .ok [.var a, .var x, .var b, .op .mul, .fn .sin, .op .add] := rfl

/-- A bare call of a bracketed call takes what follows the bracket. -/
example (x y : String) : toPostfix [.fn .sin, .fn .cos, .bracket ⟨.round, .opening⟩, .var x,
      .bracket ⟨.round, .closing⟩, .op .add, .var y] =
    .ok [.var x, .fn .cos, .var y, .op .add, .fn .sin] := rfl

end Reckon
