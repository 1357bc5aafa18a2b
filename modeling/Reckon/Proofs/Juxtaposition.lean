import Reckon.Proofs.Grammar
import Reckon.Proofs.Pending

/-!
# Values of ill-formed infix sequences

No stage checks that operands and operators alternate. Still a sequence that converts and evaluates to a
value is an infix expression, or it has two operands side by side (`infix_or_juxtaposed_of_value`).

Look at the places between two tokens, the start and the end included. At a gap an operand is wanted and
none begins, at a juxtaposition one ends and another begins. The gaps are as many more than the
juxtapositions as the surplus of the sequence is less than one (`gaps_add_surplus`), and what has a
value has surplus one. Without gaps and juxtapositions, and with balanced brackets, the tokens alternate
(`alternates_of_run`), and from that a derivation is read off (`Alternates.exists_segments`).
-/

namespace Reckon

namespace Token

/-- An operand may end with the token: numbers, variables and closing brackets. -/
def endsOperand : Token → Bool
  | num _ | var _ => true
  | bracket b => b.side = .closing
  | op _ | fn _ => false

/-- An operand may begin with the token: numbers, variables, functions and opening brackets. -/
def beginsOperand : Token → Bool
  | num _ | var _ | fn _ => true
  | bracket b => b.side = .opening
  | op _ => false

end Token

/-- One operand ends and the next token begins another. -/
def Juxtaposed (ts : List Token) : Prop :=
  ∃ before s t behind, ts = before ++ s :: t :: behind ∧ s.endsOperand ∧ t.beginsOperand

/-- Somewhere an operand is wanted and none begins: an operator is the first or the last token, stands
behind another one or at an edge of a group, a group is empty, or a function has no argument. -/
def LacksOperand (ts : List Token) : Prop :=
  ∃ before behind, ts = before ++ behind ∧ (∀ s ∈ before.getLast?, s.endsOperand = false) ∧
    ∀ t ∈ behind.head?, t.beginsOperand = false

/-! ### Places between tokens -/

/-- How often two operands meet; `ended` says whether one has ended in front of the tokens. -/
def juxtapositions (ended : Bool) : List Token → Nat
  | [] => 0
  | t :: ts => (if ended && t.beginsOperand then 1 else 0) + juxtapositions t.endsOperand ts

/-- How often an operand is wanted and none begins. -/
def gaps (ended : Bool) : List Token → Nat
  | [] => if ended then 0 else 1
  | t :: ts => (if !ended && !t.beginsOperand then 1 else 0) + gaps t.endsOperand ts

/-- Each place adds the same to both sides, whatever stands there. -/
theorem gaps_add_surplus (ended : Bool) (ts : List Token) :
    (gaps ended ts : Int) + Token.surplus ts + (if ended then 1 else 0) = juxtapositions ended ts + 1 := by
  induction ts generalizing ended with
  | nil => cases ended <;> rfl
  | cons t ts ih =>
    have place : ((if !ended && !t.beginsOperand then 1 else 0 : Nat) : Int) + Token.surplus [t] +
        (if ended then 1 else 0) =
          (if ended && t.beginsOperand then 1 else 0 : Nat) + if t.endsOperand then 1 else 0 := by
      cases t with
      | bracket b => obtain ⟨shape, side⟩ := b; cases side <;> cases ended <;> rfl
      | _ => cases ended <;> rfl
    have := ih t.endsOperand
    rw [Token.surplus_cons, gaps, juxtapositions, Int.natCast_add, Int.natCast_add]
    omega

theorem juxtaposed_of_juxtapositions {ended : Bool} {ts : List Token} (h : juxtapositions ended ts ≠ 0) :
    Juxtaposed ts ∨ ended = true ∧ ∃ t ∈ ts.head?, t.beginsOperand := by
  induction ts generalizing ended with
  | nil => exact absurd rfl h
  | cons t ts ih =>
    by_cases hb : (ended && t.beginsOperand) = true
    · rw [Bool.and_eq_true] at hb
      exact .inr ⟨hb.1, t, rfl, hb.2⟩
    · rw [juxtapositions, if_neg hb, Nat.zero_add] at h
      rcases ih h with ⟨before, s, u, behind, rfl, hs, hu⟩ | ⟨he, u, hu, hbegins⟩
      · exact .inl ⟨t :: before, s, u, behind, rfl, hs, hu⟩
      · obtain ⟨rest, rfl⟩ : ∃ rest, ts = u :: rest := by
          cases ts with
          | nil => cases hu
          | cons u' rest => cases hu; exact ⟨rest, rfl⟩
        exact .inl ⟨[], t, u, rest, rfl, he, hbegins⟩

theorem juxtapositions_eq_zero {ts : List Token} (h : ¬Juxtaposed ts) : juxtapositions false ts = 0 := by
  by_contra hne
  rcases juxtaposed_of_juxtapositions hne with hj | ⟨he, -⟩
  · exact h hj
  · cases he

theorem gaps_append_ne_zero {before behind : List Token} {ended : Bool}
    (hl : ∀ s ∈ before.getLast?, s.endsOperand = false) (hr : ∀ t ∈ behind.head?, t.beginsOperand = false)
    (he : before = [] → ended = false) : gaps ended (before ++ behind) ≠ 0 := by
  induction before generalizing ended with
  | nil =>
    cases he rfl
    cases behind with
    | nil => simp [gaps]
    | cons t ts => simp [gaps, hr t rfl]
  | cons s before ih =>
    have hs : before = [] → s.endsOperand = false := by rintro rfl; exact hl s rfl
    have hl' : ∀ u ∈ before.getLast?, u.endsOperand = false := by
      intro u hu
      refine hl u ?_
      cases before with
      | nil => cases hu
      | cons v before => rwa [List.getLast?_cons_cons]
    have := ih hl' hs
    rw [List.cons_append, gaps]
    omega

theorem gaps_ne_zero_of_lacksOperand {ts : List Token} (h : LacksOperand ts) : gaps false ts ≠ 0 := by
  obtain ⟨before, behind, rfl, hl, hr⟩ := h
  exact gaps_append_ne_zero hl hr fun _ => rfl

/-- What has a value in the end has surplus one, and so as many gaps as juxtapositions. -/
theorem gaps_eq_juxtapositions {ρ : Valuation} {ts out : List Token} {x : Float}
    (hc : toPostfix ts = .ok out) (hv : evaluate ρ out = .ok x) : gaps false ts = juxtapositions false ts := by
  obtain ⟨t, rfl, -⟩ := exists_tree_of_evaluate hv
  have hsurplus : Token.surplus ts = 1 := by
    rw [← Token.surplus_filter_bearsValue, ← Token.surplus_perm (perm_of_toPostfix hc), t.surplus_postorder]
  have := gaps_add_surplus false ts
  simp only [hsurplus, Bool.false_eq_true, if_false] at this
  omega

theorem gaps_eq_zero {ρ : Valuation} {ts out : List Token} {x : Float} (hc : toPostfix ts = .ok out)
    (hv : evaluate ρ out = .ok x) (hj : ¬Juxtaposed ts) : gaps false ts = 0 := by
  rw [gaps_eq_juxtapositions hc hv, juxtapositions_eq_zero hj]

/-! ### Alternating tokens -/

/-- Operands and operators take turns inside `d` open groups. -/
inductive Alternates : Nat → Bool → List Token → Prop
  | done : Alternates 0 true []
  | num {d : Nat} {ts : List Token} (x : Float) : Alternates d true ts → Alternates d false (.num x :: ts)
  | var {d : Nat} {ts : List Token} (n : String) : Alternates d true ts → Alternates d false (.var n :: ts)
  | fn {d : Nat} {ts : List Token} (f : Func) : Alternates d false ts → Alternates d false (.fn f :: ts)
  | opening {d : Nat} {ts : List Token} (s : BracketShape) : Alternates (d + 1) false ts →
      Alternates d false (.bracket ⟨s, .opening⟩ :: ts)
  | op {d : Nat} {ts : List Token} (o : Operator) : Alternates d false ts → Alternates d true (.op o :: ts)
  | closing {d : Nat} {ts : List Token} (s : BracketShape) : Alternates d true ts →
      Alternates (d + 1) true (.bracket ⟨s, .closing⟩ :: ts)

open Postfix in
theorem alternates_of_run {i : Nat} {stack rest : List Pending} {ts out : List Token} {ended : Bool}
    (h : run i stack ts = .ok (out, rest)) (hrest : openings rest = 0) (hg : gaps ended ts = 0)
    (hj : juxtapositions ended ts = 0) : Alternates (openings stack) ended ts := by
  induction ts generalizing i stack out ended with
  | nil =>
    cases h
    cases ended with
    | false => simp [gaps] at hg
    | true => rw [hrest]; exact .done
  | cons t ts ih =>
    obtain ⟨out₁, mid, out₂, hs, hr, rfl⟩ := run_cons_eq_ok.1 h
    rw [gaps, Nat.add_eq_zero_iff] at hg
    rw [juxtapositions, Nat.add_eq_zero_iff] at hj
    have hmid := ih hr hg.2 hj.2
    -- no gap and no juxtaposition in front of `t`
    obtain rfl : ended = !t.beginsOperand := by
      cases ended <;> simp_all
    cases t with
    | num x => cases hs; exact .num x hmid
    | var n => cases hs; exact .var n hmid
    | op o =>
      cases hs
      rw [openings_op, openings_popBefore] at hmid
      exact .op o hmid
    | fn f =>
      cases hs
      rw [openings_fn] at hmid
      exact .fn f hmid
    | bracket b =>
      obtain ⟨shape, side⟩ := b
      cases side with
      | opening =>
        cases hs
        rw [openings_opening] at hmid
        exact .opening shape hmid
      | closing =>
        rw [openings_closeGroup hs]
        exact .closing shape hmid

theorem IsInfix.call {ts : List Token} (f : Func) (h : IsInfix ts) : IsInfix (.fn f :: ts) := by
  cases h with
  | operand h => exact .operand (.call f h)
  | join o h h' => exact .join o (.call f h) h'

/-- What may follow an operand within its group: nothing, or an operator and more operands. -/
def IsTail (ts : List Token) : Prop := ts = [] ∨ ∃ o us, ts = .op o :: us ∧ IsInfix us

theorem IsOperand.append_tail {ts us : List Token} (h : IsOperand ts) (ht : IsTail us) : IsInfix (ts ++ us) := by
  rcases ht with rfl | ⟨o, vs, rfl, hv⟩
  · rw [List.append_nil]; exact .operand h
  · exact .join o h hv

/-- The rests of `d` groups, each behind the bracket that closes the group in it. -/
inductive Tails : Nat → List Token → Prop
  | nil : Tails 0 []
  | cons {d : Nat} {ts us : List Token} (s : BracketShape) : IsTail ts → Tails d us →
      Tails (d + 1) (.bracket ⟨s, .closing⟩ :: (ts ++ us))

/-- Alternating tokens are the rest of the innermost group and the rests of those around it. -/
theorem Alternates.exists_segments {d : Nat} {ended : Bool} {ts : List Token} (h : Alternates d ended ts) :
    ∃ us vs, ts = us ++ vs ∧ (if ended then IsTail us else IsInfix us) ∧ Tails d vs := by
  induction h with
  | done => exact ⟨[], [], rfl, .inl rfl, .nil⟩
  | num x _ ih =>
    obtain ⟨us, vs, rfl, hu, hv⟩ := ih
    exact ⟨.num x :: us, vs, rfl, (IsOperand.num x).append_tail hu, hv⟩
  | var n _ ih =>
    obtain ⟨us, vs, rfl, hu, hv⟩ := ih
    exact ⟨.var n :: us, vs, rfl, (IsOperand.var n).append_tail hu, hv⟩
  | fn f _ ih =>
    obtain ⟨us, vs, rfl, hu, hv⟩ := ih
    exact ⟨.fn f :: us, vs, rfl, IsInfix.call f hu, hv⟩
  | opening s _ ih =>
    obtain ⟨us, _, rfl, hu, hv⟩ := ih
    cases hv with
    | @cons _ ts vs r ht hv =>
      refine ⟨.bracket ⟨s, .opening⟩ :: (us ++ [.bracket ⟨r, .closing⟩]) ++ ts, vs, ?_, ?_, hv⟩
      · simp
      · exact (IsOperand.group s r hu).append_tail ht
  | op o _ ih =>
    obtain ⟨us, vs, rfl, hu, hv⟩ := ih
    exact ⟨.op o :: us, vs, rfl, .inr ⟨o, us, rfl, hu⟩, hv⟩
  | closing s _ ih =>
    obtain ⟨us, vs, rfl, hu, hv⟩ := ih
    exact ⟨[], _, rfl, .inl rfl, .cons s hu hv⟩

/-- A sequence that converts and evaluates to a value is an infix expression, or two operands stand side
by side in it. In particular, a sequence without such a pair that lacks an operand is refused when it is
converted or when it is evaluated. -/
theorem infix_or_juxtaposed_of_value (ρ : Valuation) (ts : List Token) :
    (∀ out x, toPostfix ts = .ok out → evaluate ρ out = .ok x → IsInfix ts ∨ Juxtaposed ts) ∧
    (¬Juxtaposed ts → LacksOperand ts →
      (∃ e, toPostfix ts = .error e) ∨ ∃ out e, toPostfix ts = .ok out ∧ evaluate ρ out = .error e) := by
  constructor
  · intro out x hc hv
    refine or_iff_not_imp_right.2 fun hj => ?_
    obtain ⟨first, stack, hr, ho, -⟩ := toPostfix_eq_ok.1 hc
    have halt := alternates_of_run hr ho (gaps_eq_zero hc hv hj) (juxtapositions_eq_zero hj)
    obtain ⟨us, vs, rfl, hu, hvs⟩ := halt.exists_segments
    cases hvs
    rw [List.append_nil]
    exact hu
  · intro hj hl
    cases hc : toPostfix ts with
    | error e => exact .inl ⟨e, rfl⟩
    | ok out =>
      cases hv : evaluate ρ out with
      | error e => exact .inr ⟨out, e, rfl, hv⟩
      | ok x => exact absurd (gaps_eq_zero hc hv hj) (gaps_ne_zero_of_lacksOperand hl)

end Reckon
