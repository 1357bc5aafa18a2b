import Reckon.Proofs.Pending

/-!
# Balanced brackets

Nothing but the brackets can stand in the way of a conversion: it succeeds exactly if they balance
(`exists_toPostfix_eq_ok_iff`). A step fails only for a closing bracket with no open group below it, so a run
fails at the first token up to which more groups are closed than are open at its start or opened
(`Postfix.run_eq_error_iff`). Hence the brackets say by counting which error there is
(`toPostfix_blames_first_unmatched`).
-/

namespace Reckon

variable {α β : Type}

/-- No beginning closes more groups than it has opened, and at the end every group is closed. -/
def Balanced (opens closes : α → Bool) (l : List α) : Prop :=
  (∀ n, (l.take n).countP closes ≤ (l.take n).countP opens) ∧ l.countP closes = l.countP opens

theorem balanced_map {opens closes : β → Bool} {f : α → β} {l : List α} :
    Balanced opens closes (l.map f) ↔ Balanced (opens ∘ f) (closes ∘ f) l := by
  simp only [Balanced, ← List.map_take, List.countP_map]

/-- What is balanced in itself may be put in anywhere. -/
theorem balanced_insert_iff {opens closes : α → Bool} {mid : List α} (hmid : Balanced opens closes mid) (l r : List α) :
    Balanced opens closes (l ++ (mid ++ r)) ↔ Balanced opens closes (l ++ r) := by
  have htotal : (l ++ (mid ++ r)).countP closes = (l ++ (mid ++ r)).countP opens ↔
      (l ++ r).countP closes = (l ++ r).countP opens := by
    have := hmid.2
    simp only [List.countP_append]
    omega
  refine and_congr ⟨fun h n => ?_, fun h n => ?_⟩ htotal
  · rcases Nat.le_total n l.length with hn | hn
    · have hl := h n
      rwa [List.take_append_of_le_length hn] at hl ⊢
    · obtain ⟨k, rfl⟩ := Nat.exists_eq_add_of_le hn
      have hall := h (l.length + (mid.length + k))
      have := hmid.2
      simp only [List.take_length_add_append, List.countP_append] at hall ⊢
      omega
  · rcases Nat.le_total n l.length with hn | hn
    · have hl := h n
      rwa [List.take_append_of_le_length hn] at hl ⊢
    obtain ⟨k, rfl⟩ := Nat.exists_eq_add_of_le hn
    rcases Nat.le_total k mid.length with hk | hk
    · have hl := h l.length
      have := hmid.1 k
      rw [List.take_left] at hl
      rw [List.take_length_add_append, List.take_append_of_le_length hk]
      simp only [List.countP_append]
      omega
    · obtain ⟨j, rfl⟩ := Nat.exists_eq_add_of_le hk
      have hall := h (l.length + j)
      have := hmid.2
      simp only [List.take_length_add_append, List.countP_append] at hall ⊢
      omega

theorem Balanced.append {opens closes : α → Bool} {l r : List α} (hl : Balanced opens closes l)
    (hr : Balanced opens closes r) : Balanced opens closes (l ++ r) := by
  have h := balanced_insert_iff hr l []
  rw [List.append_nil, List.append_nil] at h
  exact h.2 hl

theorem Token.isOpening_of_isClosing {t : Token} (h : t.isClosing = true) : t.isOpening = false := by
  cases t with
  | bracket b =>
    obtain ⟨shape, side⟩ := b
    cases side with
    | opening => cases h
    | closing => rfl
  | _ => rfl

namespace Postfix

variable {stack : List Pending}

theorem closeGroup_eq_none_iff : closeGroup stack = none ↔ openings stack = 0 := by
  fun_induction closeGroup stack with
  | case1 => simp
  | case2 f stack => simp
  | case3 stack hs => simp
  | case4 o stack ih => simpa using ih
  | case5 f stack ih => simpa using ih

theorem step_eq_none_iff {t : Token} : step stack t = none ↔ t.isClosing = true ∧ openings stack = 0 := by
  cases t with
  | bracket b =>
    obtain ⟨shape, side⟩ := b
    cases side with
    | opening => simp [step, Token.isClosing]
    | closing => simpa [step, Token.isClosing] using closeGroup_eq_none_iff
  | _ => simp [step, Token.isClosing]

/-- With this many groups open, more groups are closed than are open or opened. -/
def Overcloses (opened : Nat) (ts : List Token) : Prop :=
  opened + ts.countP Token.isOpening < ts.countP Token.isClosing

theorem not_overcloses_nil (n : Nat) : ¬Overcloses n [] := by simp [Overcloses]

theorem overcloses_cons_of_step {t : Token} {ts out : List Token} {mid : List Pending}
    (h : step stack t = some (out, mid)) : Overcloses (openings stack) (t :: ts) ↔ Overcloses (openings mid) ts := by
  have hstep := openings_step h
  rw [Overcloses, Overcloses, ← List.singleton_append, List.countP_append, List.countP_append]
  omega

/-- A run fails at the first token that closes a group when none is left open. -/
theorem run_eq_error_iff {i : Nat} {ts : List Token} {e : GroupError} : run i stack ts = .error e ↔
    ∃ k, e = .unmatched (i + k) ∧ Overcloses (openings stack) (ts.take (k + 1)) ∧
      ∀ j ≤ k, ¬Overcloses (openings stack) (ts.take j) := by
  induction ts generalizing i stack with
  | nil => simp [run, not_overcloses_nil]
  | cons t ts ih =>
    rcases hs : step stack t with _ | ⟨out, mid⟩
    · obtain ⟨hclose, hnone⟩ := step_eq_none_iff.1 hs
      have hfirst : Overcloses (openings stack) [t] := by
        simp [Overcloses, hclose, Token.isOpening_of_isClosing hclose, hnone]
      rw [run, hs]
      constructor
      · rintro ⟨⟩
        refine ⟨0, rfl, hfirst, fun j hj => ?_⟩
        rw [Nat.le_zero.1 hj]
        exact not_overcloses_nil _
      · rintro ⟨k, rfl, -, hbefore⟩
        cases k with
        | zero => rfl
        | succ k => exact absurd hfirst (hbefore 1 (by omega))
    · have hcons : run i stack (t :: ts) = .error e ↔ run (i + 1) mid ts = .error e := by
        rw [run, hs]
        cases h : run (i + 1) mid ts <;> simp [Except.map, h]
      rw [hcons, ih]
      constructor
      · rintro ⟨k, rfl, hk, hbefore⟩
        refine ⟨k + 1, by rw [Nat.add_right_comm, Nat.add_assoc], (overcloses_cons_of_step hs).2 hk, fun j hj => ?_⟩
        cases j with
        | zero => exact not_overcloses_nil _
        | succ j => exact fun hover => hbefore j (by omega) ((overcloses_cons_of_step hs).1 hover)
      · rintro ⟨k, rfl, hk, hbefore⟩
        cases k with
        | zero => exact absurd ((overcloses_cons_of_step hs).1 hk) (not_overcloses_nil _)
        | succ k =>
          refine ⟨k, by rw [Nat.add_right_comm, Nat.add_assoc], (overcloses_cons_of_step hs).1 hk, fun j hj hover => ?_⟩
          exact hbefore (j + 1) (by omega) ((overcloses_cons_of_step hs).2 hover)

theorem exists_run_eq_ok_iff {i : Nat} {ts : List Token} : (∃ p, run i stack ts = .ok p) ↔
    ∀ n, (ts.take n).countP Token.isClosing ≤ openings stack + (ts.take n).countP Token.isOpening := by
  simp only [← Nat.not_lt]
  constructor
  · rintro ⟨p, hp⟩ n
    induction n using Nat.strongRecOn with
    | ind n ih =>
      cases n with
      | zero => simp
      | succ n =>
        -- a beginning that closes too much, with none before it, would be blamed
        intro hover
        have herror : run i stack ts = .error (.unmatched (i + n)) :=
          run_eq_error_iff.2 ⟨n, rfl, hover, fun j hj => ih j (by omega)⟩
        rw [hp] at herror
        cases herror
  · intro hall
    cases h : run i stack ts with
    | ok p => exact ⟨p, rfl⟩
    | error e =>
      obtain ⟨k, -, hk, -⟩ := run_eq_error_iff.1 h
      exact absurd hk (hall (k + 1))

theorem exists_run_nil_eq_ok_iff {ts : List Token} : (∃ p, run 0 [] ts = .ok p) ↔
    ∀ n, (ts.take n).countP Token.isClosing ≤ (ts.take n).countP Token.isOpening := by
  rw [exists_run_eq_ok_iff]
  simp

end Postfix

open Postfix

/-- The brackets decide alone whether tokens can be converted. -/
theorem exists_toPostfix_eq_ok_iff {ts : List Token} :
    (∃ out, toPostfix ts = .ok out) ↔ Balanced Token.isOpening Token.isClosing ts := by
  constructor
  · rintro ⟨out, h⟩
    obtain ⟨first, stack, hr, hstack, -⟩ := toPostfix_eq_ok.1 h
    have hcount := openings_run hr
    rw [hstack, openings_nil, Nat.zero_add, Nat.zero_add] at hcount
    exact ⟨exists_run_nil_eq_ok_iff.1 ⟨_, hr⟩, hcount⟩
  · rintro ⟨htake, hcount⟩
    obtain ⟨⟨first, stack⟩, hr⟩ := exists_run_nil_eq_ok_iff.2 htake
    have hopen := openings_run hr
    rw [hcount, openings_nil, Nat.zero_add, Nat.add_eq_right] at hopen
    exact ⟨_, toPostfix_eq_ok.2 ⟨first, stack, hr, hopen, rfl⟩⟩

theorem exists_toPostfix_eq_error_iff {ts : List Token} :
    (∃ e, toPostfix ts = .error e) ↔ ¬Balanced Token.isOpening Token.isClosing ts := by
  rw [← exists_toPostfix_eq_ok_iff]
  cases toPostfix ts <;> simp

/-! ### Which bracket is to blame -/

/-- The side of a bracket, none for any other token. -/
def Token.side? : Token → Option Side
  | bracket b => some b.side
  | _ => none

theorem Token.isOpening_eq_side? (t : Token) : t.isOpening = (t.side? == some .opening) := by
  rcases t with _ | _ | _ | _ | ⟨_, _ | _⟩ <;> rfl

theorem Token.isClosing_eq_side? (t : Token) : t.isClosing = (t.side? == some .closing) := by
  rcases t with _ | _ | _ | _ | ⟨_, _ | _⟩ <;> rfl

/-- Tokens with the same sides have the same counts of what depends on the sides. -/
theorem Token.countP_congr_side? {ts us : List Token} (h : us.map side? = ts.map side?) {p : Token → Bool}
    {q : Option Side → Bool} (hp : ∀ t, p t = q t.side?) : us.countP p = ts.countP p := by
  have hcomp : p = q ∘ side? := funext hp
  rw [hcomp, ← List.countP_map, h, List.countP_map]

/-- Converting fails where the run does, or at its end with a group open. -/
theorem toPostfix_eq_error_iff {ts : List Token} {e : GroupError} : toPostfix ts = .error e ↔
    run 0 [] ts = .error e ∨ e = .unclosed ∧ ∃ out stack, run 0 [] ts = .ok (out, stack) ∧ openings stack ≠ 0 := by
  rw [toPostfix]
  cases h : run 0 [] ts with
  | error e' => simp [bind, Except.bind]
  | ok p =>
    obtain ⟨out, stack⟩ := p
    simp only [bind, Except.bind, flush_eq]
    by_cases ho : openings stack = 0
    · simp [ho, pure, Except.pure]
    · simp [ho, @eq_comm _ e]

theorem toPostfix_eq_unmatched_iff {ts : List Token} {i : Nat} : toPostfix ts = .error (.unmatched i) ↔
    (ts.take (i + 1)).countP Token.isOpening < (ts.take (i + 1)).countP Token.isClosing ∧
      ∀ j ≤ i, (ts.take j).countP Token.isClosing ≤ (ts.take j).countP Token.isOpening := by
  rw [toPostfix_eq_error_iff, run_eq_error_iff]
  simp [Overcloses]

theorem toPostfix_eq_unclosed_iff {ts : List Token} : toPostfix ts = .error .unclosed ↔
    (∀ j, (ts.take j).countP Token.isClosing ≤ (ts.take j).countP Token.isOpening) ∧
      ts.countP Token.isClosing < ts.countP Token.isOpening := by
  rw [toPostfix_eq_error_iff, run_eq_error_iff, ← exists_run_nil_eq_ok_iff]
  constructor
  · rintro (⟨k, he, -⟩ | ⟨-, out, stack, hr, ho⟩)
    · cases he
    · have hcount := openings_run hr
      rw [openings_nil] at hcount
      exact ⟨⟨_, hr⟩, by omega⟩
  · rintro ⟨⟨⟨out, stack⟩, hr⟩, hlt⟩
    have hcount := openings_run hr
    rw [openings_nil] at hcount
    exact .inr ⟨rfl, out, stack, hr, by omega⟩

/-- Converting fails at the first token up to which more groups are closed than opened, or at the end if there is
none but a group is left open. It succeeds in every other case. Only the sides of the brackets count, and where
they are. -/
theorem toPostfix_blames_first_unmatched (ts : List Token) :
    (∀ i, toPostfix ts = .error (.unmatched i) ↔
      (ts.take (i + 1)).countP Token.isOpening < (ts.take (i + 1)).countP Token.isClosing ∧
        ∀ j ≤ i, (ts.take j).countP Token.isClosing ≤ (ts.take j).countP Token.isOpening) ∧
    (toPostfix ts = .error .unclosed ↔
      (∀ j, (ts.take j).countP Token.isClosing ≤ (ts.take j).countP Token.isOpening) ∧
        ts.countP Token.isClosing < ts.countP Token.isOpening) ∧
    ((∃ out, toPostfix ts = .ok out) ↔ Balanced Token.isOpening Token.isClosing ts) ∧
    ∀ us : List Token, us.map Token.side? = ts.map Token.side? →
      ∀ e, toPostfix us = .error e ↔ toPostfix ts = .error e := by
  refine ⟨fun i => toPostfix_eq_unmatched_iff, toPostfix_eq_unclosed_iff, exists_toPostfix_eq_ok_iff, ?_⟩
  intro us hside e
  have htake : ∀ n, (us.take n).map Token.side? = (ts.take n).map Token.side? := fun n => by
    rw [List.map_take, List.map_take, hside]
  have hopens : ∀ n, (us.take n).countP Token.isOpening = (ts.take n).countP Token.isOpening := fun n =>
    Token.countP_congr_side? (q := (· == some .opening)) (htake n) Token.isOpening_eq_side?
  have hcloses : ∀ n, (us.take n).countP Token.isClosing = (ts.take n).countP Token.isClosing := fun n =>
    Token.countP_congr_side? (q := (· == some .closing)) (htake n) Token.isClosing_eq_side?
  cases e with
  | unmatched i => simp only [toPostfix_eq_unmatched_iff, hopens, hcloses]
  | unclosed =>
    have hlength : us.length = ts.length := by simpa using congrArg List.length hside
    have hopen := hopens us.length
    have hclose := hcloses us.length
    rw [List.take_length, hlength, List.take_length] at hopen hclose
    simp only [toPostfix_eq_unclosed_iff, hopens, hcloses, hopen, hclose]

end Reckon
