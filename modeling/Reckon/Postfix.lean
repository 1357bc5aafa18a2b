import Reckon.Token

/-!
# Postfix order

`toPostfix` puts infix tokens into postfix order: every operator and function behind its operands. What
has been read and not yet put out waits on a stack: operators, functions, and a mark for each bracket
still open. Each token makes one `step`, which says what is put out and what waits afterwards; by
`run_append` a sequence is read piece by piece. Only the brackets are checked.
-/

namespace Reckon

/-- Brackets that do not balance. -/
inductive GroupError
  /-- The token at this index closes a group that is not open. -/
  | unmatched (index : Nat)
  /-- At the end a group is still open. -/
  | unclosed
  deriving DecidableEq, Repr

namespace GroupError

/-- The index of the bracket to blame, if there is one. -/
def offset? : GroupError → Option Nat
  | unmatched i => some i
  | unclosed => none

def message : GroupError → String
  | unmatched i => "Unmatched closing bracket at token " ++ toString i
  | unclosed => "Unclosed grouping at end of expression"

end GroupError

/-- What waits for its operands, or for a closing bracket. -/
inductive Pending
  | op (o : Operator)
  | fn (f : Func)
  | opening
  deriving DecidableEq, Repr

namespace Postfix

/-- Takes off the operators that bind before `o`, down to the first that does not. -/
def popBefore (o : Operator) : List Pending → List Token × List Pending
  | .op p :: stack =>
    if p.bindsBefore o then
      let (out, rest) := popBefore o stack
      (.op p :: out, rest)
    else ([], .op p :: stack)
  | stack => ([], stack)

/-- Takes off everything down to the mark of the innermost group, the mark, and the function in front
of the group. There is nothing to take off if no group is open. -/
def closeGroup : List Pending → Option (List Token × List Pending)
  | [] => none
  | .opening :: .fn f :: stack => some ([.fn f], stack)
  | .opening :: stack => some ([], stack)
  | .op o :: stack => (closeGroup stack).map fun (out, rest) => (.op o :: out, rest)
  | .fn f :: stack => (closeGroup stack).map fun (out, rest) => (.fn f :: out, rest)

/-- What a token puts out and what waits behind it; none if it closes a group that is not open. -/
def step (stack : List Pending) : Token → Option (List Token × List Pending)
  | .num x => some ([.num x], stack)
  | .var n => some ([.var n], stack)
  | .fn f => some ([], .fn f :: stack)
  | .op o => let (out, rest) := popBefore o stack; some (out, .op o :: rest)
  | .bracket ⟨_, .opening⟩ => some ([], .opening :: stack)
  | .bracket ⟨_, .closing⟩ => closeGroup stack

/-- What is put out at the end. -/
def flush : List Pending → Except GroupError (List Token)
  | [] => .ok []
  | .opening :: _ => .error .unclosed
  | .op o :: stack => (flush stack).map (.op o :: ·)
  | .fn f :: stack => (flush stack).map (.fn f :: ·)

/-- What tokens put out, the first of them having this index, and what waits behind them. -/
def run (index : Nat) (stack : List Pending) :
    List Token → Except GroupError (List Token × List Pending)
  | [] => .ok ([], stack)
  | t :: ts =>
    match step stack t with
    | none => .error (.unmatched index)
    | some (out, stack) => (run (index + 1) stack ts).map fun (out', rest) => (out ++ out', rest)

theorem run_append (index : Nat) (stack : List Pending) (ts us : List Token) :
    run index stack (ts ++ us) = do
      let (out, rest) ← run index stack ts
      let (out', rest) ← run (index + ts.length) rest us
      return (out ++ out', rest) := by
  induction ts generalizing index stack with
  | nil => cases h : run index stack us <;> simp [run, h, bind, Except.bind, pure, Except.pure]
  | cons t ts ih =>
    simp only [List.cons_append, run, List.length_cons]
    cases step stack t with
    | none => rfl
    | some p =>
      simp only [ih, Nat.add_right_comm _ 1, ← Nat.add_assoc]
      cases run (index + 1) p.2 ts with
      | error e => rfl
      | ok q =>
        simp only [bind, Except.bind, pure, Except.pure, Except.map]
        cases run (index + ts.length + 1) q.2 us with
        | error e => rfl
        | ok r => simp

end Postfix

def toPostfix (ts : List Token) : Except GroupError (List Token) := do
  let (out, stack) ← Postfix.run 0 [] ts
  let last ← Postfix.flush stack
  return out ++ last

end Reckon
