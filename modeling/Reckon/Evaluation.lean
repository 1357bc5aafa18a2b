import Reckon.Arithmetic
import Reckon.Supplied
import Reckon.Token

/-!
# Evaluation

A stack machine for tokens in postfix order. Numbers are pushed, operators and functions take their
arguments off the stack, the last one pushed being the last argument. At the end one value must be left.
-/

namespace Reckon

/-- Why a postfix sequence has no value. -/
inductive EvalError
  | unbound (name : String)
  /-- The value bound to a name is no float. -/
  | unusable (cause : Supplied.Fault)
  /-- An operator or function with fewer values on the stack than it takes. -/
  | missingOperands (t : Token) (arity depth : Nat)
  | strayBracket (b : Bracket) (depth : Nat)
  /-- No value or several values are left. -/
  | notSingle (depth : Nat)
  deriving DecidableEq

namespace EvalError

/-- The number of values on the stack, for the errors of the sequence itself. -/
def depth? : EvalError → Option Nat
  | missingOperands _ _ d | strayBracket _ d | notSingle d => some d
  | unbound _ | unusable _ => none

def message : EvalError → String
  | unbound name => "No value has been set for variable '" ++ name ++ "'"
  | unusable cause => cause.message
  | missingOperands t arity depth =>
    "'" ++ t.text ++ "' needs " ++ toString arity ++ " operand(s) but only " ++ toString depth ++
      " available"
  | strayBracket b _ => "Grouping token '" ++ b.symbol.toString ++ "' in postfix sequence"
  | notSingle depth => "Expression reduced to " ++ toString depth ++ " values instead of 1"

end EvalError

/-! ### Bindings -/

/-- Names with values. Of two bindings of one name the later one counts. -/
abbrev Bindings := List (String × Supplied)

namespace Bindings

def get? (b : Bindings) (name : String) : Option Supplied := b.reverse.lookup name

def ofFloats (b : List (String × Float)) : Bindings := b.map fun (n, x) => (n, .number x)

/-- The value of a variable. -/
def value (b : Bindings) (name : String) : Except EvalError Float :=
  match b.get? name with
  | none => .error (.unbound name)
  | some v => v.toFloat.mapError .unusable

end Bindings

/-- Values of variables. -/
abbrev Valuation := String → Except EvalError Float

namespace Evaluation

/-- The stack after a token, its top first. -/
def step (ρ : Valuation) (stack : List Float) : Token → Except EvalError (List Float)
  | .num x => .ok (x :: stack)
  | .var n => (ρ n).map (· :: stack)
  | .op o =>
    match stack with
    | y :: x :: rest => .ok (o.apply x y :: rest)
    | _ => .error (.missingOperands (.op o) o.arity stack.length)
  | .fn f =>
    match stack with
    | x :: rest => .ok (f.apply x :: rest)
    | _ => .error (.missingOperands (.fn f) f.arity stack.length)
  | .bracket b => .error (.strayBracket b stack.length)

/-- The stack after a sequence of tokens. -/
def run (ρ : Valuation) (stack : List Float) (ts : List Token) : Except EvalError (List Float) :=
  ts.foldlM (step ρ) stack

theorem run_append (ρ : Valuation) (stack : List Float) (ts us : List Token) :
    run ρ stack (ts ++ us) = run ρ stack ts >>= fun stack => run ρ stack us := by
  simp [run, List.foldlM_append]

end Evaluation

/-- The value of a sequence in postfix order. -/
def evaluate (ρ : Valuation) (ts : List Token) : Except EvalError Float := do
  match ← Evaluation.run ρ [] ts with
  | [x] => .ok x
  | stack => .error (.notSingle stack.length)

end Reckon
