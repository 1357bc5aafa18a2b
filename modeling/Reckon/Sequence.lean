import Reckon.Evaluation
import Reckon.Postfix

/-!
# Sequences with foreign elements

A sequence handed in from outside may hold texts where tokens should be. Conversion and evaluation
work up to the first such element and refuse it when they reach it.
-/

namespace Reckon

inductive Element
  | token (t : Token)
  | foreign (s : String)

namespace Element

/-- The tokens before the first foreign element, and that element. -/
def splitForeign : List Element → List Token × Option String
  | [] => ([], none)
  | foreign s :: _ => ([], some s)
  | token t :: es => let (ts, s) := splitForeign es; (t :: ts, s)

def refusal (s : String) : String := "Not a token: " ++ Text.quote s

/-- A foreign element, or an error before it. -/
inductive ConvertError
  | group (e : GroupError)
  | foreign (s : String)

def toPostfix (es : List Element) : Except ConvertError (List Token) :=
  match splitForeign es with
  | (ts, none) => (Reckon.toPostfix ts).mapError .group
  | (ts, some s) =>
    match Postfix.run 0 [] ts with
    | .ok _ => .error (.foreign s)
    | .error e => .error (.group e)

/-- A foreign element with the number of values on the stack, or an error before it. -/
inductive EvaluateError
  | eval (e : EvalError)
  | foreign (s : String) (depth : Nat)

def evaluate (ρ : Valuation) (es : List Element) : Except EvaluateError Float :=
  match splitForeign es with
  | (ts, none) => (Reckon.evaluate ρ ts).mapError .eval
  | (ts, some s) =>
    match Evaluation.run ρ [] ts with
    | .ok stack => .error (.foreign s stack.length)
    | .error e => .error (.eval e)

end Element

end Reckon
