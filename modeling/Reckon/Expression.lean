import Reckon.Error

/-!
# Compiled expressions

An expression is compiled once, to its tokens in postfix order, and evaluated any number of times.
Values may be bound when it is built (`defaults`) and at each evaluation.
-/

namespace Reckon

structure Expression where
  source : String
  /-- The declared names. -/
  declared : List String
  /-- The tokens in postfix order. -/
  tokens : List Token
  defaults : List (String × Float)
  deriving DecidableEq

namespace Expression

/-- The expression of a text over declared names. -/
def compile (source : String) (names : List String) : Except Error Expression := do
  let v ← (Vocabulary.ofNames names).mapError .reserved
  let ts ← (v.tokenize source).mapError .lex
  let out ← (toPostfix ts).mapError .group
  return ⟨source, v.names, out, []⟩

/-- The tokens in postfix order, as text. -/
def rpn (e : Expression) : String := Token.textOf e.tokens

/-- The variables of a sequence in the order of their first use. -/
def variablesOf (ts : List Token) : List String :=
  (ts.filterMap fun
    | .var n => some n
    | _ => none).eraseDups

/-- The variables that occur, in the order of their first use. -/
def referenced (e : Expression) : List String := variablesOf e.tokens

/-- The value under the defaults, overridden by `bindings` and those by `overrides`. -/
def evaluate (e : Expression) (bindings overrides : Bindings) : Except EvalError Float :=
  Reckon.evaluate (Bindings.ofFloats e.defaults ++ bindings ++ overrides).value e.tokens

/-! ### Equality of values -/

def sameDefaults : List (String × Float) → List (String × Float) → Bool
  | [], [] => true
  | (m, x) :: ms, (n, y) :: ns => m == n && x == y && sameDefaults ms ns
  | _, _ => false

/-- Equality with floats compared as numbers. -/
def same (d e : Expression) : Bool :=
  d.source == e.source && d.declared == e.declared &&
    Token.sameAll d.tokens e.tokens && sameDefaults d.defaults e.defaults

end Expression

end Reckon
