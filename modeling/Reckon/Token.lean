import Reckon.Bracket
import Reckon.Decimal.Layout
import Reckon.Func
import Reckon.Operator

/-!
# Tokens

The five kinds of tokens, their texts, and the equality of stored tokens, in which `0.0` and `-0.0`
are one number and NaN is none. An integral number is written as the integer in full, any other one
with the fewest digits that read back.
-/

namespace Reckon

inductive Token
  | num (value : Float)
  | var (name : String)
  | op (op : Operator)
  | fn (f : Func)
  | bracket (b : Bracket)
  deriving DecidableEq

namespace Token

def kind : Token → String
  | num _ => "number"
  | var _ => "variable"
  | op _ => "operator"
  | fn _ => "function"
  | bracket _ => "grouping"

def isNumber : Token → Bool
  | num _ => true
  | _ => false

def isVariable : Token → Bool
  | var _ => true
  | _ => false

def isOperator : Token → Bool
  | op _ => true
  | _ => false

def isFunction : Token → Bool
  | fn _ => true
  | _ => false

def isBracket : Token → Bool
  | bracket _ => true
  | _ => false

def isOpening : Token → Bool
  | bracket b => b.side = .opening
  | _ => false

def isClosing : Token → Bool
  | bracket b => b.side = .closing
  | _ => false

/-- Numbers and variables. -/
def isOperand (t : Token) : Bool := t.isNumber || t.isVariable

/-- What has a place in postfix order: every token but a bracket. -/
def bearsValue (t : Token) : Bool := !t.isBracket

/-! ### Text -/

/-- The text of a number token. -/
def numberText (x : Float) : String :=
  match Binary64.toInt? x with
  | some n => String.ofList (Layout.sign (n < 0) ++ Nat.toDigits 10 n.natAbs)
  | none => showFloat x

def text : Token → String
  | num x => numberText x
  | var name => name
  | op o => o.symbol.toString
  | fn f => f.name
  | bracket b => b.symbol.toString

/-- The texts of tokens with a space between two of them. -/
def textOf (ts : List Token) : String := " ".intercalate (ts.map text)

/-! ### Equality of values -/

/-- Equality with floats compared as numbers. -/
def same : Token → Token → Bool
  | num x, num y => x == y
  | s, t => s == t

def sameAll : List Token → List Token → Bool
  | [], [] => true
  | s :: ss, t :: ts => same s t && sameAll ss ts
  | _, _ => false

/-- The tokens that are not the same as an earlier one. -/
def distinct (ts : List Token) : List Token :=
  ts.foldl (fun seen t => if seen.any (same t) then seen else seen ++ [t]) []

end Token

end Reckon
