/-!
# Operators

The six binary operators, how tightly they bind and which way they group. `ofSymbol?_symbol` says that
an operator is known by its symbol.
-/

namespace Reckon

inductive Associativity
  | left
  | right
  deriving DecidableEq, Repr

def Associativity.name : Associativity → String
  | .left => "left"
  | .right => "right"

inductive Operator
  | add
  | sub
  | mul
  | div
  | mod
  | pow
  deriving DecidableEq, Repr

namespace Operator

def symbol : Operator → Char
  | add => '+'
  | sub => '-'
  | mul => '*'
  | div => '/'
  | mod => '%'
  | pow => '^'

def ofSymbol? : Char → Option Operator
  | '+' => some add
  | '-' => some sub
  | '*' => some mul
  | '/' => some div
  | '%' => some mod
  | '^' => some pow
  | _ => none

/-- The operator with this one symbol as its text. -/
def ofText? (s : String) : Option Operator :=
  match s.toList with
  | [c] => ofSymbol? c
  | _ => none

/-- An operator of higher precedence binds tighter. -/
def precedence : Operator → Nat
  | add | sub => 1
  | mul | div | mod => 2
  | pow => 3

/-- The direction in which operators of one precedence group. -/
def associativity : Operator → Associativity
  | pow => .right
  | _ => .left

def arity (_ : Operator) : Nat := 2

/-- Whether `top`, read before `op`, takes the operand between the two. -/
def bindsBefore (top op : Operator) : Bool :=
  match op.associativity with
  | .left => op.precedence ≤ top.precedence
  | .right => op.precedence < top.precedence

@[simp] theorem ofSymbol?_symbol (op : Operator) : ofSymbol? op.symbol = some op := by
  cases op <;> rfl

theorem symbol_of_ofSymbol? {c : Char} {op : Operator} (h : ofSymbol? c = some op) :
    op.symbol = c := by
  unfold ofSymbol? at h
  split at h <;> simp_all <;> subst h <;> rfl

end Operator

end Reckon
