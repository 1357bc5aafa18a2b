import Reckon.Text.Case

/-!
# Functions

The built-in functions of one argument. A word names a function in any letter case: `ofWord?`.
-/

namespace Reckon

inductive Func
  | abs
  | acos
  | asin
  | atan
  | cbrt
  | ceil
  | cos
  | cosh
  | exp
  | expm1
  | floor
  | log
  | sin
  | sinh
  | sqrt
  | tan
  | tanh
  deriving DecidableEq, Repr

namespace Func

def name : Func → String
  | abs => "abs"
  | acos => "acos"
  | asin => "asin"
  | atan => "atan"
  | cbrt => "cbrt"
  | ceil => "ceil"
  | cos => "cos"
  | cosh => "cosh"
  | exp => "exp"
  | expm1 => "expm1"
  | floor => "floor"
  | log => "log"
  | sin => "sin"
  | sinh => "sinh"
  | sqrt => "sqrt"
  | tan => "tan"
  | tanh => "tanh"

def all : List Func :=
  [abs, acos, asin, atan, cbrt, ceil, cos, cosh, exp, expm1, floor, log, sin, sinh, sqrt, tan, tanh]

/-- The function with exactly this name. -/
def ofName? (s : String) : Option Func := all.find? (·.name == s)

/-- The function that a word names, in any letter case. -/
def ofWord? (w : String) : Option Func := ofName? (Text.lower w)

def arity (_ : Func) : Nat := 1

theorem name_of_ofName? {s : String} {f : Func} (h : ofName? s = some f) : f.name = s := by
  simpa using List.find?_some h

@[simp] theorem ofName?_name (f : Func) : ofName? f.name = some f := by
  cases f <;> decide

end Func

end Reckon
