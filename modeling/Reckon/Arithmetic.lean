import Reckon.Binary64
import Reckon.Func
import Reckon.Operator

/-!
# Arithmetic

What operators and functions compute on binary64 numbers. Nothing fails: a division by zero, an
overflow or an argument outside a function's domain gives an infinity or NaN.
-/

namespace Reckon

/-- `x` to the power `y`. The exponents `-1`, `0`, `1/2`, `1` and `2` stand for an inverse, one, a square
root, `x` itself and a square, so that the root of a negative infinity is NaN and that of `-0.0` is
`-0.0`. -/
def power (x y : Float) : Float :=
  if y == -1 then 1 / x
  else if y == 0 then 1
  else if y == 0.5 then x.sqrt
  else if y == 1 then x
  else if y == 2 then x * x
  else x.pow y

def Operator.apply : Operator → Float → Float → Float
  | .add, x, y => x + y
  | .sub, x, y => x - y
  | .mul, x, y => x * y
  | .div, x, y => x / y
  | .mod, x, y => Binary64.remainder x y
  | .pow, x, y => power x y

/-- `exp x - 1` without the loss of digits near zero: there the rounding error of `exp x` cancels
against the one of its logarithm. -/
def expMinusOne (x : Float) : Float :=
  let u := Float.exp x
  if 1 < x.abs then u - 1
  else if u == 1 then x
  else (u - 1) * (x / Float.log u)

def Func.apply : Func → Float → Float
  | .abs, x => x.abs
  | .acos, x => x.acos
  | .asin, x => x.asin
  | .atan, x => x.atan
  | .cbrt, x => x.cbrt
  | .ceil, x => x.ceil
  | .cos, x => x.cos
  | .cosh, x => x.cosh
  | .exp, x => x.exp
  | .expm1, x => expMinusOne x
  | .floor, x => x.floor
  | .log, x => x.log
  | .sin, x => x.sin
  | .sinh, x => x.sinh
  | .sqrt, x => x.sqrt
  | .tan, x => x.tan
  | .tanh, x => x.tanh

end Reckon
