/-!
# Binary64 numbers by their ordinals

The magnitudes of the format, in increasing order, are numbered `0, 1, 2, …`; the last number,
`infinite`, is infinity. A number that is not NaN is a sign and an ordinal. `value` is the rational
number behind a finite ordinal and `nearest` the way back: round to nearest, ties to the even ordinal.
-/

namespace Reckon.Binary64

/-- The ordinal of infinity. -/
def infinite : Nat := 0x7FF0000000000000

/-- The number of magnitudes that share one exponent: two to the power 52. -/
def binade : Nat := 0x10000000000000

def ordinal (x : Float) : Nat := x.toBits.toNat % 0x8000000000000000

def isNegative (x : Float) : Bool := 0x8000000000000000 ≤ x.toBits.toNat

def ofOrdinal (negative : Bool) (k : Nat) : Float :=
  Float.ofBits (UInt64.ofNat (if negative then 0x8000000000000000 + k else k))

def nan : Float := Float.ofBits 0x7FF8000000000000

/-! ### Value -/

/-- The integer `m` in the value `m · 2^e` of the `k`-th magnitude. -/
def significand (k : Nat) : Nat := if k < binade then k else binade + k % binade

/-- The exponent `e` in the value `m · 2^e` of the `k`-th magnitude. -/
def exponent (k : Nat) : Int := if k < binade then -1074 else (k / binade : Nat) - 1075

def value (k : Nat) : Rat := (significand k : Rat) * (2 : Rat) ^ exponent k

/-- The number that a finite `x` is; for an infinite one or NaN it means nothing. -/
def toRat (x : Float) : Rat := if isNegative x then -value (ordinal x) else value (ordinal x)

/-! ### Rounding -/

/-- The integer nearest to `r`, of two the even one. -/
def roundEven (r : Rat) : Int :=
  let below := r.floor
  let d := r - below
  if d < 1 / 2 then below
  else if 1 / 2 < d then below + 1
  else below + below % 2

/-- The greatest `e` with `2^e ≤ r`, for a positive `r`. -/
def floorLog2 (r : Rat) : Int :=
  let e := (r.num.toNat.log2 : Int) - r.den.log2
  if (2 : Rat) ^ e ≤ r then e else e - 1

/-- The ordinal of the magnitude nearest to `r`, of two the even one; zero for a negative `r`. -/
def nearest (r : Rat) : Nat :=
  if r ≤ 0 then 0
  else
    let e := max (-1074) (floorLog2 r - 52)
    min infinite ((e + 1074).toNat * binade + (roundEven (r / (2 : Rat) ^ e)).toNat)

/-- The float nearest to `r`. -/
def ofRat (r : Rat) : Float :=
  if r < 0 then ofOrdinal true (nearest (-r)) else ofOrdinal false (nearest r)

/-- The float nearest to an integer, unless that is infinite. -/
def ofInt? (n : Int) : Option Float :=
  if nearest n.natAbs = infinite then none else some (ofRat n)

/-- The integer that `x` is, if it is one. -/
def toInt? (x : Float) : Option Int :=
  if x.isFinite && (toRat x).den == 1 then some (toRat x).num else none

/-- What is left of `x` after whole multiples of `y` are taken away toward zero; it has the sign of
`x`. There is none if `x` is infinite or `y` is zero. -/
def remainder (x y : Float) : Float :=
  if x.isNaN || y.isNaN || x.isInf || ordinal y == 0 then nan
  else if y.isInf then x
  else
    let a := value (ordinal x)
    let b := value (ordinal y)
    ofOrdinal (isNegative x) (nearest (a - b * (a / b).floor))

end Reckon.Binary64
