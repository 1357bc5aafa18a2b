import Reckon.Binary64

/-!
# Decimal numbers

A decimal is a coefficient and a power of ten. `ordinal` reads it as a binary64 magnitude, `exact` and
`rounded` write a magnitude as one, with all of its digits or with a given number of them.
-/

namespace Reckon

/-- The number `coefficient · 10^exponent`. -/
structure Decimal where
  coefficient : Nat
  exponent : Int
  deriving DecidableEq, Repr

namespace Decimal

def value (d : Decimal) : Rat := (d.coefficient : Rat) * (10 : Rat) ^ d.exponent

/-- The digits of the coefficient. -/
def digits (d : Decimal) : List Char := Nat.toDigits 10 d.coefficient

/-- The power of ten that the first digit of the coefficient stands for. -/
def leading (d : Decimal) : Int := d.digits.length - 1 + d.exponent

/-- The ordinal of the binary64 magnitude nearest to `d`. What is above `10^310` or below `10^(-330)`
is infinite or zero whatever its digits, so that no large power of ten is worked out for it. -/
def ordinal (d : Decimal) : Nat :=
  if d.coefficient = 0 then 0
  else if 310 ≤ d.leading then Binary64.infinite
  else if d.leading < -330 then 0
  else Binary64.nearest d.value

/-- All digits of the `k`-th binary64 magnitude. -/
def exact (k : Nat) : Decimal where
  coefficient := Binary64.significand k *
    (Nat.pow 2 (Binary64.exponent k).toNat * Nat.pow 5 (-Binary64.exponent k).toNat)
  exponent := min 0 (Binary64.exponent k)

/-- The greatest `e` with `10^e ≤ r`, for a positive `r`. -/
def floorLog10 (r : Rat) : Int :=
  let e := ((Nat.toDigits 10 r.num.toNat).length : Int) - (Nat.toDigits 10 r.den).length
  if (10 : Rat) ^ e ≤ r then e else e - 1

/-- The decimal of `n` digits nearest to a positive `r`, of two the one with the even last digit. -/
def rounded (n : Nat) (r : Rat) : Decimal :=
  let e := floorLog10 r - (n - 1)
  let c := (Binary64.roundEven (r / (10 : Rat) ^ e)).toNat
  if c = Nat.pow 10 n then ⟨Nat.pow 10 (n - 1), e + 1⟩ else ⟨c, e⟩

end Decimal

end Reckon
