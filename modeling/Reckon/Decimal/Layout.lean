import Reckon.Decimal.Shortest

/-!
# Writing floats

A `Layout` fixes how a float is written with the fewest digits that read back: which numbers are
written positionally, how wide an exponent is, and the words for what is not finite. `fixedDigits`
writes a float with a given number of digits.
-/

namespace Reckon

/-- The decisions of a format for floats. Exponents from `least` up to 15 are written positionally. -/
structure Layout where
  least : Int
  exponentWidth : Nat
  infinity : String
  nan : String

namespace Layout

/-- `ds` with the point behind the digit of `10^0`, and a digit on both sides of it. -/
def positional (ds : List Char) (e : Int) : List Char :=
  if e < 0 then '0' :: '.' :: (List.replicate (-e - 1).toNat '0' ++ ds)
  else
    let whole := e.toNat + 1
    let fraction := ds.drop whole
    ds.take whole ++ List.replicate (whole - ds.length) '0' ++
      '.' :: (if fraction.isEmpty then ['0'] else fraction)

/-- `ds` with the point behind the first digit, and the exponent with a sign. -/
def scientific (exponentWidth : Nat) (ds : List Char) (e : Int) : List Char :=
  let fraction := ds.drop 1
  ds.take 1 ++ (if fraction.isEmpty then [] else '.' :: fraction) ++
    'e' :: (if e < 0 then '-' else '+') ::
      (Nat.toDigits 10 e.natAbs).leftpad exponentWidth '0'

/-- The digits of `d` up to the last that is not zero. -/
def significantDigits (d : Decimal) : List Char :=
  match (d.digits.reverse.dropWhile (· == '0')).reverse with
  | [] => ['0']
  | ds => ds

/-- The text of the `k`-th binary64 magnitude. -/
def magnitude (f : Layout) (k : Nat) : List Char :=
  if k = Binary64.infinite then f.infinity.toList
  else
    let d := if k = 0 then ⟨0, 0⟩ else Decimal.shortest k
    let ds := significantDigits d
    if f.least ≤ d.leading ∧ d.leading < 16 then positional ds d.leading
    else scientific f.exponentWidth ds d.leading

def sign (negative : Bool) : List Char := if negative then ['-'] else []

def write (f : Layout) (x : Float) : List Char :=
  if x.isNaN then f.nan.toList
  else sign (Binary64.isNegative x) ++ f.magnitude (Binary64.ordinal x)

/-- Values in messages and answers: positional from `0.0001` to below `10^16`, an exponent of at
least two digits. -/
def plain : Layout := ⟨-4, 2, "inf", "nan"⟩

/-- Values in stored text: positional from `0.00001` to below `10^16`. -/
def stored : Layout := ⟨-5, 1, "Infinity", "NaN"⟩

/-- `x` with exactly `n` digits, in scientific form. -/
def fixedDigits (n : Nat) (x : Float) : List Char :=
  if !x.isFinite then plain.write x
  else
    let k := Binary64.ordinal x
    sign (Binary64.isNegative x) ++
      if k = 0 then scientific 2 (List.replicate n '0') 0
      else
        let d := Decimal.rounded n (Binary64.value k)
        scientific 2 d.digits d.leading

end Layout

/-- A float as messages and answers show it. -/
def showFloat (x : Float) : String := String.ofList (Layout.plain.write x)

/-- A float with exactly `n` digits. -/
def showDigits (n : Nat) (x : Float) : String := String.ofList (Layout.fixedDigits n x)

end Reckon
