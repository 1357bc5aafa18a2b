import Reckon.Decimal

/-!
# The fewest digits that read back

`shortest k` is the first decimal that reads back as the `k`-th binary64 magnitude, among the decimals
of one digit, then of two, and so on; of one length, the nearer to the value is tried first. Seventeen
digits are enough for every magnitude. `ordinal_shortest` reduces reading back to `exact`.
-/

namespace Reckon.Decimal

/-- The two neighbours of `r` among the multiples of `10^e`, the nearer one first. -/
def neighbours (r : Rat) (e : Int) : List Decimal :=
  let s := r / (10 : Rat) ^ e
  let below := s.floor.toNat
  let near := (Binary64.roundEven s).toNat
  [⟨near, e⟩, ⟨if near = below then below + 1 else below, e⟩]

/-- Candidates with the first digit of `r`, coarser grids first. -/
def candidates (r : Rat) : List Decimal :=
  (List.range 17).flatMap fun (i : Nat) => neighbours r (floorLog10 r - i)

/-- The shortest decimal that reads back as the `k`-th magnitude. -/
def shortest (k : Nat) : Decimal :=
  ((candidates (Binary64.value k)).find? (·.ordinal == k)).getD (exact k)

theorem ordinal_shortest {k : Nat} (h : (exact k).ordinal = k) : (shortest k).ordinal = k := by
  unfold shortest
  cases hf : (candidates (Binary64.value k)).find? (·.ordinal == k) with
  | none => exact h
  | some d => simpa using List.find?_some hf

end Reckon.Decimal
