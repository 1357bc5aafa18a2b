import Reckon.Decimal
import Reckon.Text.Blank
import Reckon.Text.DecimalDigit

/-!
# Numbers in text

Three grammars share one core. `plain?` reads digits with at most one point, `real?` a signed number
with an exponent or one of the words for infinity and NaN. `typed?` is the form for people: blanks
around, digits of any script, an underscore between two digits. `stored?` is the form in stored data.
`integer?` reads whole numbers for people, `storedInteger?` those in stored data.
-/

namespace Reckon.Numeral

/-- Digits with at most one point, and at least one digit. -/
def plain? (cs : List Char) : Option Decimal :=
  let whole := cs.takeWhile Char.isDigit
  match cs.dropWhile Char.isDigit with
  | [] => if whole.isEmpty then none else some ⟨Nat.ofDigitChars 10 whole 0, 0⟩
  | c :: fraction =>
    if c = '.' ∧ fraction.all Char.isDigit ∧ ¬(whole.isEmpty ∧ fraction.isEmpty) then
      some ⟨Nat.ofDigitChars 10 (whole ++ fraction) 0, -fraction.length⟩
    else none

/-- A sign, if there is one, and the rest. -/
def splitSign : List Char → Bool × List Char
  | '-' :: cs => (true, cs)
  | '+' :: cs => (false, cs)
  | cs => (false, cs)

def isDigits (cs : List Char) : Bool := !cs.isEmpty && cs.all Char.isDigit

theorem isDigits_iff {cs : List Char} : isDigits cs = true ↔ cs ≠ [] ∧ ∀ c ∈ cs, c.isDigit = true := by
  simp [isDigits]

/-- Digits without a superfluous zero in front. -/
def isWhole (cs : List Char) : Bool := isDigits cs && (cs.head? != some '0' || cs.length == 1)

/-- Digits after an optional sign. -/
def signedDigits? (cs : List Char) : Option Int :=
  let (negative, ds) := splitSign cs
  if isDigits ds then
    let n := Nat.ofDigitChars 10 ds 0
    some (if negative then -n else n)
  else none

def isExponentMark (c : Char) : Bool := c == 'e' || c == 'E'

/-- A plain number and, behind an `e`, a power of ten. -/
def scientific? (cs : List Char) : Option Decimal := do
  let d ← plain? (cs.takeWhile (!isExponentMark ·))
  match cs.dropWhile (!isExponentMark ·) with
  | [] => some d
  | _ :: shift => do
    let e ← signedDigits? shift
    some ⟨d.coefficient, d.exponent + e⟩

/-- The magnitude that a word stands for: infinity, or NaN as `none`. -/
def word? (cs : List Char) : Option (Option Nat) :=
  let w := cs.map Char.toLower
  if w = "inf".toList ∨ w = "infinity".toList then some (some Binary64.infinite)
  else if w = "nan".toList then some none
  else none

/-- A number, infinity or NaN, after an optional sign. -/
def real? (cs : List Char) : Option Float :=
  let (negative, body) := splitSign cs
  match word? body with
  | some (some k) => some (Binary64.ofOrdinal negative k)
  | some none => some Binary64.nan
  | none => (scientific? body).map fun d => Binary64.ofOrdinal negative d.ordinal

/-! ### Underscores -/

/-- Drops the underscores if each stands between two digits; `previous` is the character before. -/
def joinDigits? (previous : Char) : List Char → Option (List Char)
  | [] => some []
  | '_' :: c :: cs =>
    if previous.isDigit && c.isDigit then (joinDigits? c cs).map (c :: ·) else none
  | c :: cs => if c = '_' then none else (joinDigits? c cs).map (c :: ·)

/-- Drops the underscores if none is first, last or next to another; `marked` says whether a start or
an underscore stands before. -/
def joinSingle? (marked : Bool) : List Char → Option (List Char)
  | [] => if marked then none else some []
  | c :: cs =>
    if c = '_' then (if marked then none else joinSingle? true cs)
    else (joinSingle? false cs).map (c :: ·)

/-! ### Forms -/

/-- White space off both ends, every digit in ASCII. -/
def normalize (cs : List Char) : List Char :=
  (Text.trim Text.isWhiteSpace cs).map Text.toAsciiDigit

/-- A number as a person types it. -/
def typed? (s : String) : Option Float :=
  (joinDigits? ' ' (normalize s.toList)).bind real?

/-- The greatest number of digits of a whole number in a text. -/
def integerDigits : Nat := 4300

/-- A whole number as a person types it. -/
def integer? (s : String) : Option Int := do
  let cs ← joinDigits? ' ' (normalize s.toList)
  if integerDigits < (splitSign cs).2.length then none else signedDigits? cs

/-- A number given as a text in stored data: without the white space around it, or as it is without its
underscores. -/
def stored? (s : String) : Option Float :=
  match real? (Text.trim Text.isWhiteSpace s.toList) with
  | some x => some x
  | none => if '_' ∈ s.toList then (joinSingle? true s.toList).bind real? else none

/-! ### Whole numbers in stored data -/

/-- Drops zeros, and single underscores behind them, down to a digit or a minus sign; `previous` is the
character before. The last zero stays if there is nothing else or a point follows. -/
def dropZeros? (previous : Char) : List Char → Option (List Char)
  | [] => some [previous]
  | c :: cs =>
    if c = '0' ∨ (c = '_' ∧ previous = '0') then dropZeros? c cs
    else if c = '.' then some (previous :: c :: cs)
    else if c.isDigit ∨ c = '-' then some (c :: cs)
    else none

/-- Drops the zeros in front of a text that begins with a digit. -/
def dropLeadingZeros? : List Char → Option (List Char)
  | [] => none
  | c :: cs =>
    if c = '0' then dropZeros? c cs
    else if c.isDigit then some (c :: cs)
    else none

/-- Drops a point with nothing but zeros behind it, at least one of them. -/
def dropZeroFraction (cs : List Char) : List Char :=
  let zeros := (cs.dropWhile (· ≠ '.')).drop 1
  if !zeros.isEmpty && zeros.all (· = '0') then cs.takeWhile (· ≠ '.') else cs

/-- Whether a whole number given as a text in stored data is negative, and its digits. White space
around it, a plus sign, zeros in front, zeros behind a point and single underscores do not count; a minus
sign may stand before or behind the zeros in front. -/
def storedInteger? (s : String) : Option (Bool × List Char) := do
  let (before, unsigned) := splitSign (Text.trim Text.isWhiteSpace s.toList)
  let cs ← joinSingle? true (dropZeroFraction (← dropLeadingZeros? unsigned))
  let (behind, ds) := splitSign cs
  if isWhole ds && !(before && behind) then some (before || behind, ds) else none

end Reckon.Numeral
