import Reckon.Text.Printable

/-!
# Quoted text

The form in which messages show a text: between single quotes, or between double quotes if the text
has single quotes and no double ones. The quote, the backslash and what is not printable are escaped,
so that `escape_ne_nil` holds and no escaped character shows as itself unless it is printable.
-/

namespace Reckon.Text

/-- The hexadecimal digits of `n`, filled up with zeros to `width`. -/
def hex (width n : Nat) : List Char := (Nat.toDigits 16 n).leftpad width '0'

/-- How `c` is shown between quotes `q`. -/
def escape (q c : Char) : List Char :=
  if c = q ∨ c = '\\' then ['\\', c]
  else if c = '\n' then ['\\', 'n']
  else if c = '\r' then ['\\', 'r']
  else if c = '\t' then ['\\', 't']
  else if isPrintable c then [c]
  else if c.toNat < 0x100 then '\\' :: 'x' :: hex 2 c.toNat
  else if c.toNat < 0x10000 then '\\' :: 'u' :: hex 4 c.toNat
  else '\\' :: 'U' :: hex 8 c.toNat

/-- Single quotes, unless the text has them and no double quotes. -/
def quoteFor (cs : List Char) : Char :=
  if '\'' ∈ cs ∧ '"' ∉ cs then '"' else '\''

def quoteChars (cs : List Char) : List Char :=
  let q := quoteFor cs
  q :: cs.flatMap (escape q) ++ [q]

def quote (s : String) : String := String.ofList (quoteChars s.toList)

/-- Quoted texts between square brackets, with commas. -/
def quoteList (names : List String) : String :=
  "[" ++ ", ".intercalate (names.map quote) ++ "]"

theorem escape_ne_nil (q c : Char) : escape q c ≠ [] := by
  unfold escape
  repeat' split
  all_goals simp

end Reckon.Text
