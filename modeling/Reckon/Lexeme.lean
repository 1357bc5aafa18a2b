import Reckon.Bracket
import Reckon.Operator

/-!
# Lexemes

`Lexeme.split` cuts a text into lexemes from left to right: numerals and words are the longest runs of
their characters, everything else is one character. No text is refused, and `text_split` says that
nothing is lost: what a lexeme means is decided later.
-/

namespace Reckon

inductive Lexeme
  /-- A space. -/
  | blank
  /-- A run of digits and points. -/
  | numeral (first : Char) (rest : List Char)
  /-- A letter or underscore and the letters, digits and underscores behind it. -/
  | word (first : Char) (rest : List Char)
  | op (op : Operator)
  | bracket (b : Bracket)
  /-- A character of no other kind. -/
  | stray (c : Char)
  deriving DecidableEq, Repr

namespace Lexeme

def isNumeralChar (c : Char) : Bool := c.isDigit || c == '.'

def isWordStart (c : Char) : Bool := c.isAlpha || c == '_'

def isWordChar (c : Char) : Bool := c.isAlphanum || c == '_'

/-- The lexeme of a character that begins no run. -/
def single (c : Char) : Lexeme :=
  if c = ' ' then blank
  else
    match Operator.ofSymbol? c with
    | some o => op o
    | none =>
      match Bracket.ofSymbol? c with
      | some b => bracket b
      | none => stray c

def text : Lexeme → List Char
  | blank => [' ']
  | numeral c cs => c :: cs
  | word c cs => c :: cs
  | op o => [o.symbol]
  | bracket b => [b.symbol]
  | stray c => [c]

def length (l : Lexeme) : Nat := l.text.length

def split : List Char → List Lexeme
  | [] => []
  | c :: cs =>
    if isNumeralChar c then
      numeral c (cs.takeWhile isNumeralChar) :: split (cs.dropWhile isNumeralChar)
    else if isWordStart c then
      word c (cs.takeWhile isWordChar) :: split (cs.dropWhile isWordChar)
    else single c :: split cs
termination_by cs => cs.length
decreasing_by
  · have := (List.dropWhile_sublist isNumeralChar (l := cs)).length_le
    simp only [List.length_cons]
    omega
  · have := (List.dropWhile_sublist isWordChar (l := cs)).length_le
    simp only [List.length_cons]
    omega
  · simp

@[simp] theorem text_single (c : Char) : (single c).text = [c] := by
  unfold single
  split
  · next h => simp [text, h]
  split
  · next h => simp [text, Operator.symbol_of_ofSymbol? h]
  split
  · next h => simp [text, Bracket.symbol_of_ofSymbol? h]
  · rfl

theorem text_split (cs : List Char) : (split cs).flatMap text = cs := by
  fun_induction split cs with
  | case1 => rfl
  | case2 c cs _ ih => simp [text, ih]
  | case3 c cs _ _ ih => simp [text, ih]
  | case4 c cs _ _ ih => simp [ih]

end Lexeme

end Reckon
