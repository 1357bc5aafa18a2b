/-!
# Brackets

Three families that group alike: only the side of a bracket matters for matching.
-/

namespace Reckon

inductive Side
  | opening
  | closing
  deriving DecidableEq, Repr

def Side.name : Side → String
  | .opening => "open"
  | .closing => "close"

inductive BracketShape
  | round
  | square
  | curly
  deriving DecidableEq, Repr

structure Bracket where
  shape : BracketShape
  side : Side
  deriving DecidableEq, Repr

namespace Bracket

def symbol : Bracket → Char
  | ⟨.round, .opening⟩ => '('
  | ⟨.round, .closing⟩ => ')'
  | ⟨.square, .opening⟩ => '['
  | ⟨.square, .closing⟩ => ']'
  | ⟨.curly, .opening⟩ => '{'
  | ⟨.curly, .closing⟩ => '}'

def ofSymbol? : Char → Option Bracket
  | '(' => some ⟨.round, .opening⟩
  | ')' => some ⟨.round, .closing⟩
  | '[' => some ⟨.square, .opening⟩
  | ']' => some ⟨.square, .closing⟩
  | '{' => some ⟨.curly, .opening⟩
  | '}' => some ⟨.curly, .closing⟩
  | _ => none

/-- The bracket with this one symbol as its text. -/
def ofText? (s : String) : Option Bracket :=
  match s.toList with
  | [c] => ofSymbol? c
  | _ => none

@[simp] theorem ofSymbol?_symbol (b : Bracket) : ofSymbol? b.symbol = some b := by
  obtain ⟨shape, side⟩ := b
  cases shape <;> cases side <;> rfl

theorem symbol_of_ofSymbol? {c : Char} {b : Bracket} (h : ofSymbol? c = some b) :
    b.symbol = c := by
  unfold ofSymbol? at h
  split at h <;> simp_all <;> subst h <;> rfl

end Bracket

end Reckon
