import Reckon.Lexeme
import Reckon.Numeral
import Reckon.Token
import Reckon.Vocabulary

/-!
# Reading text as tokens

`Vocabulary.tokenize` reads each lexeme as a token. A word is a variable if it is declared, and else a
function in any letter case. The first lexeme that is no token stops the reading, with its offset in
the text.
-/

namespace Reckon

/-- The first lexeme of a text that is no token. -/
inductive LexError
  | character (c : Char) (offset : Nat)
  | numeral (first : Char) (rest : List Char) (offset : Nat)
  | identifier (first : Char) (rest : List Char) (offset : Nat)
  deriving DecidableEq, Repr

namespace LexError

def offset : LexError → Nat
  | character _ n | numeral _ _ n | identifier _ _ n => n

/-- The character at the offset. -/
def char : LexError → Char
  | character c _ | numeral c _ _ | identifier c _ _ => c

/-- The characters of the lexeme. -/
def lexeme : LexError → List Char
  | character c _ => [c]
  | numeral c cs _ | identifier c cs _ => c :: cs

def message (e : LexError) : String :=
  let shown := Text.quote (String.ofList e.lexeme)
  let position := " at offset " ++ toString e.offset
  match e with
  | character .. => "Unable to parse character " ++ shown ++ position
  | numeral .. => "Invalid number literal " ++ shown ++ position
  | identifier .. => "Unknown identifier " ++ shown ++ position

end LexError

namespace Vocabulary

variable (v : Vocabulary)

/-- The token that a word is. -/
def word? (w : String) : Option Token :=
  if w ∈ v.names then some (.var w) else (Func.ofWord? w).map .fn

/-- The token of a lexeme, none for a blank. -/
def token (offset : Nat) : Lexeme → Except LexError (Option Token)
  | .blank => .ok none
  | .numeral c cs =>
    match Numeral.plain? (c :: cs) with
    | some d => .ok (some (.num (Binary64.ofOrdinal false d.ordinal)))
    | none => .error (.numeral c cs offset)
  | .word c cs =>
    match v.word? (String.ofList (c :: cs)) with
    | some t => .ok (some t)
    | none => .error (.identifier c cs offset)
  | .op o => .ok (some (.op o))
  | .bracket b => .ok (some (.bracket b))
  | .stray c => .error (.character c offset)

/-- The tokens of lexemes, the first of which is at `offset`. -/
def tokens (offset : Nat) : List Lexeme → Except LexError (List Token)
  | [] => .ok []
  | l :: ls => do
    let t ← v.token offset l
    let ts ← tokens (offset + l.length) ls
    return t.toList ++ ts

def tokenize (s : String) : Except LexError (List Token) := v.tokens 0 (Lexeme.split s.toList)

variable {v}

theorem tokens_cons_eq_ok {i : Nat} {l : Lexeme} {ls : List Lexeme} {ts : List Token} :
    v.tokens i (l :: ls) = .ok ts ↔ ∃ t rest, v.token i l = .ok t ∧ v.tokens (i + l.length) ls = .ok rest ∧
      ts = t.toList ++ rest := by
  rw [tokens]
  cases v.token i l with
  | error e => simp [bind, Except.bind]
  | ok t => cases v.tokens (i + l.length) ls <;> simp [bind, Except.bind, pure, Except.pure, eq_comm]

end Vocabulary

end Reckon
