import Reckon.Evaluation
import Reckon.Postfix
import Reckon.Scan

/-!
# Errors of expressions

The errors of the stages from text to value under one type, with one message each.
-/

namespace Reckon

inductive Error
  | reserved (e : ReservedName)
  | lex (e : LexError)
  | group (e : GroupError)
  | eval (e : EvalError)
  deriving DecidableEq

def Error.message : Error → String
  | reserved e => e.message
  | lex e => e.message
  | group e => e.message
  | eval e => e.message

end Reckon
