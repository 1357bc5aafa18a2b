import Reckon.Numeral
import Reckon.Json
import Reckon.Text.Quoted

/-!
# Supplied values

A value bound to a name need not be a float: it may be an integer of any size, a truth value, a number
as text, or nothing that makes a number. It is turned into a float when it is used, and only then can
it fail.
-/

namespace Reckon

inductive Supplied
  | number (x : Float)
  | integer (n : Int)
  | flag (b : Bool)
  | text (s : String)
  | missing
  | list
  | record
  deriving DecidableEq

namespace Supplied

/-- Why a supplied value is no float. -/
inductive Fault
  /-- A text that is no number. -/
  | unreadable (s : String)
  /-- A value of a kind that no number has, by the name of the kind. -/
  | notNumber (kind : String)
  /-- An integer beyond the floats. -/
  | tooLarge
  deriving DecidableEq, Repr

def Fault.message : Fault → String
  | unreadable s => "could not convert string to float: " ++ Text.quote s
  | notNumber kind => "float() argument must be a string or a real number, not '" ++ kind ++ "'"
  | tooLarge => "int too large to convert to float"

def toFloat : Supplied → Except Fault Float
  | number x => .ok x
  | integer n =>
    match Binary64.ofInt? n with
    | some x => .ok x
    | none => .error .tooLarge
  | flag b => .ok (Binary64.ofRat (if b then 1 else 0))
  | text s =>
    match Numeral.typed? s with
    | some x => .ok x
    | none => .error (.unreadable s)
  | missing => .error (.notNumber "NoneType")
  | list => .error (.notNumber "list")
  | record => .error (.notNumber "dict")

def ofJson : Json → Supplied
  | .null => missing
  | .bool b => flag b
  | .int n => integer n
  | .float x => number x
  | .text s => text s
  | .list _ => list
  | .object _ => record

end Supplied

end Reckon
