import Reckon.Json
import Reckon.Numeral
import Reckon.Stored.Fault

/-!
# Fields of stored data

Checks of single values. Numbers may be given as truth values or as texts. An integer stands for the
float nearest to it: in a JSON text for infinity if it is out of range, among data that is no text for
nothing then.
-/

namespace Reckon.Stored

/-- Where a value comes from. -/
inductive Origin
  | text
  | data
  deriving DecidableEq, Repr

/-- The number that an integer from there stands for. -/
def Origin.number? : Origin → Int → Option Float
  | .text, n => some (Binary64.ofRat n)
  | .data, n => Binary64.ofInt? n

def checkText : Json → Checked String
  | .text s => .ok s
  | _ => .fail .notText

def checkNumber (origin : Origin) : Json → Checked Float
  | .float x => .ok x
  | .int n =>
    match origin.number? n with
    | some x => .ok x
    | none => .fail .notNumber
  | .bool b => .ok (Binary64.ofRat (if b then 1 else 0))
  | .text s =>
    match Numeral.stored? s with
    | some x => .ok x
    | none => .fail .unreadableNumber
  | _ => .fail .notNumber

/-- The integer that a float is; its magnitude has at most 63 bits. -/
def checkWhole (x : Float) : Checked Int :=
  match Binary64.toInt? x with
  | some n => if n.natAbs < 0x8000000000000000 then .ok n else .fail .oversized
  | none => .fail (if x.isFinite then .fractional else .notFinite)

/-- The integer in a text. -/
def checkDigits (s : String) : Checked Int :=
  match Numeral.storedInteger? s with
  | some (negative, ds) =>
    if Numeral.integerDigits < ds.length then .fail .oversized
    else
      let n := Nat.ofDigitChars 10 ds 0
      .ok (if negative then -n else n)
  | none => .fail .unreadableInteger

def checkInteger : Json → Checked Int
  | .int n => .ok n
  | .bool b => .ok (if b then 1 else 0)
  | .float x => checkWhole x
  | .text s => checkDigits s
  | _ => .fail .notInteger

/-- A field that must be there. -/
def required {α : Type} (check : Json → Checked α) (fields : List (String × Json)) (name : String) :
    Checked α :=
  .within (.field name) <|
    match Json.field? fields name with
    | none => .fail .missing
    | some v => check v

/-- A field that may be left out. -/
def optional {α : Type} (default : α) (check : Json → Checked α) (fields : List (String × Json))
    (name : String) : Checked α :=
  match Json.field? fields name with
  | none => .ok default
  | some v => .within (.field name) (check v)

end Reckon.Stored
