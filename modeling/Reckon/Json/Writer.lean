import Reckon.Decimal.Layout
import Reckon.Json
import Reckon.Text.Quoted

/-!
# Writing JSON

No spaces, fields in their order, and characters as they are but for the quote, the backslash and the
control characters. Floats are written by `Layout.stored`, with bare words for infinity and NaN.
-/

namespace Reckon.Json

/-- How a character stands in a JSON text. -/
def escapeChar (c : Char) : List Char :=
  if c = '"' then ['\\', '"']
  else if c = '\\' then ['\\', '\\']
  else if c = '\n' then ['\\', 'n']
  else if c = '\r' then ['\\', 'r']
  else if c = '\t' then ['\\', 't']
  else if c = '\x08' then ['\\', 'b']
  else if c = '\x0c' then ['\\', 'f']
  else if c.toNat < 0x20 then '\\' :: 'u' :: Text.hex 4 c.toNat
  else [c]

def writeText (s : String) : List Char := '"' :: s.toList.flatMap escapeChar ++ ['"']

def writeInt (n : Int) : List Char := Layout.sign (n < 0) ++ Nat.toDigits 10 n.natAbs

mutual

def write : Json → List Char
  | null => "null".toList
  | bool b => (if b then "true" else "false").toList
  | int n => writeInt n
  | float x => Layout.stored.write x
  | text s => writeText s
  | list items => '[' :: writeItems items ++ [']']
  | object fields => '{' :: writeFields fields ++ ['}']

/-- Values with commas between them. -/
def writeItems : List Json → List Char
  | [] => []
  | [v] => write v
  | v :: w :: rest => write v ++ ',' :: writeItems (w :: rest)

/-- Fields with commas between them. -/
def writeFields : List (String × Json) → List Char
  | [] => []
  | [(name, v)] => writeText name ++ ':' :: write v
  | (name, v) :: w :: rest => writeText name ++ ':' :: write v ++ ',' :: writeFields (w :: rest)

end

def render (v : Json) : String := String.ofList v.write

end Reckon.Json
