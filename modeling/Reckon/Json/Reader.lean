import Reckon.Json.Lexeme

/-!
# Reading JSON

Lexemes are taken one by one by a machine that keeps the containers still open, innermost first, and
knows what may follow. Each lexeme makes one `step`, so reading ends with the text. A value may stand
inside at most `maxDepth` containers.
-/

namespace Reckon.Json

/-- A container still open, its contents so far in reverse. -/
inductive Frame
  | list (done : List Json)
  /-- The value of the field `name` is still to come. -/
  | object (done : List (String × Json)) (name : String)

/-- What may follow, with the open containers. -/
inductive Expect
  /-- A value. -/
  | value (outer : List Frame)
  /-- A value, or the end of a list with nothing in it. -/
  | firstItem (outer : List Frame)
  /-- The name of a field. -/
  | name (done : List (String × Json)) (outer : List Frame)
  /-- The name of a field, or the end of an object with nothing in it. -/
  | firstName (outer : List Frame)
  /-- The colon behind a name. -/
  | colon (done : List (String × Json)) (name : String) (outer : List Frame)
  /-- A comma or the end of the list. -/
  | moreItems (done : List Json) (outer : List Frame)
  /-- A comma or the end of the object. -/
  | moreFields (done : List (String × Json)) (outer : List Frame)
  /-- Nothing. -/
  | done (v : Json)

namespace Expect

/-- The greatest number of containers around a value. -/
def maxDepth : Nat := 200

/-- After a whole value. -/
def close (v : Json) : List Frame → Expect
  | [] => done v
  | .list items :: outer => moreItems (v :: items) outer
  | .object fields n :: outer => moreFields ((n, v) :: fields) outer

/-- After the beginning of a value. -/
def start (outer : List Frame) : Lexeme → Option Expect
  | .openList => some (firstItem outer)
  | .openObject => some (firstName outer)
  | .text s => some (close (text s) outer)
  | .word v => some (close v outer)
  | _ => none

def step : Expect → Lexeme → Option Expect
  | value outer, l => start outer l
  | firstItem outer, .closeList => some (close (list []) outer)
  | firstItem outer, l => if outer.length < maxDepth then start (.list [] :: outer) l else none
  | firstName outer, .closeObject => some (close (object []) outer)
  | firstName outer, .text n => if outer.length < maxDepth then some (colon [] n outer) else none
  | name fields outer, .text n => some (colon fields n outer)
  | colon fields n outer, .colon => some (value (.object fields n :: outer))
  | moreItems items outer, .comma => some (value (.list items :: outer))
  | moreItems items outer, .closeList => some (close (list items.reverse) outer)
  | moreFields fields outer, .comma => some (name fields outer)
  | moreFields fields outer, .closeObject => some (close (object fields.reverse) outer)
  | _, _ => none

end Expect

/-- The value of a sequence of lexemes, if it is one value. -/
def ofLexemes? (ls : List Lexeme) : Option Json :=
  match ls.foldlM Expect.step (.value []) with
  | some (.done v) => some v
  | _ => none

def parse? (s : String) : Option Json := (Lexeme.split? s.toList).bind ofLexemes?

end Reckon.Json
