import Reckon.Json.Reader
import Reckon.Json.Writer
import Reckon.Stored.Field
import Reckon.Token

/-!
# Stored tokens

A token is stored as an object with its kind and one more field. On reading, a function may be spelled
in any letter case, and further fields do not matter.
-/

namespace Reckon

open Stored

namespace Token

def toJson (t : Token) : Json :=
  .object (("kind", .text t.kind) ::
    match t with
    | num x => [("value", .float x)]
    | var n => [("name", .text n)]
    | op _ => [("symbol", .text t.text)]
    | fn _ => [("name", .text t.text)]
    | bracket _ => [("bracket", .text t.text)])

/-- A text that names a token's content. -/
def checkNamed {α : Type} (ofText? : String → Option α) (fault : String → FaultKind) (v : Json) :
    Checked α := do
  let s ← checkText v
  match ofText? s with
  | some a => .ok a
  | none => .fail (fault s)

/-- The token of this kind with the fields of an object, if it is a kind. -/
def ofFields? (origin : Origin) (fields : List (String × Json)) : String → Option (Checked Token)
  | "number" => some ((required (checkNumber origin) fields "value").map num)
  | "variable" => some ((required checkText fields "name").map var)
  | "operator" =>
    some ((required (checkNamed Operator.ofText? .unknownOperator) fields "symbol").map op)
  | "function" => some ((required (checkNamed Func.ofWord? .unknownFunction) fields "name").map fn)
  | "grouping" =>
    some ((required (checkNamed Bracket.ofText? .notBracket) fields "bracket").map bracket)
  | _ => none

def ofJson (origin : Origin) : Json → Checked Token
  | .object fields =>
    match Json.field? fields "kind" with
    | none => .fail .noKind
    | some (.text kind) =>
      match ofFields? origin fields kind with
      | some checked => .within (.field kind) checked
      | none => .fail .unknownKind
    | some _ => .fail .unknownKind
  | _ =>
    match origin with
    | .text => .fail .notObject
    | .data => .fail .noFields

/-- Tokens from a list of values. -/
def listOfJson (origin : Origin) (vs : List Json) : Checked (List Token) :=
  .each (ofJson origin) 0 vs

/-- The JSON text of a list of tokens. -/
def render (ts : List Token) : String := (Json.list (ts.map toJson)).render

/-- The tokens in a JSON text. -/
def parse (s : String) : Checked (List Token) :=
  match Json.parse? s with
  | none => .fail .malformed
  | some (.list vs) => listOfJson .text vs
  | some _ => .fail .notList

end Token

end Reckon
