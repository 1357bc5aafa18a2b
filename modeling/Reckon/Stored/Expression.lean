import Reckon.Expression
import Reckon.Stored.Token

/-!
# Stored expressions

An expression is stored as an object of its four fields. On reading, the declared names and the defaults
may be left out, and the defaults may be an object in place of a list of pairs.
-/

namespace Reckon

open Stored

namespace Expression

def toJson (e : Expression) : Json :=
  .object [("source", .text e.source),
    ("variables", .list (e.declared.map .text)),
    ("postfix", .list (e.tokens.map Token.toJson)),
    ("defaults", .list (e.defaults.map fun (n, x) => .list [.text n, .float x]))]

/-- A list of values with one check for each. -/
def checkList {α : Type} (check : Json → Checked α) : Json → Checked (List α)
  | .list vs => .each check 0 vs
  | _ => .fail .notTuple

/-- A pair of a name and a number. -/
def checkPair : Json → Checked (String × Float)
  | .list [] => .both (.within (.index 0) (.fail .missing)) (.within (.index 1) (.fail .missing))
  | .list [n] => .both (.within (.index 0) (checkText n)) (.within (.index 1) (.fail .missing))
  | .list [n, x] =>
    .both (.within (.index 0) (checkText n)) (.within (.index 1) (checkNumber .data x))
  | .list _ => .fail .tooLong
  | _ => .fail .notTuple

/-- The fields of an object as pairs, sorted by name. -/
def sortedPairs (fields : List (String × Json)) : List Json :=
  (sortNames (fields.map (·.1))).filterMap fun name =>
    (Json.field? fields name).map fun v => .list [.text name, v]

def checkDefaults : Json → Checked (List (String × Float))
  | .object fields => .each checkPair 0 (sortedPairs fields)
  | v => checkList checkPair v

def ofJson : Json → Checked Expression
  | .object fields =>
    (Checked.both (required checkText fields "source")
      (.both (optional [] (checkList checkText) fields "variables")
        (.both (required (checkList (Token.ofJson .text)) fields "postfix")
          (optional [] checkDefaults fields "defaults")))).map
      fun (source, declared, ts, defaults) => ⟨source, declared, ts, defaults⟩
  | _ => .fail .notRecord

/-- The JSON text of an expression. -/
def render (e : Expression) : String := e.toJson.render

/-- The expression in a JSON text. -/
def parse (s : String) : Checked Expression :=
  match Json.parse? s with
  | none => .fail .malformed
  | some v => ofJson v

end Expression

end Reckon
