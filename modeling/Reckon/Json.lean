/-!
# JSON values

Integers and floats are told apart by their text, and the fields of an object keep their order. Of two
fields with one name the last one counts.
-/

namespace Reckon

inductive Json
  | null
  | bool (b : Bool)
  | int (n : Int)
  | float (x : Float)
  | text (s : String)
  | list (items : List Json)
  | object (fields : List (String × Json))

namespace Json

/-- The value of the last field with this name. -/
def field? (fields : List (String × Json)) (name : String) : Option Json :=
  fields.reverse.lookup name

/-- The fields, each name once, at its first place and with its last value. -/
def distinctFields (fields : List (String × Json)) : List (String × Json) :=
  (fields.map (·.1)).eraseDups.filterMap fun name => (field? fields name).map (name, ·)

end Json

end Reckon
