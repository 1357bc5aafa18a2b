import Reckon.Engine
import Reckon.Named

/-!
# Builders

A builder collects the names for an expression, with values for some of them. Declaring a name again
replaces what was said about it, a value included. A build with values is a new expression that holds
them as defaults, one without is what compiling gives.
-/

namespace Reckon

structure Builder where
  source : String
  /-- The declared names, with the values declared for them. -/
  declared : Named (Option Supplied)

namespace Builder

def new (source : String) : Builder := ⟨source, []⟩

def declare (b : Builder) (name : String) (value : Option Supplied) : Builder :=
  { b with declared := b.declared.put name value }

def declareAll (b : Builder) (ds : List (String × Option Supplied)) : Builder :=
  ds.foldl (fun b d => b.declare d.1 d.2) b

def declareNames (b : Builder) (names : List String) : Builder :=
  b.declareAll (names.map (·, none))

def names (b : Builder) : List String := b.declared.names

/-- The values as floats, in the order of the declarations. -/
def floats : List (String × Option Supplied) → Except Supplied.Fault (List (String × Float))
  | [] => .ok []
  | (_, none) :: ds => floats ds
  | (name, some v) :: ds => do
    let x ← v.toFloat
    let rest ← floats ds
    return (name, x) :: rest

/-- Puts a default at its place in the order of names. -/
def insertDefault (d : String × Float) : List (String × Float) → List (String × Float)
  | [] => [d]
  | e :: es => if d.1 < e.1 then d :: e :: es else e :: insertDefault d es

/-- The values as defaults, sorted by name. -/
def defaults (b : Builder) : Except Supplied.Fault (List (String × Float)) :=
  (floats b.declared).map fun ds => ds.foldr insertDefault []

end Builder

/-- Compiles what the builder describes and attaches its values. -/
def Engine.build (g : Engine) (b : Builder) : Except Failure Issued × Engine :=
  match g.compile b.source b.names with
  | (.error e, g) => (.error e, g)
  | (.ok made, g) =>
    match b.defaults with
    | .error e => (.error (.unusable e), g)
    | .ok [] => (.ok made, g)
    | .ok ds =>
      let (fresh, g) := g.issue { made.expression with defaults := ds }
      (.ok fresh, g)

end Reckon
