import Reckon.Expression
import Reckon.RecentCache
import Reckon.Settings

/-!
# Engines

An engine compiles expressions in an environment. It reads its settings from the environment when they
are first needed, opens its compile cache with the size they give when that is first needed, and keeps
both until they are dropped. Every expression that it hands out has a serial number: two results are one
object exactly if their numbers agree.
-/

namespace Reckon

/-- An expression with the serial number of its making. -/
structure Issued where
  serial : Nat
  expression : Expression
  deriving DecidableEq

namespace Issued

/-- Equality of values; an expression equals itself even if it holds a NaN. -/
def same (a b : Issued) : Bool := a.serial == b.serial || a.expression.same b.expression

end Issued

/-- The compile cache; its keys are a text and the sorted names declared for it. -/
abbrev CompileCache := RecentCache (String × List String) Issued

/-- Why an engine hands out no expression. -/
inductive Failure
  | expression (e : Error)
  /-- The settings ask for a cache larger than a cache can be. -/
  | cacheTooLarge
  /-- A value given to a builder is no float. -/
  | unusable (cause : Supplied.Fault)
  deriving DecidableEq

def Failure.message : Failure → String
  | expression e => e.message
  | cacheTooLarge => "cannot fit 'int' into an index-sized integer"
  | unusable cause => cause.message

structure Engine where
  environment : Environment
  /-- The settings, once they have been read. -/
  settings : Option Settings
  /-- The compile cache, once it has been opened. -/
  cache : Option CompileCache
  /-- The next serial number. -/
  next : Nat

namespace Engine

/-- The greatest size of a cache. -/
def maxCacheSize : Nat := 0x7FFFFFFFFFFFFFFF

def start (env : Environment) : Engine := ⟨env, none, none, 0⟩

def setVariable (g : Engine) (name : String) (value : Option String) : Engine :=
  match value with
  | some s => { g with environment := g.environment.put name s }
  | none => { g with environment := g.environment.erase name }

/-- Forgets the settings, so that their next use reads the environment again. -/
def reloadSettings (g : Engine) : Engine := { g with settings := none }

/-- Forgets the cache, so that its next use opens a new one. -/
def clearCache (g : Engine) : Engine := { g with cache := none }

def useSettings (g : Engine) : Settings × Engine :=
  match g.settings with
  | some s => (s, g)
  | none =>
    let s := (Settings.load g.environment).1
    (s, { g with settings := some s })

def useCache (g : Engine) : Except Failure CompileCache × Engine :=
  match g.cache with
  | some c => (.ok c, g)
  | none =>
    let (s, g) := g.useSettings
    if maxCacheSize < s.cacheSize then (.error .cacheTooLarge, g)
    else
      let c := .empty s.cacheSize
      (.ok c, { g with cache := some c })

/-- Hands out an expression as a new object. -/
def issue (g : Engine) (e : Expression) : Issued × Engine :=
  (⟨g.next, e⟩, { g with next := g.next + 1 })

/-- The expression of a text over declared names, from the cache if it is there. -/
def compile (g : Engine) (source : String) (names : List String) :
    Except Failure Issued × Engine :=
  match g.useCache with
  | (.error e, g) => (.error e, g)
  | (.ok c, g) =>
    let names := sortNames names
    let (result, c) := c.fetch (source, names) fun _ =>
      (Expression.compile source names).map fun e => (⟨g.next, e⟩ : Issued)
    (result.mapError .expression, { g with cache := some c, next := g.next + 1 })

end Engine

end Reckon
