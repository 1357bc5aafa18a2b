import Reckon.Named
import Reckon.Numeral
import Reckon.Text.Case

/-!
# Settings

Two settings are read from environment variables: the size of the compile cache and the level of
logging. A text that cannot be used gives the default and a warning, a blank one the default alone.
-/

namespace Reckon

/-- Environment variables. -/
abbrev Environment := Named String

structure Settings where
  cacheSize : Nat := 256
  logLevel : String := "WARNING"
  deriving DecidableEq, Repr

/-- A text that was not used, quoted as it stands. -/
inductive SettingsWarning
  | cacheSize (raw : String)
  | logLevel (raw : String)
  deriving DecidableEq, Repr

namespace Settings

def cacheSizeName : String := "MATHEXPR_CACHE_SIZE"

def logLevelName : String := "MATHEXPR_LOG_LEVEL"

/-- The settings of an empty environment. -/
def standard : Settings := {}

/-- The levels of logging. -/
def levels : List String := ["DEBUG", "INFO", "WARNING", "ERROR", "CRITICAL"]

/-- The text without the blanks around it. -/
def strip (s : String) : String := String.ofList (Text.trim Text.isBlank s.toList)

def readCacheSize : Option String → Nat × Option SettingsWarning
  | none => (standard.cacheSize, none)
  | some raw =>
    if strip raw = "" then (standard.cacheSize, none)
    else
      match Numeral.integer? raw with
      | some (.ofNat n) => (n, none)
      | _ => (standard.cacheSize, some (.cacheSize raw))

def readLogLevel : Option String → String × Option SettingsWarning
  | none => (standard.logLevel, none)
  | some raw =>
    let level := Text.upper (strip raw)
    if level = "" then (standard.logLevel, none)
    else if level ∈ levels then (level, none)
    else (standard.logLevel, some (.logLevel raw))

/-- The settings in an environment, with the warnings. -/
def load (env : Environment) : Settings × List SettingsWarning :=
  let (size, w) := readCacheSize (env.get? cacheSizeName)
  let (level, w') := readLogLevel (env.get? logLevelName)
  (⟨size, level⟩, w.toList ++ w'.toList)

end Settings

def SettingsWarning.message : SettingsWarning → String
  | cacheSize raw =>
    "Invalid " ++ Settings.cacheSizeName ++ " value '" ++ raw ++ "'. Using " ++
      toString Settings.standard.cacheSize ++ "."
  | logLevel raw =>
    "Unknown " ++ Settings.logLevelName ++ " value '" ++ raw ++ "'. Using '" ++
      Settings.standard.logLevel ++ "'."

end Reckon
