import Reckon.Settings
import Reckon.Stored.Field

/-!
# Settings from fields

Settings given field by field: the size must be an integer that is not negative, the level any text.
-/

namespace Reckon.Settings

open Stored

/-- An integer that is not negative. -/
def checkSize (v : Json) : Checked Nat := do
  match ← checkInteger v with
  | .ofNat n => .ok n
  | .negSucc _ => .fail .negative

def ofFields (fields : List (String × Json)) : Checked Settings :=
  (Checked.both (optional standard.cacheSize checkSize fields "cache_size")
    (optional standard.logLevel checkText fields "log_level")).map
      fun (size, level) => ⟨size, level⟩

end Reckon.Settings
