import Reckon.Proofs.Literal
import Reckon.Proofs.WholeNumber
import Reckon.Stored.Settings

/-!
# Loading settings

Any text of a variable is read: a size from a text that writes a whole number that is not negative, a level
from the name of one in any letter case and with blanks around it, and from all others the default, with a
warning unless the text is blank (`Settings.load_eq`). Settings that were loaded are loaded again from the
text of their size and their level.
-/

namespace Reckon

theorem Text.upperChar_ne_nil (c : Char) : upperChar c ≠ [] := by
  have himages : ∀ e ∈ upperExpansions, e.2 ≠ [] := by decide
  unfold upperChar mapCase
  split
  · exact List.cons_ne_nil _ _
  · split
    · next image h =>
      obtain ⟨l, r, he, -⟩ := List.lookup_eq_some_iff.1 h
      have hne := himages (c.toNat, image) (he ▸ by simp)
      rwa [ne_eq, List.map_eq_nil_iff]
    · split <;> exact List.cons_ne_nil _ _

theorem Text.upper_eq_empty_iff {s : String} : upper s = "" ↔ s = "" := by
  rw [upper, ← String.toList_inj, String.toList_ofList, ← String.toList_inj]
  cases s.toList with
  | nil => exact iff_of_true rfl rfl
  | cons c cs => simp [upperChar_ne_nil]

namespace Numeral

variable {s : String} {n : Int}

/-- A written number has a digit, which is no blank. -/
theorem Writes.strip_ne_empty (h : Writes s n) : Settings.strip s ≠ "" := by
  obtain ⟨before, sign, cs, after, ds, hs, -, -, -, hcs, -⟩ := h
  obtain ⟨c, cs', d, ds', rfl, -, hc⟩ := hcs.exists_cons
  rw [Settings.strip, ne_eq, Text.ofList_trim_eq_empty_iff]
  intro hblank
  have hno := Text.isBlank_of_decimalValue? hc
  rw [hblank c (by rw [hs]; simp)] at hno
  cases hno

theorem Writes.natAbs_lt (h : Writes s n) : n.natAbs < 10 ^ integerDigits := by
  obtain ⟨_, sign, _, _, ds, -, -, -, -, hcs, hlength, rfl⟩ := h
  have hlt : Nat.ofDigits 10 ds.reverse < 10 ^ ds.reverse.length :=
    Nat.ofDigits_lt_base_pow_length (by decide) fun d hd => hcs.value_lt_ten d (List.mem_reverse.1 hd)
  rw [List.length_reverse] at hlt
  have hle : 10 ^ ds.length ≤ 10 ^ integerDigits := Nat.pow_le_pow_right (by decide) hlength
  split <;> simpa using hlt.trans_le hle

theorem writes_toString {n : Nat} (h : n < 10 ^ integerDigits) : Writes (toString n) n := by
  have hdigit : ∀ c ∈ Nat.toDigits 10 n, c.isDigit = true := fun c hc =>
    Nat.isDigit_of_mem_toDigits (by decide) (by decide) hc
  have hchars : ∀ c ∈ Nat.toDigits 10 n, Lexeme.isNumeralChar c = true := fun c hc => by
    rw [Lexeme.isNumeralChar, hdigit c hc, Bool.true_or]
  have htext : (toString n).toList = Nat.toDigits 10 n := by
    rw [Nat.toString_eq_repr, Nat.toList_repr]
  have hjoin : joinDigits? ' ' (normalize (toString n).toList) = some (Nat.toDigits 10 n) := by
    rw [htext, normalize_eq hchars, joinDigits?_eq hchars]
  rw [← integer?_eq_some_iff, integer?_eq_some_iff_of_splitSign hjoin (splitSign_eq hchars)]
  refine ⟨Nat.toDigits_length 10 n integerDigits (by decide) h, isDigits_iff.2 ⟨Nat.toDigits_ne_nil, hdigit⟩, ?_⟩
  rw [Nat.ofDigitChars_ten_toDigits]
  rfl

end Numeral

namespace Settings

/-! ### Texts of the variables -/

def Blank (text : String) : Prop := ∀ c ∈ text.toList, Text.isBlank c = true

/-- The size that a variable gives. -/
def GivesSize (raw : Option String) (n : Nat) : Prop := ∃ text, raw = some text ∧ Numeral.Writes text n

/-- The level that a variable gives. -/
def GivesLevel (raw : Option String) (level : String) : Prop :=
  ∃ text, raw = some text ∧ Text.upper (strip text) = level ∧ level ∈ levels

/-- What is said about a text that gives no size. -/
def refusedSize (text : String) : String := "Invalid MATHEXPR_CACHE_SIZE value '" ++ text ++ "'. Using 256."

/-- What is said about a text that gives no level. -/
def refusedLevel (text : String) : String := "Unknown MATHEXPR_LOG_LEVEL value '" ++ text ++ "'. Using 'WARNING'."

theorem message_cacheSize (text : String) : (SettingsWarning.cacheSize text).message = refusedSize text := by
  have hfront : "Invalid " ++ cacheSizeName ++ " value '" = "Invalid MATHEXPR_CACHE_SIZE value '" := by cbv
  have hback : "'. Using " ++ (toString standard.cacheSize ++ ".") = "'. Using 256." := by cbv
  unfold SettingsWarning.message refusedSize
  dsimp only
  rw [hfront, String.append_assoc, String.append_assoc, hback]

theorem message_logLevel (text : String) : (SettingsWarning.logLevel text).message = refusedLevel text := by
  have hfront : "Unknown " ++ logLevelName ++ " value '" = "Unknown MATHEXPR_LOG_LEVEL value '" := by cbv
  have hback : "'. Using '" ++ (standard.logLevel ++ "'.") = "'. Using 'WARNING'." := by cbv
  unfold SettingsWarning.message refusedLevel
  dsimp only
  rw [hfront, String.append_assoc, String.append_assoc, hback]

/-! ### Readers of one variable -/

section Reader

variable {α : Type} {raw : Option String} {text : String}

theorem strip_eq_empty_iff : strip text = "" ↔ Blank text := Text.ofList_trim_eq_empty_iff

/-- The warning about a text that is not used. -/
def complaint (warning : String → SettingsWarning) (raw : Option String) : Option SettingsWarning :=
  raw.bind fun text => if strip text = "" then none else some (warning text)

/-- There is a warning exactly about a text that is not blank and gives nothing, and it says `message` of it. -/
def Warns (gives : Option String → α → Prop) (message : String → String) (raw : Option String)
    (w : Option SettingsWarning) : Prop :=
  ∀ m, w.map (·.message) = some m ↔ ∃ text, raw = some text ∧ ¬Blank text ∧ (¬∃ a, gives raw a) ∧ m = message text

/-- The reader takes what the text gives, or else the default with a warning. -/
structure Reads (read : Option String → α × Option SettingsWarning) (gives : Option String → α → Prop) (default : α)
    (warning : String → SettingsWarning) : Prop where
  taken : ∀ {raw a}, gives raw a → read raw = (a, none)
  replaced : ∀ {raw}, (¬∃ a, gives raw a) → read raw = (default, complaint warning raw)

namespace Reads

variable {read : Option String → α × Option SettingsWarning} {gives : Option String → α → Prop} {default a : α}
  {warning : String → SettingsWarning} {message : String → String}

theorem fst_of_gives (h : Reads read gives default warning) (ha : gives raw a) : (read raw).1 = a := by
  rw [h.taken ha]

theorem fst_of_not (h : Reads read gives default warning) (hno : ¬∃ a, gives raw a) : (read raw).1 = default := by
  rw [h.replaced hno]

/-- What holds of the default and of all that texts give holds of what is read. -/
theorem fst_of_forall (h : Reads read gives default warning) {P : α → Prop} (hdefault : P default)
    (hgives : ∀ {raw a}, gives raw a → P a) (raw : Option String) : P (read raw).1 := by
  by_cases hr : ∃ a, gives raw a
  · obtain ⟨a, ha⟩ := hr
    rw [h.taken ha]
    exact hgives ha
  · rw [h.replaced hr]
    exact hdefault

theorem warns (h : Reads read gives default warning) (hmessage : ∀ text, (warning text).message = message text)
    (raw : Option String) : Warns gives message raw (read raw).2 := by
  intro m
  by_cases hr : ∃ a, gives raw a
  · obtain ⟨a, ha⟩ := hr
    rw [h.taken ha]
    refine iff_of_false (fun hm => by cases hm) ?_
    rintro ⟨-, -, -, hno, -⟩
    exact hno ⟨a, ha⟩
  · rw [h.replaced hr]
    cases raw with
    | none => simp [complaint]
    | some text =>
      by_cases hblank : Blank text
      · rw [complaint, Option.bind_some, if_pos (strip_eq_empty_iff.2 hblank)]
        simp [hblank]
      · rw [complaint, Option.bind_some, if_neg (mt strip_eq_empty_iff.1 hblank), Option.map_some, hmessage]
        simp [hblank, hr, eq_comm]

end Reads

end Reader

theorem reads_readCacheSize : Reads readCacheSize GivesSize 256 .cacheSize where
  taken := by
    rintro _ n ⟨text, rfl, hn⟩
    simp only [readCacheSize, if_neg hn.strip_ne_empty, Numeral.integer?_eq_some_iff.2 hn]
  replaced := by
    intro raw h
    cases raw with
    | none => rfl
    | some text =>
      rw [readCacheSize, complaint, Option.bind_some]
      split
      · rfl
      · split
        · next n hn => exact absurd ⟨n, text, rfl, Numeral.integer?_eq_some_iff.1 hn⟩ h
        · rfl

theorem reads_readLogLevel : Reads readLogLevel GivesLevel "WARNING" .logLevel where
  taken := by
    rintro _ level ⟨text, rfl, rfl, hmem⟩
    have hne : Text.upper (strip text) ≠ "" := by
      intro he
      rw [he] at hmem
      revert hmem
      decide
    simp only [readLogLevel, if_neg hne, if_pos hmem]
  replaced := by
    intro raw h
    cases raw with
    | none => rfl
    | some text =>
      have hmem : Text.upper (strip text) ∉ levels := fun hmem => h ⟨_, text, rfl, rfl, hmem⟩
      simp only [readLogLevel, complaint, Option.bind_some, if_neg hmem, Text.upper_eq_empty_iff]
      split <;> rfl

/-! ### Both variables -/

/-- The environment that says what the settings are. -/
def toEnvironment (s : Settings) : Environment :=
  [(cacheSizeName, toString s.cacheSize), (logLevelName, s.logLevel)]

/-- Such settings are loaded from what they say. -/
theorem load_toEnvironment {s : Settings} (hsize : s.cacheSize < 10 ^ Numeral.integerDigits) (hlevel : s.logLevel ∈ levels) :
    load s.toEnvironment = (s, []) := by
  have hnormal : ∀ level ∈ levels, Text.upper (strip level) = level := by decide
  have size : GivesSize (s.toEnvironment.get? cacheSizeName) s.cacheSize :=
    ⟨toString s.cacheSize, rfl, Numeral.writes_toString hsize⟩
  have level : GivesLevel (s.toEnvironment.get? logLevelName) s.logLevel :=
    ⟨s.logLevel, rfl, hnormal _ hlevel, hlevel⟩
  rw [load, reads_readCacheSize.taken size, reads_readLogLevel.taken level]
  rfl

/-- The fields that the settings are made of. -/
def toFields (s : Settings) : List (String × Json) :=
  [("cache_size", .int s.cacheSize), ("log_level", .text s.logLevel)]

theorem ofFields_toFields (s : Settings) : ofFields s.toFields = .ok s := rfl

/-- Settings are read from every environment, and they pass the check of settings. Each is what its variable
gives or else the default, and the warnings are about the texts that give nothing and are not blank, the one
about the size in front. What is loaded is loaded again without a warning from its own texts. -/
theorem load_eq (env : Environment) :
    let size := env.get? cacheSizeName
    let level := env.get? logLevelName
    let s := (load env).1
    (∀ n, GivesSize size n → s.cacheSize = n) ∧ ((¬∃ n, GivesSize size n) → s.cacheSize = 256) ∧
      (∀ l, GivesLevel level l → s.logLevel = l) ∧ ((¬∃ l, GivesLevel level l) → s.logLevel = "WARNING") ∧
      (∃ w w', (load env).2 = w.toList ++ w'.toList ∧ Warns GivesSize refusedSize size w ∧
        Warns GivesLevel refusedLevel level w') ∧
      s.logLevel ∈ levels ∧ ofFields s.toFields = .ok s ∧ load s.toEnvironment = (s, []) := by
  intro size level s
  have hlevel : s.logLevel ∈ levels := by
    have hdefault : "WARNING" ∈ levels := by decide
    have hgives : ∀ {raw l}, GivesLevel raw l → l ∈ levels := by
      rintro _ l ⟨-, -, -, hmem⟩
      exact hmem
    exact reads_readLogLevel.fst_of_forall hdefault hgives level
  have hsize : s.cacheSize < 10 ^ Numeral.integerDigits := by
    have hdefault : 256 < 10 ^ Numeral.integerDigits :=
      Nat.lt_of_lt_of_le (by decide : 256 < 10 ^ 3) (Nat.pow_le_pow_right (by decide) (by decide))
    have hgives : ∀ {raw n}, GivesSize raw n → n < 10 ^ Numeral.integerDigits := by
      rintro _ n ⟨_, -, hn⟩
      exact hn.natAbs_lt
    exact reads_readCacheSize.fst_of_forall (P := fun n => n < 10 ^ Numeral.integerDigits) hdefault hgives size
  exact ⟨fun _ => reads_readCacheSize.fst_of_gives, reads_readCacheSize.fst_of_not,
    fun _ => reads_readLogLevel.fst_of_gives, reads_readLogLevel.fst_of_not,
    ⟨_, _, rfl, reads_readCacheSize.warns message_cacheSize size, reads_readLogLevel.warns message_logLevel level⟩,
    hlevel, ofFields_toFields s, load_toEnvironment hsize hlevel⟩

/-- A sign, digits of another script and an underscore between wide spaces, and a level among separators. -/
example : load [(cacheSizeName, "\u3000+١_٦ "), (logLevelName, "\x1c Debug\x1f")] = (⟨16, "DEBUG"⟩, []) := by rfl

end Settings

end Reckon
