import Reckon.Proofs.EngineRun

/-!
# Environments that stop compiling

Whatever its environment says, an engine compiles as one without any variable set, with one exception: a
size that reads as an integer above `maxCacheSize` is taken as it is, and then no cache can be opened and
every compilation fails (`compile_after_eq_default`). `Engine.Barred` is what the states of such an engine
keep; those of all others are sound.
-/

namespace Reckon

/-- The size of the cache is given as an integer that no cache can have. -/
def Environment.Oversized (env : Environment) : Prop :=
  ∃ text n, env.get? Settings.cacheSizeName = some text ∧ Settings.strip text ≠ "" ∧
    Numeral.integer? text = some n ∧ (Engine.maxCacheSize : Int) < n

/-- The request leaves the environment as it is. -/
def Request.KeepsEnvironment : Request → Prop
  | setVariable .. => False
  | _ => True

theorem Request.KeepsEnvironment.fits {r : Request} (h : r.KeepsEnvironment) : r.Fits := by
  cases r with
  | setVariable name value => cases h
  | _ => trivial

theorem Settings.maxCacheSize_lt_readCacheSize_iff {raw : Option String} :
    Engine.maxCacheSize < (readCacheSize raw).1 ↔ ∃ text n, raw = some text ∧ strip text ≠ "" ∧
      Numeral.integer? text = some n ∧ (Engine.maxCacheSize : Int) < n := by
  have hdefault : ¬Engine.maxCacheSize < standard.cacheSize := by decide
  cases raw with
  | none => simp [readCacheSize, hdefault]
  | some text =>
    simp only [readCacheSize, Option.some.injEq, exists_and_left, exists_eq_left']
    by_cases hblank : strip text = ""
    · simp [hblank, hdefault]
    · cases hread : Numeral.integer? text with
      | none => simp [hblank, hdefault]
      | some n =>
        cases n with
        | ofNat n => simp [hblank]
        | negSucc n =>
          have hneg : ¬(Engine.maxCacheSize : Int) < Int.negSucc n := by
            have := Int.negSucc_lt_zero n
            omega
          simp [hblank, hdefault, hneg]

theorem Environment.fits_iff_not_oversized {env : Environment} : env.Fits ↔ ¬env.Oversized := by
  rw [Fits, Engine.cacheSize_load, ← not_lt, Settings.maxCacheSize_lt_readCacheSize_iff]
  rfl

namespace Engine

/-- Neither the environment nor the settings read from it allow a cache, and there is none. -/
structure Barred (g : Engine) : Prop where
  environment : ¬g.environment.Fits
  settings : ∀ s, g.settings = some s → maxCacheSize < s.cacheSize
  cache : g.cache = none

namespace Barred

variable {g : Engine}

theorem start {env : Environment} (h : ¬env.Fits) : (start env).Barred :=
  ⟨h, (fun _ hs => by cases hs), rfl⟩

theorem useSettings (h : g.Barred) : g.useSettings.2.Barred ∧ maxCacheSize < g.useSettings.1.cacheSize := by
  unfold Engine.useSettings
  split
  · next s hs => exact ⟨h, h.settings s hs⟩
  · have hsize : maxCacheSize < (Settings.load g.environment).1.cacheSize := Nat.not_le.1 h.environment
    refine ⟨⟨h.environment, ?_, h.cache⟩, hsize⟩
    intro s hs
    cases hs
    exact hsize

theorem useCache (h : g.Barred) : g.useCache.1 = .error .cacheTooLarge ∧ g.useCache.2.Barred := by
  obtain ⟨hbarred, hsize⟩ := h.useSettings
  unfold Engine.useCache
  rw [h.cache]
  simp only [if_pos hsize]
  exact ⟨trivial, hbarred⟩

theorem compile (h : g.Barred) (source : String) (names : List String) :
    (g.compile source names).1 = .error .cacheTooLarge ∧ (g.compile source names).2.Barred := by
  obtain ⟨herror, hbarred⟩ := h.useCache
  unfold Engine.compile
  rcases hu : g.useCache with ⟨r, g'⟩
  rw [hu] at herror hbarred
  cases herror
  exact ⟨rfl, hbarred⟩

theorem build (h : g.Barred) (b : Builder) : (g.build b).2.Barred := by
  obtain ⟨herror, hbarred⟩ := h.compile b.source b.names
  unfold Engine.build
  rcases hc : g.compile b.source b.names with ⟨r, g'⟩
  rw [hc] at herror hbarred
  cases herror
  exact hbarred

theorem handle (h : g.Barred) {r : Request} (hr : r.KeepsEnvironment) : (g.handle r).Barred := by
  cases r with
  | setVariable name value => cases hr
  | reloadSettings => exact ⟨h.environment, (fun _ hs => by cases hs), h.cache⟩
  | useSettings => exact h.useSettings.1
  | clearCache => exact ⟨h.environment, h.settings, rfl⟩
  | cacheInfo => exact h.useCache.2
  | compile source names => exact (h.compile source names).2
  | build b => exact h.build b

theorem after (h : g.Barred) {requests : List Request} (hr : ∀ r ∈ requests, r.KeepsEnvironment) :
    (g.after requests).Barred := by
  induction requests generalizing g with
  | nil => exact h
  | cons r rs ih =>
    rw [List.forall_mem_cons] at hr
    exact ih (h.handle hr.1) hr.2

end Barred

/-- With no variable set there always is a cache. -/
theorem fits_nil : Environment.Fits [] := by
  unfold Environment.Fits
  decide

/-- What an engine started in an environment gives for a text, after requests that keep the environment. -/
theorem compile_after_of_fits {env : Environment} (henv : env.Fits) {requests : List Request}
    (hr : ∀ r ∈ requests, r.KeepsEnvironment) (source : String) (names : List String) :
    (((start env).after requests).compile source names).1.map (·.expression) =
      (Expression.compile source (sortNames names)).mapError .expression := by
  have hsound : ((start env).after requests).Sound := (Sound.start henv).after fun r h => (hr r h).fits
  exact (hsound.compile source names).1

/-- Whatever the environment, and after requests that keep it, compiling gives what it gives with no
variable set: the expression of the text or the error in it. Only for an oversized cache it always fails. -/
theorem compile_after_eq_default (env : Environment) {requests : List Request}
    (hr : ∀ r ∈ requests, r.KeepsEnvironment) (source : String) (names : List String) :
    (((start []).after requests).compile source names).1.map (·.expression) =
        (Expression.compile source (sortNames names)).mapError .expression ∧
      (¬env.Oversized → (((start env).after requests).compile source names).1.map (·.expression) =
        (((start []).after requests).compile source names).1.map (·.expression)) ∧
      (env.Oversized → (((start env).after requests).compile source names).1 = .error .cacheTooLarge) := by
  have hdefault := compile_after_of_fits fits_nil hr source names
  refine ⟨hdefault, fun hsize => ?_, fun hsize => ?_⟩
  · rw [hdefault]
    exact compile_after_of_fits (Environment.fits_iff_not_oversized.2 hsize) hr source names
  · have hfits : ¬env.Fits := fun h => Environment.fits_iff_not_oversized.1 h hsize
    exact (((Barred.start hfits).after hr).compile source names).1

/-- A size in digits of another script with a level that is none, after a reload and a failed compilation. -/
theorem compile_after_eq_default_reloaded :
    let env : Environment := [(Settings.cacheSizeName, " ٣_٢ "), (Settings.logLevelName, "loud")]
    let requests : List Request := [.compile "1 $" [], .reloadSettings, .clearCache]
    (∀ r ∈ requests, r.KeepsEnvironment) ∧ ¬env.Oversized ∧
      (((start env).after requests).compile "x+1" ["x"]).1.map (·.expression) =
        (((start []).after requests).compile "x+1" ["x"]).1.map (·.expression) := by
  intro env requests
  have hr : ∀ r ∈ requests, r.KeepsEnvironment := by simp [requests, Request.KeepsEnvironment]
  have hsize : ¬env.Oversized := by
    rw [← Environment.fits_iff_not_oversized]
    show (32 : Nat) ≤ maxCacheSize
    decide
  exact ⟨hr, hsize, (compile_after_eq_default env hr "x+1" ["x"]).2.1 hsize⟩

/-- A size of two to the power 63 is no bad value to be replaced by the default: nothing compiles. -/
theorem compile_fails_with_oversized_cache :
    let env : Environment := [(Settings.cacheSizeName, "9223372036854775808")]
    ((start env).compile "1+2" []).1 = .error .cacheTooLarge ∧
      ((start []).compile "1+2" []).1 ≠ .error .cacheTooLarge := by
  intro env
  have hfits : ¬env.Fits := by
    show ¬(9223372036854775808 : Nat) ≤ maxCacheSize
    decide
  have hdefault : ((start []).compile "1+2" []).1.map (·.expression) = _ :=
    ((Sound.start fits_nil).compile "1+2" []).1
  refine ⟨((Barred.start hfits).compile "1+2" []).1, fun h => ?_⟩
  rw [h] at hdefault
  cases he : Expression.compile "1+2" (sortNames []) with
  | error e => rw [he] at hdefault; cases hdefault
  | ok e => rw [he] at hdefault; cases hdefault

end Engine

end Reckon
