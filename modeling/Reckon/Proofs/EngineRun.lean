import Mathlib.Data.List.Sort
import Reckon.Builder

/-!
# Runs of an engine

A run answers requests one after the other, each in the state that the ones before it have left. What
every state keeps is `Engine.Sound`: a cached expression is what compiling its key gives, and no cache
asked for is too large. Hence the cache cannot be seen (`compile_after_eq_uncached`): whatever came
before, compiling gives what it gives without a cache.
-/

namespace Reckon

/-! ### Sorted names -/

theorem sortNames_eq_of_mem_iff {ms ns : List String} (h : ∀ n, n ∈ ms ↔ n ∈ ns) :
    sortNames ms = sortNames ns :=
  have : Std.Irrefl fun m n : String => m < n := ⟨fun n => String.lt_irrefl n⟩
  (sorted_sortNames ms).eq_of_mem_iff (sorted_sortNames ns) fun n => by rw [mem_sortNames, mem_sortNames, h]

theorem sortNames_sortNames (names : List String) : sortNames (sortNames names) = sortNames names :=
  sortNames_eq_of_mem_iff fun _ => mem_sortNames

namespace Expression

theorem compile_eq_ok_iff {source : String} {names : List String} {e : Expression} :
    compile source names = .ok e ↔ ∃ v ts out, Vocabulary.ofNames names = .ok v ∧ v.tokenize source = .ok ts ∧
      toPostfix ts = .ok out ∧ e = ⟨source, v.names, out, []⟩ := by
  rw [compile]
  cases hv : Vocabulary.ofNames names with
  | error r => simp [Except.mapError, bind, Except.bind]
  | ok v =>
    cases ht : v.tokenize source with
    | error l => simp [Except.mapError, bind, Except.bind, ht]
    | ok ts => cases hp : toPostfix ts <;> simp [Except.mapError, bind, Except.bind, pure, Except.pure, ht, hp, eq_comm]

/-- A compiled expression has its text, its names in order, and no defaults. -/
theorem eq_of_compile {source : String} {names : List String} {e : Expression}
    (h : compile source names = .ok e) : e = ⟨source, sortNames names, e.tokens, []⟩ := by
  obtain ⟨v, ts, out, hv, -, -, rfl⟩ := compile_eq_ok_iff.1 h
  rw [Vocabulary.names_of_ofNames hv]

theorem map_defaults_nil_compile (source : String) (names : List String) :
    (compile source names).map (fun e => { e with defaults := [] }) = compile source names := by
  cases h : compile source names with
  | error e => rfl
  | ok e =>
    have hnone : e.defaults = [] := by rw [eq_of_compile h]
    show Except.ok { e with defaults := [] } = Except.ok e
    rw [← hnone]

end Expression

/-! ### The cache -/

namespace RecentCache

variable {κ α ε : Type} [DecidableEq κ] {c : RecentCache κ α} {k : κ} {make : Unit → Except ε α}
  {P : κ → α → Prop}

theorem mem_entries_of_lookup {a : α} (h : c.entries.lookup k = some a) : (k, a) ∈ c.entries := by
  obtain ⟨l, r, he, -⟩ := List.lookup_eq_some_iff.1 h
  simp [he]

/-- What holds of all entries and of every new result holds of all entries afterwards. -/
theorem entries_fetch (hc : ∀ p ∈ c.entries, P p.1 p.2) (hm : ∀ a, make () = .ok a → P k a) :
    ∀ p ∈ (c.fetch k make).2.entries, P p.1 p.2 := by
  intro p hp
  unfold fetch at hp
  split at hp
  · next a ha =>
    rcases List.mem_cons.1 hp with rfl | hp
    · exact hc _ (mem_entries_of_lookup ha)
    · exact hc p (List.mem_filter.1 hp).1
  · split at hp
    · exact hc p hp
    · next a ha =>
      rcases List.mem_cons.1 (List.mem_of_mem_take hp) with rfl | hp
      · exact hm a ha
      · exact hc p hp

/-- If the entries are what would be made, up to `f`, then so is the result. -/
theorem fetch_eq_make {β : Type} (f : α → β) {made : Except ε β} (hc : ∀ a, (k, a) ∈ c.entries → .ok (f a) = made)
    (hm : (make ()).map f = made) : (c.fetch k make).1.map f = made := by
  unfold fetch
  split
  · next a ha => exact hc a (mem_entries_of_lookup ha)
  · rw [← hm]
    cases make () <;> rfl

end RecentCache

/-! ### Requests -/

inductive Request
  | setVariable (name : String) (value : Option String)
  | reloadSettings
  | useSettings
  | clearCache
  | cacheInfo
  | compile (source : String) (names : List String)
  | build (b : Builder)

/-- The cache size that an environment asks for is one that a cache can have. -/
def Environment.Fits (env : Environment) : Prop := (Settings.load env).1.cacheSize ≤ Engine.maxCacheSize

/-- The request does not ask for too large a cache. -/
def Request.Fits : Request → Prop
  | setVariable name (some text) =>
    name = Settings.cacheSizeName → (Settings.readCacheSize (some text)).1 ≤ Engine.maxCacheSize
  | _ => True

namespace Engine

def handle (g : Engine) : Request → Engine
  | .setVariable name value => g.setVariable name value
  | .reloadSettings => g.reloadSettings
  | .useSettings => g.useSettings.2
  | .clearCache => g.clearCache
  | .cacheInfo => g.useCache.2
  | .compile source names => (g.compile source names).2
  | .build b => (g.build b).2

def after (g : Engine) (requests : List Request) : Engine := requests.foldl handle g

def Compiled (key : String × List String) (made : Issued) : Prop :=
  Expression.compile key.1 key.2 = .ok made.expression

def Faithful (c : CompileCache) : Prop := ∀ p ∈ c.entries, Compiled p.1 p.2

structure Sound (g : Engine) : Prop where
  environment : g.environment.Fits
  settings : ∀ s, g.settings = some s → s.cacheSize ≤ maxCacheSize
  cache : ∀ c, g.cache = some c → Faithful c

theorem cacheSize_load (env : Environment) :
    (Settings.load env).1.cacheSize = (Settings.readCacheSize (env.get? Settings.cacheSizeName)).1 := rfl

namespace Sound

variable {g : Engine}

theorem start {env : Environment} (h : env.Fits) : (start env).Sound :=
  ⟨h, (fun _ hs => by cases hs), fun _ hc => by cases hc⟩

theorem setVariable (h : g.Sound) {name : String} {value : Option String}
    (hr : (Request.setVariable name value).Fits) : (g.setVariable name value).Sound := by
  have default_fits : (Settings.readCacheSize none).1 ≤ maxCacheSize := by decide
  have henv := h.environment
  cases value with
  | none =>
    refine ⟨?_, h.settings, h.cache⟩
    show (Settings.load (Named.erase g.environment name)).1.cacheSize ≤ maxCacheSize
    rw [cacheSize_load, Named.get?_erase]
    split
    · exact default_fits
    · exact henv
  | some text =>
    refine ⟨?_, h.settings, h.cache⟩
    show (Settings.load (g.environment.put name text)).1.cacheSize ≤ maxCacheSize
    rw [cacheSize_load, Named.get?_put]
    split
    · next hn => exact hr hn
    · exact henv

theorem reloadSettings (h : g.Sound) : g.reloadSettings.Sound :=
  ⟨h.environment, (fun _ hs => by cases hs), h.cache⟩

theorem clearCache (h : g.Sound) : g.clearCache.Sound :=
  ⟨h.environment, h.settings, fun _ hc => by cases hc⟩

theorem useSettings (h : g.Sound) : g.useSettings.2.Sound ∧ g.useSettings.1.cacheSize ≤ maxCacheSize := by
  unfold Engine.useSettings
  split
  · next s hs => exact ⟨h, h.settings s hs⟩
  · refine ⟨⟨h.environment, ?_, h.cache⟩, h.environment⟩
    rintro s hs
    cases hs
    exact h.environment

theorem issue (h : g.Sound) (e : Expression) : (g.issue e).2.Sound := ⟨h.environment, h.settings, h.cache⟩

/-- There always is a cache to be had, and it is faithful. -/
theorem useCache (h : g.Sound) : ∃ c, g.useCache.1 = .ok c ∧ Faithful c ∧ g.useCache.2.Sound := by
  unfold Engine.useCache
  split
  · next c hc => exact ⟨c, rfl, h.cache c hc, h⟩
  · obtain ⟨hs, hsize⟩ := h.useSettings
    have hempty : Faithful (.empty g.useSettings.1.cacheSize) := fun p hp => by cases hp
    simp only [if_neg (Nat.not_lt.2 hsize)]
    refine ⟨_, rfl, hempty, hs.environment, hs.settings, ?_⟩
    rintro c hc
    cases hc
    exact hempty

/-- Compiling keeps the engine sound and gives what it gives without a cache. -/
theorem compile (h : g.Sound) (source : String) (names : List String) :
    (g.compile source names).1.map (·.expression) =
        (Expression.compile source (sortNames names)).mapError .expression ∧
      (g.compile source names).2.Sound := by
  obtain ⟨c, hc, hf, hs⟩ := h.useCache
  unfold Engine.compile
  rcases hu : g.useCache with ⟨r, g'⟩
  rw [hu] at hc hs
  cases hc
  set make : Unit → Except Error Issued := fun _ =>
    (Expression.compile source (sortNames names)).map fun e => ⟨g'.next, e⟩
  have hmake : ∀ a, make () = .ok a → Compiled (source, sortNames names) a := by
    intro a ha
    simp only [make] at ha
    cases he : Expression.compile source (sortNames names) with
    | error e => rw [he] at ha; cases ha
    | ok e => rw [he] at ha; cases ha; exact he
  constructor
  · have hres : (c.fetch (source, sortNames names) make).1.map (·.expression) =
        Expression.compile source (sortNames names) := by
      refine RecentCache.fetch_eq_make (fun made : Issued => made.expression) (fun a ha => (hf _ ha).symm) ?_
      simp only [make]
      cases Expression.compile source (sortNames names) <;> rfl
    show ((c.fetch (source, sortNames names) make).1.mapError Failure.expression).map (·.expression) = _
    rw [← hres]
    cases (c.fetch (source, sortNames names) make).1 <;> rfl
  · refine ⟨hs.environment, hs.settings, ?_⟩
    rintro c' hc'
    cases hc'
    exact RecentCache.entries_fetch hf hmake

/-- A build changes the cache as compiling does; its defaults go into a new expression. -/
theorem build (h : g.Sound) (b : Builder) : (g.build b).2.Sound := by
  have hs := (h.compile b.source b.names).2
  unfold Engine.build
  split
  · next hc => rw [hc] at hs; exact hs
  · next made g' hc =>
    rw [hc] at hs
    split
    · exact hs
    · exact hs
    · next ds _ _ => exact hs.issue { made.expression with defaults := ds }

theorem handle (h : g.Sound) {r : Request} (hr : r.Fits) : (g.handle r).Sound := by
  cases r with
  | setVariable name value => exact h.setVariable hr
  | reloadSettings => exact h.reloadSettings
  | useSettings => exact h.useSettings.1
  | clearCache => exact h.clearCache
  | cacheInfo =>
    obtain ⟨_, _, _, hs⟩ := h.useCache
    exact hs
  | compile source names => exact (h.compile source names).2
  | build b => exact h.build b

theorem after (h : g.Sound) {requests : List Request} (hr : ∀ r ∈ requests, r.Fits) :
    (g.after requests).Sound := by
  induction requests generalizing g with
  | nil => exact h
  | cons r rs ih =>
    rw [List.forall_mem_cons] at hr
    exact ih (h.handle hr.1) hr.2

end Sound

/-- Whatever has been asked before, compiling gives what it gives without a cache: an expression without
defaults, or the same error. The order of the names and their repetition do not matter. -/
theorem compile_after_eq_uncached {env : Environment} (henv : env.Fits) {requests : List Request}
    (hr : ∀ r ∈ requests, r.Fits) (source : String) (names : List String) :
    (((start env).after requests).compile source names).1.map (·.expression) =
        (Expression.compile source (sortNames names)).mapError .expression ∧
      (∀ made, (((start env).after requests).compile source names).1 = .ok made →
        made.expression.declared = sortNames names ∧ made.expression.defaults = []) ∧
      ∀ names', (∀ n, n ∈ names' ↔ n ∈ names) →
        (((start env).after requests).compile source names').1.map (·.expression) =
          (((start env).after requests).compile source names).1.map (·.expression) := by
  have sound := (Sound.start henv).after hr
  have uncached := fun names => (sound.compile source names).1
  refine ⟨uncached names, fun made hm => ?_, fun names' hn => ?_⟩
  · have h := uncached names
    rw [hm] at h
    cases he : Expression.compile source (sortNames names) with
    | error e => rw [he] at h; cases h
    | ok e =>
      rw [he] at h
      have heq : made.expression = e := by injection h
      rw [heq, Expression.eq_of_compile he, sortNames_sortNames]
      exact ⟨rfl, rfl⟩
  · rw [uncached, uncached, sortNames_eq_of_mem_iff hn]

/-- An eviction, a failure, a build with a default, and a cache of size zero after a reload. -/
theorem compile_after_eq_uncached_busy :
    let env : Environment := [(Settings.cacheSizeName, "1")]
    let requests : List Request :=
      [.compile "x*y" ["x", "y"], .compile "x+1" ["x"], .compile "1 $" [],
        .build ((Builder.new "x*y").declareAll [("y", none), ("x", some (.number 2))]),
        .setVariable Settings.cacheSizeName (some "0"), .reloadSettings, .clearCache, .cacheInfo]
    env.Fits ∧ (∀ r ∈ requests, r.Fits) ∧
      (((start env).after requests).compile "x*y" ["y", "x", "y"]).1.map (·.expression) =
        (Expression.compile "x*y" (sortNames ["y", "x", "y"])).mapError .expression := by
  intro env requests
  have henv : env.Fits := by show (1 : Nat) ≤ maxCacheSize; decide
  have hr : ∀ r ∈ requests, r.Fits := by
    have hsize : (Settings.readCacheSize (some "0")).1 ≤ maxCacheSize := by decide
    simpa [requests, Request.Fits] using hsize
  exact ⟨henv, hr, (compile_after_eq_uncached henv hr "x*y" ["y", "x", "y"]).1⟩

end Engine

end Reckon
