import Mathlib.Data.List.Induction
import Reckon.Proofs.Recency

/-!
# What a run keeps of its environment

The settings are those of the environment at their first use since the last reload, and the open cache has the
size that the settings gave at its first use since it was last dropped: `FirstUse` splits a run at such a
moment. Nothing else carries a change of the environment to the settings or to the cache
(`Engine.snapshots_after`).
-/

namespace Reckon

/-! ### First uses -/

section FirstUse

variable {α : Type} {resets : α → Prop} {uses : List α → α → Prop} {run : List α} {a : α}

/-- Nothing since the last reset is a use. Whether something is a use may depend on what came before it. -/
def Unused (resets : α → Prop) (uses : List α → α → Prop) (run : List α) : Prop :=
  ∀ early a late, run = early ++ a :: late → (∀ b ∈ late, ¬resets b) → ¬uses early a

/-- A run is cut where the first use since the last reset begins, at its end if there has been none. -/
structure FirstUse (resets : α → Prop) (uses : List α → α → Prop) (before since : List α) : Prop where
  unused : Unused resets uses before
  begins : ∀ a ∈ since.head?, uses before a
  kept : ∀ a ∈ since, ¬resets a

theorem unused_nil : Unused resets uses [] := by
  intro early a late h
  simp at h

theorem unused_concat : Unused resets uses (run ++ [a]) ↔ ¬uses run a ∧ (resets a ∨ Unused resets uses run) := by
  constructor
  · intro h
    refine ⟨h run a [] rfl (by simp), ?_⟩
    by_cases ha : resets a
    · exact .inl ha
    refine .inr fun early b late hrun hlate => ?_
    refine h early b (late ++ [a]) (by rw [hrun, List.append_assoc, List.cons_append]) fun c hc => ?_
    rcases List.mem_append.1 hc with hc | hc
    · exact hlate c hc
    · rwa [List.mem_singleton.1 hc]
  · rintro ⟨ha, hrest⟩ early b late hrun hlate
    -- the item is the new one, or stands in the run before it
    rcases List.eq_nil_or_concat late with rfl | ⟨late, c, rfl⟩
    · obtain ⟨rfl, heq⟩ := List.append_inj' hrun rfl
      cases heq
      exact ha
    · rw [List.concat_eq_append, ← List.cons_append, ← List.append_assoc] at hrun
      obtain ⟨rfl, heq⟩ := List.append_inj' hrun rfl
      cases heq
      rw [List.concat_eq_append] at hlate
      have hkeep : ¬resets a := hlate a (by simp)
      exact hrest.resolve_left hkeep early b late rfl fun d hd => hlate d (List.mem_append_left _ hd)

/-- There is one way at least to cut a run, if what is used is not reset by that. -/
theorem exists_firstUse (huses : ∀ run a, uses run a → ¬resets a) (run : List α) :
    ∃ before since, run = before ++ since ∧ FirstUse resets uses before since := by
  induction run using List.reverseRecOn with
  | nil => exact ⟨[], [], rfl, unused_nil, by simp, by simp⟩
  | append_singleton run a ih =>
    -- with no use up to the end the cut is at the end; else it is where it was, or in front of `a`
    by_cases hnew : Unused resets uses (run ++ [a])
    · exact ⟨run ++ [a], [], (List.append_nil _).symm, hnew, by simp, by simp⟩
    obtain ⟨before, since, rfl, hfirst⟩ := ih
    have hkeep : ¬resets a := fun hres => hnew (unused_concat.2 ⟨fun hu => huses _ _ hu hres, .inl hres⟩)
    refine ⟨before, since ++ [a], by rw [List.append_assoc], hfirst.unused, ?_, ?_⟩
    · cases since with
      | nil =>
        rw [List.append_nil] at hnew
        have hused : uses before a := by
          by_contra hu
          exact hnew (unused_concat.2 ⟨hu, .inr hfirst.unused⟩)
        simpa using hused
      | cons b since => exact hfirst.begins
    · intro b hb
      rcases List.mem_append.1 hb with hb | hb
      · exact hfirst.kept b hb
      · rwa [List.mem_singleton.1 hb]

end FirstUse

/-! ### Requests -/

def Request.AsksCache : Request → Prop
  | cacheInfo | compile .. | build _ => True
  | _ => False

def UsesCache (_ : List Request) (r : Request) : Prop := r.AsksCache

/-- A use of the settings: to see them, or to open the cache when it is not open. -/
def UsesSettings (before : List Request) (r : Request) : Prop :=
  r = .useSettings ∨ r.AsksCache ∧ Unused (· = .clearCache) UsesCache before

/-- The request is a change of the environment, or drops the settings read from it. -/
def Request.ChangesSettings : Request → Prop
  | setVariable .. | reloadSettings => True
  | _ => False

def Request.change (env : Environment) : Request → Environment
  | setVariable name (some text) => env.put name text
  | setVariable name none => env.erase name
  | _ => env

/-- The environment as requests leave it. -/
def Environment.after (env : Environment) (requests : List Request) : Environment := requests.foldl Request.change env

namespace Engine

variable {g : Engine} {r : Request}

theorem after_append (g : Engine) (requests more : List Request) :
    g.after (requests ++ more) = (g.after requests).after more := List.foldl_append

theorem after_concat (g : Engine) (requests : List Request) (r : Request) :
    g.after (requests ++ [r]) = (g.after requests).handle r := after_append g requests [r]

/-! ### Opening the cache -/

theorem settings_useSettings (g : Engine) : g.useSettings.2.settings = some g.useSettings.1 := by
  unfold useSettings
  split
  · next s hs => exact hs
  · rfl

theorem environment_useSettings (g : Engine) : g.useSettings.2.environment = g.environment := by
  unfold useSettings
  split <;> rfl

theorem useCache_of_fits (hc : g.cache = none) (hsize : g.useSettings.1.cacheSize ≤ maxCacheSize) :
    g.useCache = (.ok (.empty g.useSettings.1.cacheSize),
      { g.useSettings.2 with cache := some (.empty g.useSettings.1.cacheSize) }) := by
  rw [useCache_of_none hc, if_neg (Nat.not_lt.2 hsize)]

theorem environment_useCache (g : Engine) : g.useCache.2.environment = g.environment := by
  rw [useCache]
  cases g.cache with
  | some c => rfl
  | none =>
    dsimp only
    split <;> exact environment_useSettings g

/-- A request that needs the cache leaves the environment and the settings as opening the cache does. -/
theorem handle_of_asksCache (hr : r.AsksCache) :
    (g.handle r).environment = g.useCache.2.environment ∧ (g.handle r).settings = g.useCache.2.settings := by
  have hcompile : ∀ source names, (g.compile source names).2.environment = g.useCache.2.environment ∧
      (g.compile source names).2.settings = g.useCache.2.settings := by
    intro source names
    unfold compile
    rcases g.useCache with ⟨_ | c, g'⟩ <;> exact ⟨rfl, rfl⟩
  cases r with
  | cacheInfo => exact ⟨rfl, rfl⟩
  | compile source names => exact hcompile source names
  | build b =>
    have h := hcompile b.source b.names
    show (g.build b).2.environment = _ ∧ (g.build b).2.settings = _
    unfold build
    rcases hc : g.compile b.source b.names with ⟨_ | made, g'⟩
    · rwa [hc] at h
    · rw [hc] at h
      rcases b.defaults with _ | _ | ⟨d, ds⟩ <;> exact h
  | _ => exact hr.elim

theorem environment_handle (g : Engine) (r : Request) : (g.handle r).environment = r.change g.environment := by
  cases r with
  | setVariable name value => cases value <;> rfl
  | reloadSettings => rfl
  | useSettings => exact environment_useSettings g
  | clearCache => rfl
  | cacheInfo => exact environment_useCache g
  | compile source names => exact (handle_of_asksCache (r := .compile source names) trivial).1.trans (environment_useCache g)
  | build b => exact (handle_of_asksCache (r := .build b) trivial).1.trans (environment_useCache g)

theorem environment_after (g : Engine) (requests : List Request) :
    (g.after requests).environment = g.environment.after requests := by
  induction requests generalizing g with
  | nil => rfl
  | cons r rs ih =>
    show ((g.handle r).after rs).environment = _
    rw [ih, environment_handle]
    rfl

/-! ### What one request keeps -/

/-- Without a cache, a request that needs one opens it with the size that the settings give. -/
theorem cache_handle_of_none (h : g.Sound) (hc : g.cache = none) (hr : r.AsksCache) :
    ∃ c, (g.handle r).cache = some c ∧ c.capacity = g.useSettings.1.cacheSize := by
  have hopen := useCache_of_fits hc h.useSettings.2
  have hu : g.useCache.1 = .ok (.empty g.useSettings.1.cacheSize) := by rw [hopen]
  cases hkey : r.key? with
  | none =>
    cases r with
    | cacheInfo => exact ⟨_, cache_useCache hu, rfl⟩
    | compile source names => cases hkey
    | build b => cases hkey
    | _ => exact hr.elim
  | some key =>
    obtain ⟨make, -, hcache⟩ := exists_fetch_of_handle (cache_useCache hu) hkey
    rw [handle_useCache hu (by rw [hkey]; exact Option.some_ne_none key)] at hcache
    exact ⟨_, hcache, RecentCache.capacity_fetch _ _ _⟩

theorem capacity_handle {c : CompileCache} (hc : g.cache = some c) (hr : r ≠ .clearCache) :
    ∃ c', (g.handle r).cache = some c' ∧ c'.capacity = c.capacity := by
  cases hkey : r.key? with
  | none => exact ⟨c, cache_handle_of_key?_eq_none hc hkey hr, rfl⟩
  | some key =>
    obtain ⟨make, -, hcache⟩ := exists_fetch_of_handle hc hkey
    exact ⟨_, hcache, RecentCache.capacity_fetch _ _ _⟩

theorem exists_cache_handle (h : g.Sound) (hr : r.AsksCache) : ∃ c, (g.handle r).cache = some c := by
  cases hc : g.cache with
  | none =>
    obtain ⟨c, hc', -⟩ := cache_handle_of_none h hc hr
    exact ⟨c, hc'⟩
  | some c =>
    obtain ⟨c', hc', -⟩ := capacity_handle hc (r := r) (by rintro rfl; exact hr)
    exact ⟨c', hc'⟩

theorem cache_handle_of_not_asksCache (hasks : ¬r.AsksCache) (hr : r ≠ .clearCache) :
    (g.handle r).cache = g.cache := by
  cases r with
  | setVariable name value => cases value <;> rfl
  | reloadSettings => rfl
  | useSettings => exact cache_useSettings g
  | clearCache => exact absurd rfl hr
  | _ => exact absurd trivial hasks

theorem capacity_after {c : CompileCache} (hc : g.cache = some c) {requests : List Request}
    (hr : ∀ r ∈ requests, r ≠ .clearCache) : ∃ c', (g.after requests).cache = some c' ∧ c'.capacity = c.capacity := by
  induction requests generalizing g c with
  | nil => exact ⟨c, hc, rfl⟩
  | cons r rs ih =>
    rw [List.forall_mem_cons] at hr
    obtain ⟨c', hc', hcapacity⟩ := capacity_handle hc hr.1
    obtain ⟨c'', hc'', hcapacity'⟩ := ih hc' hr.2
    exact ⟨c'', hc'', hcapacity'.trans hcapacity⟩

/-- What a request leaves in the place of the settings. -/
theorem settings_handle (h : g.Sound) (r : Request) :
    (r = .reloadSettings ∧ (g.handle r).settings = none) ∨
    ((r = .useSettings ∨ r.AsksCache ∧ g.cache = none) ∧ (g.handle r).settings = some g.useSettings.1) ∨
    (r ≠ .reloadSettings ∧ r ≠ .useSettings ∧ (r.AsksCache → g.cache ≠ none) ∧ (g.handle r).settings = g.settings) := by
  -- a request that needs the cache uses the settings just when it opens one
  have asks : r.AsksCache → r ≠ .reloadSettings → r ≠ .useSettings →
      ((r = .useSettings ∨ r.AsksCache ∧ g.cache = none) ∧ (g.handle r).settings = some g.useSettings.1) ∨
      (r ≠ .reloadSettings ∧ r ≠ .useSettings ∧ (r.AsksCache → g.cache ≠ none) ∧ (g.handle r).settings = g.settings) := by
    intro hr hreload huse
    rw [(handle_of_asksCache hr).2]
    cases hc : g.cache with
    | none =>
      rw [useCache_of_fits hc h.useSettings.2]
      exact .inl ⟨.inr ⟨hr, rfl⟩, settings_useSettings g⟩
    | some c =>
      rw [useCache_of_cache hc]
      exact .inr ⟨hreload, huse, fun _ hnone => Option.some_ne_none c hnone, rfl⟩
  cases r with
  | setVariable name value =>
    refine .inr (.inr ⟨Request.noConfusion, Request.noConfusion, False.elim, ?_⟩)
    cases value <;> rfl
  | reloadSettings => exact .inl ⟨rfl, rfl⟩
  | useSettings => exact .inr (.inl ⟨.inl rfl, settings_useSettings g⟩)
  | clearCache => exact .inr (.inr ⟨Request.noConfusion, Request.noConfusion, False.elim, rfl⟩)
  | cacheInfo => exact .inr (asks trivial Request.noConfusion Request.noConfusion)
  | compile source names => exact .inr (asks trivial Request.noConfusion Request.noConfusion)
  | build b => exact .inr (asks trivial Request.noConfusion Request.noConfusion)

theorem settings_after {s : Settings} (h : g.Sound) (hs : g.settings = some s) {requests : List Request}
    (hfits : ∀ r ∈ requests, r.Fits) (hr : ∀ r ∈ requests, r ≠ .reloadSettings) :
    (g.after requests).settings = some s := by
  induction requests generalizing g with
  | nil => exact hs
  | cons r rs ih =>
    rw [List.forall_mem_cons] at hfits hr
    refine ih (h.handle hfits.1) ?_ hfits.2 hr.2
    have huse : g.useSettings.1 = s := by rw [useSettings, hs]
    rcases settings_handle h r with ⟨hreload, -⟩ | ⟨-, hnew⟩ | ⟨-, -, -, hsame⟩
    · exact absurd hreload hr.1
    · rw [hnew, huse]
    · rw [hsame, hs]

/-! ### What a run keeps -/

section Run

variable {env : Environment} {requests : List Request}

/-- There is no cache exactly if none has been needed since it was dropped. -/
theorem cache_eq_none_iff (henv : env.Fits) (hr : ∀ r ∈ requests, r.Fits) :
    ((start env).after requests).cache = none ↔ Unused (· = .clearCache) UsesCache requests := by
  -- from the end, as both sides speak of the last request and what came before it
  induction requests using List.reverseRecOn with
  | nil => exact ⟨fun _ => unused_nil, fun _ => rfl⟩
  | append_singleton rs r ih =>
    have hrs : ∀ r ∈ rs, r.Fits := fun s hs => hr s (List.mem_append_left _ hs)
    have sound : ((start env).after rs).Sound := (Sound.start henv).after hrs
    rw [after_concat, unused_concat, ← ih hrs]
    by_cases hclear : r = .clearCache
    · subst hclear
      exact ⟨fun _ => ⟨id, .inl rfl⟩, fun _ => rfl⟩
    by_cases hasks : r.AsksCache
    · obtain ⟨c, hc⟩ := exists_cache_handle sound hasks
      rw [hc]
      exact ⟨fun hnone => (Option.some_ne_none c hnone).elim, fun hun => absurd hasks hun.1⟩
    · rw [cache_handle_of_not_asksCache hasks hclear]
      exact ⟨fun h => ⟨hasks, .inr h⟩, fun h => h.2.resolve_left hclear⟩

/-- No settings are held exactly if they have not been used since they were dropped. -/
theorem settings_eq_none_iff (henv : env.Fits) (hr : ∀ r ∈ requests, r.Fits) :
    ((start env).after requests).settings = none ↔ Unused (· = .reloadSettings) UsesSettings requests := by
  induction requests using List.reverseRecOn with
  | nil => exact ⟨fun _ => unused_nil, fun _ => rfl⟩
  | append_singleton rs r ih =>
    have hrs : ∀ r ∈ rs, r.Fits := fun s hs => hr s (List.mem_append_left _ hs)
    have sound : ((start env).after rs).Sound := (Sound.start henv).after hrs
    have huses : UsesSettings rs r ↔ r = .useSettings ∨ r.AsksCache ∧ ((start env).after rs).cache = none := by
      rw [cache_eq_none_iff henv hrs, UsesSettings]
    rw [after_concat, unused_concat, ← ih hrs, huses]
    rcases settings_handle sound r with ⟨rfl, hnone⟩ | ⟨hused, hnew⟩ | ⟨hreload, huse, hopen, hsame⟩
    · rw [hnone]
      refine ⟨fun _ => ⟨?_, .inl rfl⟩, fun _ => rfl⟩
      rintro (h | ⟨h, -⟩)
      · cases h
      · exact h
    · rw [hnew]
      exact ⟨fun h => (Option.some_ne_none _ h).elim, fun h => absurd hused h.1⟩
    · rw [hsame]
      refine ⟨fun h => ⟨?_, .inr h⟩, fun h => h.2.resolve_left hreload⟩
      rintro (h | ⟨h, hnone⟩)
      · exact huse h
      · exact hopen h hnone

/-- The settings are those of the environment as it stood at their first use. -/
theorem useSettings_of_firstUse (henv : env.Fits) {before since : List Request} (hr : ∀ r ∈ before ++ since, r.Fits)
    (h : FirstUse (· = .reloadSettings) UsesSettings before since) :
    ((start env).after (before ++ since)).useSettings.1 = (Settings.load (env.after before)).1 := by
  have hbefore : ∀ r ∈ before, r.Fits := fun r hmem => hr r (List.mem_append_left _ hmem)
  have hsince : ∀ r ∈ since, r.Fits := fun r hmem => hr r (List.mem_append_right _ hmem)
  have sound : ((start env).after before).Sound := (Sound.start henv).after hbefore
  have hnone := (settings_eq_none_iff henv hbefore).2 h.unused
  have hload : ((start env).after before).useSettings.1 = (Settings.load (env.after before)).1 := by
    rw [useSettings, hnone, environment_after]
    rfl
  rw [after_append]
  cases since with
  | nil => exact hload
  | cons r rest =>
    rw [List.forall_mem_cons] at hsince
    have hkept := List.forall_mem_cons.1 h.kept
    have hused : r = .useSettings ∨ r.AsksCache ∧ ((start env).after before).cache = none := by
      rw [cache_eq_none_iff henv hbefore]
      exact h.begins r rfl
    have hread : (((start env).after before).handle r).settings = some (Settings.load (env.after before)).1 := by
      rw [← hload]
      rcases settings_handle sound r with ⟨hreload, -⟩ | ⟨-, hnew⟩ | ⟨-, huse, hopen, -⟩
      · exact absurd hreload hkept.1
      · exact hnew
      · rcases hused with hused | ⟨hasks, hclosed⟩
        · exact absurd hused huse
        · exact absurd hclosed (hopen hasks)
    have hkeep := settings_after (sound.handle hsince.1) hread hsince.2 hkept.2
    show ((((start env).after before).handle r).after rest).useSettings.1 = _
    rw [useSettings, hkeep]

/-- The cache has the size that the settings gave when it was first needed. -/
theorem capacity_of_firstUse (henv : env.Fits) {before since : List Request} (hr : ∀ r ∈ before ++ since, r.Fits)
    (h : FirstUse (· = .clearCache) UsesCache before since) :
    ∃ c, ((start env).after (before ++ since)).useCache.1 = .ok c ∧
      c.capacity = ((start env).after before).useSettings.1.cacheSize := by
  have hbefore : ∀ r ∈ before, r.Fits := fun r hmem => hr r (List.mem_append_left _ hmem)
  have sound : ((start env).after before).Sound := (Sound.start henv).after hbefore
  have hnone := (cache_eq_none_iff henv hbefore).2 h.unused
  rw [after_append]
  cases since with
  | nil =>
    refine ⟨.empty ((start env).after before).useSettings.1.cacheSize, ?_, rfl⟩
    show ((start env).after before).useCache.1 = _
    rw [useCache_of_fits hnone sound.useSettings.2]
  | cons r rest =>
    have hkept := List.forall_mem_cons.1 h.kept
    obtain ⟨c, hc, hsize⟩ := cache_handle_of_none sound hnone (h.begins r rfl)
    obtain ⟨c', hc', hcapacity⟩ := capacity_after hc hkept.2
    refine ⟨c', ?_, hcapacity.trans hsize⟩
    show ((((start env).after before).handle r).after rest).useCache.1 = _
    rw [useCache_of_cache hc']

end Run

theorem cache_after_of_changesSettings (g : Engine) {changes : List Request}
    (h : ∀ r ∈ changes, r.ChangesSettings) : (g.after changes).cache = g.cache := by
  induction changes generalizing g with
  | nil => rfl
  | cons r rs ih =>
    rw [List.forall_mem_cons] at h
    have hkeep : (g.handle r).cache = g.cache := by
      refine cache_handle_of_not_asksCache (fun hasks => ?_) (by rintro rfl; exact h.1)
      cases r <;> first | exact hasks | exact h.1
    exact (ih (g.handle r) h.2).trans hkeep

/-- After any requests there is a first use of the settings since they were last dropped, or it is still to
come, and the settings are those of the environment as it stood then. There is likewise a first need of the
cache since it was dropped, and its size is the one the settings gave then. Changes of the environment and
reloads alone leave the cache as it is, with its contents and counts. -/
theorem snapshots_after {env : Environment} (henv : env.Fits) {requests : List Request}
    (hr : ∀ r ∈ requests, r.Fits) :
    ((∃ before since, requests = before ++ since ∧ FirstUse (· = .reloadSettings) UsesSettings before since) ∧
      ∀ before since, requests = before ++ since → FirstUse (· = .reloadSettings) UsesSettings before since →
        ((start env).after requests).useSettings.1 = (Settings.load (env.after before)).1) ∧
    ((∃ before since, requests = before ++ since ∧ FirstUse (· = .clearCache) UsesCache before since) ∧
      ∀ before since, requests = before ++ since → FirstUse (· = .clearCache) UsesCache before since →
        ∃ c, ((start env).after requests).useCache.1 = .ok c ∧
          c.capacity = ((start env).after before).useSettings.1.cacheSize) ∧
    ∀ changes : List Request, (∀ r ∈ changes, r.ChangesSettings) →
      ((start env).after (requests ++ changes)).cache = ((start env).after requests).cache := by
  refine ⟨⟨exists_firstUse ?_ requests, ?_⟩, ⟨exists_firstUse ?_ requests, ?_⟩, fun changes h => ?_⟩
  · rintro run r (rfl | ⟨hasks, -⟩) hreload
    · cases hreload
    · subst hreload
      exact hasks
  · rintro before since rfl h
    exact useSettings_of_firstUse henv hr h
  · rintro run r hasks rfl
    exact hasks
  · rintro before since rfl h
    exact capacity_of_firstUse henv hr h
  · rw [after_append]
    exact cache_after_of_changesSettings _ h

/-- The compilation does not use the settings, as the cache is open. The next one opens it anew, with the size
set last; the size set after that is in the settings only. -/
theorem snapshots_after_resized :
    let env : Environment := [(Settings.cacheSizeName, "3")]
    let before : List Request :=
      [.cacheInfo, .reloadSettings, .compile "x+1" ["x"], .setVariable Settings.cacheSizeName (some "1"), .clearCache]
    let since : List Request :=
      [.build (Builder.new "2x"), .setVariable Settings.cacheSizeName (some "7"), .reloadSettings]
    env.Fits ∧ (∀ r ∈ before ++ since, r.Fits) ∧
      ((start env).after (before ++ since)).useSettings.1.cacheSize = 7 ∧
      ∃ c, ((start env).after (before ++ since)).useCache.1 = .ok c ∧ c.capacity = 1 := by
  intro env before since
  have henv : env.Fits := by show (3 : Nat) ≤ maxCacheSize; decide
  have hr : ∀ r ∈ before ++ since, r.Fits := by
    have hone : (Settings.readCacheSize (some "1")).1 ≤ maxCacheSize := by decide
    have hseven : (Settings.readCacheSize (some "7")).1 ≤ maxCacheSize := by decide
    simpa [before, since, Request.Fits] using ⟨hone, hseven⟩
  have hbefore : ∀ r ∈ before, r.Fits := fun r hmem => hr r (List.mem_append_left _ hmem)
  have hlater : FirstUse (· = .reloadSettings) UsesSettings (before ++ since) [] := by
    refine ⟨?_, by simp, by simp⟩
    show Unused _ _ ((before ++ since.dropLast) ++ [.reloadSettings])
    exact unused_concat.2 ⟨by simp [UsesSettings, Request.AsksCache], .inl rfl⟩
  have hopened : FirstUse (· = .clearCache) UsesCache before since := by
    refine ⟨?_, by simp [since, UsesCache, Request.AsksCache], by simp [since]⟩
    show Unused _ _ (before.dropLast ++ [.clearCache])
    exact unused_concat.2 ⟨id, .inl rfl⟩
  have hsettings : FirstUse (· = .reloadSettings) UsesSettings before [] := by
    have hcache : ¬Unused (· = .clearCache) UsesCache [.cacheInfo, .reloadSettings] :=
      fun h => h [] .cacheInfo [.reloadSettings] rfl (by simp) trivial
    refine ⟨?_, by simp, by simp⟩
    show Unused _ _ (((([Request.cacheInfo] ++ [Request.reloadSettings]) ++ [_]) ++ [_]) ++ [_])
    simp only [unused_concat]
    simp [UsesSettings, Request.AsksCache, hcache]
  obtain ⟨⟨-, hread⟩, ⟨-, hsize⟩, -⟩ := snapshots_after henv hr
  obtain ⟨c, hc, hcapacity⟩ := hsize before since rfl hopened
  refine ⟨henv, hr, ?_, c, hc, ?_⟩
  · rw [hread _ [] (List.append_nil _).symm hlater]
    decide
  · rw [hcapacity, (snapshots_after henv hbefore).1.2 before [] (List.append_nil _).symm hsettings]
    decide

end Engine

end Reckon
