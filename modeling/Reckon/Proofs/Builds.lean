import Mathlib.Logic.Function.Basic
import Reckon.Proofs.CacheLimit
import Reckon.Proofs.LastValues
import Reckon.Proofs.Recency

/-!
# What a build gives

A session works on several builders over one engine and builds them at any time. What it builds depends
only on the text and on what was declared last for each name (`Session.build_after`): the declared values
are `lastValues`, and the rest is the compiled text. For this a session keeps that the cache is faithful,
that it can or cannot be opened, and that each builder holds its own declarations (`Session.Holds`). The
environment may be any: what is kept of it is whether there is a cache to be had (`Engine.opens`).
-/

namespace Reckon

/-! ### Engines with a faithful cache -/

namespace Issued

variable {result : Except Failure Issued}

theorem eq_error_of_map {e : Failure} (h : result.map (·.expression) = .error e) : result = .error e := by
  cases result with
  | error e' => cases h; rfl
  | ok made => cases h

theorem exists_of_map_eq_ok {x : Expression} (h : result.map (·.expression) = .ok x) :
    ∃ made, result = .ok made ∧ made.expression = x := by
  cases result with
  | error e => cases h
  | ok made => cases h; exact ⟨made, rfl, rfl⟩

end Issued

namespace Engine

variable {g : Engine}

/-- The cache, if there is one, holds what compiling gives. -/
def CacheFaithful (g : Engine) : Prop := ∀ c, g.cache = some c → Faithful c

/-- Whether there is a cache to be had, and the failure if not. -/
def opens (g : Engine) : Except Failure Unit := g.useCache.1.map fun _ => ()

theorem opens_of_cache {c : CompileCache} (hc : g.cache = some c) : g.opens = .ok () := by
  rw [opens, useCache_of_cache hc]
  rfl

theorem useSettings_useSettings (g : Engine) : g.useSettings.2.useSettings = g.useSettings := by
  cases hs : g.settings <;> simp [useSettings, hs]

/-- Where no cache can be opened none can be opened later: the settings are kept. -/
theorem useCache_of_error {e : Failure} (hu : g.useCache.1 = .error e) :
    g.useCache.2.cache = none ∧ g.useCache.2.useCache = g.useCache := by
  cases hc : g.cache with
  | some c =>
    rw [useCache_of_cache hc] at hu
    cases hu
  | none =>
    have hnone : g.useSettings.2.cache = none := (cache_useSettings g).trans hc
    rw [useCache_of_none hc] at hu ⊢
    by_cases hsize : maxCacheSize < g.useSettings.1.cacheSize
    · rw [if_pos hsize]
      refine ⟨hnone, ?_⟩
      rw [useCache_of_none hnone, useSettings_useSettings, if_pos hsize]
    · rw [if_neg hsize] at hu
      cases hu

theorem eq_cacheTooLarge_of_opens {e : Failure} (h : g.opens = .error e) : e = .cacheTooLarge := by
  cases hc : g.cache with
  | some c =>
    rw [opens_of_cache hc] at h
    cases h
  | none =>
    rw [opens, useCache_of_none hc] at h
    split at h
    · cases h
      rfl
    · cases h

namespace CacheFaithful

theorem of_cache_eq {g' : Engine} (h : g.CacheFaithful) (hc : g'.cache = g.cache) : g'.CacheFaithful :=
  fun c hc' => h c (hc.symm.trans hc')

theorem useCache (h : g.CacheFaithful) : g.useCache.2.CacheFaithful := by
  cases hc : g.cache with
  | some c =>
    rw [useCache_of_cache hc]
    exact h
  | none =>
    rw [useCache_of_none hc]
    split
    · exact h.of_cache_eq (cache_useSettings g)
    · intro c hc'
      cases hc'
      exact fun p hp => by cases hp

/-- Compiling gives what it gives without a cache if there is one to be had, else it fails for want of it. -/
theorem compile (h : g.CacheFaithful) (source : String) (names : List String) :
    (g.compile source names).1.map (·.expression) =
        (g.opens >>= fun _ => (Expression.compile source (sortNames names)).mapError .expression) ∧
      (g.compile source names).2.CacheFaithful ∧ (g.compile source names).2.opens = g.opens := by
  have hf := h.useCache
  cases hu : g.useCache.1 with
  | error e =>
    have hcompile : g.compile source names = (.error e, g.useCache.2) := by
      rw [Engine.compile, ← Prod.mk.eta (p := g.useCache), hu]
    have hopens : g.opens = .error e := by rw [opens, hu]; rfl
    rw [hcompile, hopens]
    refine ⟨rfl, hf, ?_⟩
    show g.useCache.2.opens = _
    rw [opens, (useCache_of_error hu).2, hu]
    rfl
  | ok c =>
    have hc := cache_useCache hu
    have hopens : g.opens = .ok () := by rw [opens, hu]; rfl
    -- once there is a cache neither the environment nor the settings matter
    have hsound : Sound ⟨[], none, some c, g.useCache.2.next⟩ :=
      ⟨fits_nil, (fun _ hs => by cases hs), fun d hd => by cases hd; exact hf c hc⟩
    obtain ⟨hresult, hafter⟩ := hsound.compile source names
    have hsame : (g.compile source names).1 =
          (Engine.compile ⟨[], none, some c, g.useCache.2.next⟩ source names).1 ∧
        (g.compile source names).2.cache =
          (Engine.compile ⟨[], none, some c, g.useCache.2.next⟩ source names).2.cache := by
      rw [Engine.compile, ← Prod.mk.eta (p := g.useCache), hu]
      exact ⟨rfl, rfl⟩
    have hcache := hsame.2
    rw [hsame.1, hopens]
    refine ⟨hresult, of_cache_eq hafter.cache hcache, opens_of_cache hcache⟩

theorem issue (h : g.CacheFaithful) (e : Expression) :
    (g.issue e).2.CacheFaithful ∧ (g.issue e).2.opens = g.opens := by
  refine ⟨h.of_cache_eq rfl, ?_⟩
  have hcache : (g.issue e).2.cache = g.cache := rfl
  cases hc : g.cache with
  | some c => rw [opens_of_cache hc, opens_of_cache (hcache.trans hc)]
  | none =>
    have hsettings : (g.issue e).2.useSettings.1 = g.useSettings.1 := by
      cases hs : g.settings <;> simp [Engine.useSettings, Engine.issue, hs]
    rw [opens, opens, useCache_of_none hc, useCache_of_none (hcache.trans hc), hsettings]
    split <;> rfl

theorem build (h : g.CacheFaithful) (b : Builder) :
    (g.build b).2.CacheFaithful ∧ (g.build b).2.opens = g.opens := by
  obtain ⟨-, hf, hopens⟩ := h.compile b.source b.names
  rw [← hopens]
  unfold Engine.build
  split
  · next hc => rw [hc] at hf ⊢; exact ⟨hf, rfl⟩
  · next made g' hc =>
    rw [hc] at hf ⊢
    split
    · exact ⟨hf, rfl⟩
    · exact ⟨hf, rfl⟩
    · next ds _ _ => exact hf.issue { made.expression with defaults := ds }

theorem handle (h : g.CacheFaithful) (r : Request) : (g.handle r).CacheFaithful := by
  cases r with
  | setVariable name value => cases value <;> exact h.of_cache_eq rfl
  | reloadSettings => exact h.of_cache_eq rfl
  | useSettings => exact h.of_cache_eq (cache_useSettings g)
  | clearCache => exact fun c hc => by cases hc
  | cacheInfo => exact h.useCache
  | compile source names => exact (h.compile source names).2.1
  | build b => exact (h.build b).1

/-- The cache of an engine that has been started is faithful, whatever is in its environment. -/
theorem after_start (env : Environment) (requests : List Request) :
    ((start env).after requests).CacheFaithful := by
  have run : ∀ {g : Engine}, g.CacheFaithful → (g.after requests).CacheFaithful := by
    induction requests with
    | nil => exact fun h => h
    | cons r rs ih => exact fun h => ih (h.handle r)
  exact run fun c hc => by cases hc

end CacheFaithful

end Engine

/-! ### Calls -/

namespace Builder

/-- Calls that declare variables: one name, several with values, or several without. -/
inductive Call
  | name (n : String) (value : Option Float)
  | values (ds : List (String × Option Float))
  | names (ns : List String)

def call (b : Builder) : Call → Builder
  | .name n value => b.declare n (value.map .number)
  | .values ds => b.declareAll (ds.map fun d => (d.1, d.2.map .number))
  | .names ns => b.declareNames ns

/-- What a call declares, in order. -/
def Call.declarations : Call → List (String × Option Float)
  | name n value => [(n, value)]
  | values ds => ds
  | names ns => ns.map (·, none)

theorem call_eq (b : Builder) (c : Call) : b.call c = b.declareFloats c.declarations := by
  cases c with
  | name n value => rfl
  | values ds => rfl
  | names ns =>
    show b.declareAll _ = b.declareAll _
    rw [Call.declarations, List.map_map]
    rfl

end Builder

/-! ### Sessions -/

/-- Builders at work over one engine. -/
structure Session where
  engine : Engine
  builders : Nat → Builder

namespace Session

/-- A call to one of the builders, or its build. -/
inductive Action
  | call (i : Nat) (c : Builder.Call)
  | build (i : Nat)

def new (g : Engine) (source : Nat → String) : Session := ⟨g, fun i => .new (source i)⟩

/-- Builds one of the builders; the session goes on whether it fails or not. -/
def build (w : Session) (i : Nat) : Except Failure Issued × Session :=
  ((w.engine.build (w.builders i)).1, { w with engine := (w.engine.build (w.builders i)).2 })

def act (w : Session) : Action → Session
  | .call i c => { w with builders := Function.update w.builders i ((w.builders i).call c) }
  | .build i => (w.build i).2

def after (w : Session) (actions : List Action) : Session := actions.foldl act w

/-- What an action declares with the builder `i`. -/
def Action.declarations (i : Nat) : Action → List (String × Option Float)
  | call j c => if j = i then c.declarations else []
  | build _ => []

/-- What is declared with the builder `i`, in order. -/
def declarations (i : Nat) (actions : List Action) : List (String × Option Float) :=
  actions.flatMap (Action.declarations i)

/-- The builders hold what was declared with them, and the engine is as good as `g`. -/
structure Holds (g : Engine) (source : Nat → String) (actions : List Action) (w : Session) : Prop where
  builders : ∀ i, w.builders i = (Builder.new (source i)).declareFloats (declarations i actions)
  faithful : w.engine.CacheFaithful
  opens : w.engine.opens = g.opens

namespace Holds

variable {g : Engine} {source : Nat → String} {actions : List Action} {w : Session}

theorem new (hg : g.CacheFaithful) (source : Nat → String) : Holds g source [] (Session.new g source) :=
  ⟨fun _ => rfl, hg, rfl⟩

theorem act (h : Holds g source actions w) (a : Action) : Holds g source (actions ++ [a]) (w.act a) := by
  have hdeclarations : ∀ i, declarations i (actions ++ [a]) = declarations i actions ++ a.declarations i := by
    intro i
    rw [declarations, List.flatMap_append, List.flatMap_singleton]
    rfl
  cases a with
  | call j c =>
    refine ⟨fun i => ?_, h.faithful, h.opens⟩
    show Function.update w.builders j ((w.builders j).call c) i = _
    rw [hdeclarations, Builder.declareFloats_append, ← h.builders, Action.declarations]
    by_cases hj : j = i
    · subst hj
      rw [Function.update_self, if_pos rfl, Builder.call_eq]
    · rw [Function.update_of_ne (Ne.symm hj), if_neg hj]
      rfl
  | build j =>
    obtain ⟨hf, hopens⟩ := h.faithful.build (w.builders j)
    refine ⟨fun i => ?_, hf, hopens.trans h.opens⟩
    rw [hdeclarations, Action.declarations, List.append_nil]
    exact h.builders i

theorem after (h : Holds g source actions w) (more : List Action) :
    Holds g source (actions ++ more) (w.after more) := by
  induction more generalizing actions w with
  | nil => rwa [List.append_nil]
  | cons a more ih =>
    rw [List.append_cons]
    exact ih (h.act a)

/-- What compiling the text of a builder over its names gives. -/
theorem compile (h : Holds g source actions w) (i : Nat) :
    (w.engine.compile (source i) ((declarations i actions).map (·.1))).1.map (·.expression) =
      (g.opens >>= fun _ =>
        (Expression.compile (source i) (sortNames ((declarations i actions).map (·.1)))).mapError .expression) := by
  rw [← h.opens]
  exact (h.faithful.compile _ _).1

/-- A build gives the compiled text with the values that were declared last. -/
theorem build (h : Holds g source actions w) (i : Nat) : (w.build i).1.map (·.expression) =
    (g.opens >>= fun _ => ((Expression.compile (source i) (sortNames ((declarations i actions).map (·.1)))).map
      fun e => { e with defaults := Builder.lastValues (declarations i actions) }).mapError .expression) := by
  have hcompile := (h.faithful.compile (w.builders i).source (w.builders i).names).1
  rw [h.opens] at hcompile
  have hsource : (w.builders i).source = source i := by
    rw [h.builders]
    exact Builder.source_declareAll _ _
  have hnames : sortNames (w.builders i).names = sortNames ((declarations i actions).map (·.1)) := by
    rw [h.builders, Builder.sortNames_declareFloats]
  have hdefaults : (w.builders i).defaults = .ok (Builder.lastValues (declarations i actions)) := by
    rw [h.builders, Builder.defaults_declareFloats]
  rw [← hsource, ← hnames]
  cases hopens : g.opens with
  | error e =>
    rw [hopens] at hcompile
    show (w.engine.build (w.builders i)).1.map _ = _
    rw [Engine.build_of_compile_error (Issued.eq_error_of_map hcompile)]
    rfl
  | ok u =>
    rw [hopens] at hcompile
    exact Engine.build_eq_of_compile hdefaults hcompile

end Holds

/-- Whatever the engine has been asked before and whatever else is done in the session, what a build gives
depends only on what was declared last for each name: it fails as compiling the text over the declared names
fails, or gives the compiled text with the values declared last as defaults. Builds leave the declarations
as they are, and neither they nor the order in which different names are declared change what is built. -/
theorem build_after (env : Environment) (requests : List Request) (source : Nat → String) (actions : List Action)
    (i : Nat) :
    let g := (Engine.start env).after requests
    let w := (Session.new g source).after actions
    let ds := declarations i actions
    let names := sortNames (ds.map (·.1))
    let compiled := (w.engine.compile (source i) (ds.map (·.1))).1
    w.builders i = (Builder.new (source i)).declareFloats ds ∧
      ((∃ e, compiled = .error e ∧ (w.build i).1 = .error e ∧
          (e = .cacheTooLarge ∨ ∃ r, Expression.compile (source i) names = .error r ∧ e = .expression r)) ∨
        ∃ made built tokens, compiled = .ok made ∧ (w.build i).1 = .ok built ∧
          Expression.compile (source i) names = .ok ⟨source i, names, tokens, []⟩ ∧
          made.expression = ⟨source i, names, tokens, []⟩ ∧
          built.expression = ⟨source i, names, tokens, Builder.lastValues ds⟩) ∧
      ∀ actions', Relation.ReflTransGen Builder.Swapped ds (declarations i actions') →
        (((Session.new g source).after actions').build i).1.map (·.expression) = (w.build i).1.map (·.expression) := by
  intro g w ds names compiled
  have start := Holds.new (Engine.CacheFaithful.after_start env requests) source
  have holds : Holds g source actions w := start.after actions
  have hcompile := holds.compile i
  have hbuild := holds.build i
  refine ⟨holds.builders i, ?_, fun actions' hswap => ?_⟩
  · cases hopens : g.opens with
    | error e =>
      rw [hopens] at hcompile hbuild
      exact .inl ⟨e, Issued.eq_error_of_map hcompile, Issued.eq_error_of_map hbuild,
        .inl (Engine.eq_cacheTooLarge_of_opens hopens)⟩
    | ok u =>
      rw [hopens] at hcompile hbuild
      cases hx : Expression.compile (source i) names with
      | error r =>
        rw [hx] at hcompile hbuild
        exact .inl ⟨_, Issued.eq_error_of_map hcompile, Issued.eq_error_of_map hbuild, .inr ⟨r, rfl, rfl⟩⟩
      | ok x =>
        rw [hx] at hcompile hbuild
        obtain ⟨made, hmade, hm⟩ := Issued.exists_of_map_eq_ok hcompile
        obtain ⟨built, hbuilt, hb⟩ := Issued.exists_of_map_eq_ok hbuild
        have hfields : x = ⟨source i, names, x.tokens, []⟩ := by
          have h := Expression.eq_of_compile hx
          rwa [sortNames_sortNames] at h
        refine .inr ⟨made, built, x.tokens, hmade, hbuilt, congrArg Except.ok hfields, hm.trans hfields, ?_⟩
        rw [hb, hfields]
  · obtain ⟨hnames, hvalues⟩ := Builder.lastValues_of_swapped hswap
    rw [hbuild, (start.after actions').build i, List.nil_append, hnames, hvalues]

end Session

end Reckon
