import Mathlib.Data.List.Nodup
import Reckon.Proofs.EngineRun

/-!
# Declarations of a builder

What a builder holds for a name is what was said about it last (`Builder.get?_declareAll`). The defaults of a
build are the declared values, each under its name (`Builder.mem_defaults`) and in the order of the names, and
apart from them a build is a compilation (`Engine.Sound.build_eq_uncached`).
-/

namespace Reckon

/-! ### Named values -/

namespace Named

variable {α : Type} {vs : Named α} {n : String} {a : α}

theorem get?_eq_lookup (vs : Named α) (n : String) : vs.get? n = vs.lookup n := by
  induction vs with
  | nil => rfl
  | cons v rest ih =>
    rw [get?, List.lookup_cons, ih]
    by_cases h : v.1 = n
    · simp [h]
    · simp [h, beq_eq_false_iff_ne.2 (Ne.symm h)]

theorem nodup_names_put (h : vs.names.Nodup) (n : String) (a : α) : (vs.put n a).names.Nodup := by
  rw [names_put]
  by_cases hn : n ∈ vs.names
  · rwa [if_pos hn]
  · rw [if_neg hn, ← List.concat_eq_append]
    exact h.concat hn

theorem mem_names_put {m : String} : m ∈ (vs.put n a).names ↔ m = n ∨ m ∈ vs.names := by
  rw [names_put]
  by_cases hn : n ∈ vs.names
  · rw [if_pos hn]
    refine ⟨.inr, fun h => ?_⟩
    rcases h with rfl | h
    · exact hn
    · exact h
  · rw [if_neg hn, List.mem_append, List.mem_singleton, or_comm]

/-- If every name stands once, what stands with it is what is found. -/
theorem lookup_eq_some_iff (h : vs.names.Nodup) : vs.lookup n = some a ↔ (n, a) ∈ vs := by
  constructor
  · intro hl
    obtain ⟨l, r, rfl, -⟩ := List.lookup_eq_some_iff.1 hl
    simp
  · intro hmem
    obtain ⟨l, r, rfl⟩ := List.append_of_mem hmem
    refine List.lookup_eq_some_iff.2 ⟨l, r, rfl, fun p hp => ?_⟩
    rw [names, List.map_append, List.nodup_append] at h
    have hne : p.1 ≠ n := h.2.2 p.1 (List.mem_map_of_mem hp) n (List.mem_cons_self ..)
    exact bne_iff_ne.2 hne.symm

theorem lookup_map {β : Type} (f : α → β) (vs : Named α) (n : String) :
    (vs.map fun v => (v.1, f v.2)).lookup n = (vs.lookup n).map f := by
  induction vs with
  | nil => rfl
  | cons v vs ih =>
    rw [List.map_cons, List.lookup_cons, List.lookup_cons, ih]
    cases n == v.1 <;> rfl

theorem lookup_reverse (h : vs.names.Nodup) (n : String) : vs.reverse.lookup n = vs.get? n := by
  have hrev : (names vs.reverse).Nodup := by
    rw [names, List.map_reverse, List.nodup_reverse]
    exact h
  refine Option.ext fun a => ?_
  rw [get?_eq_lookup, lookup_eq_some_iff h, lookup_eq_some_iff hrev, List.mem_reverse]

end Named

/-! ### Builders -/

namespace Builder

variable {b : Builder} {n : String} {x : Float}

theorem declareAll_cons (b : Builder) (d : String × Option Supplied) (ds : List (String × Option Supplied)) :
    b.declareAll (d :: ds) = (b.declare d.1 d.2).declareAll ds := rfl

theorem source_declareAll (b : Builder) (ds : List (String × Option Supplied)) :
    (b.declareAll ds).source = b.source := by
  induction ds generalizing b with
  | nil => rfl
  | cons d ds ih => exact ih (b.declare d.1 d.2)

/-- The last declaration of a name counts. -/
theorem get?_declareAll (b : Builder) (ds : List (String × Option Supplied)) (n : String) :
    (b.declareAll ds).declared.get? n = (ds.reverse.lookup n).or (b.declared.get? n) := by
  induction ds generalizing b with
  | nil => rfl
  | cons d ds ih =>
    rw [declareAll_cons, ih, List.reverse_cons, List.lookup_append, Option.or_assoc]
    congr 1
    show (b.declared.put d.1 d.2).get? n = _
    rw [Named.get?_put, List.lookup_cons]
    by_cases h : d.1 = n
    · simp [h]
    · simp [h, beq_eq_false_iff_ne.2 (Ne.symm h)]

theorem mem_names_declareAll {ds : List (String × Option Supplied)} :
    n ∈ (b.declareAll ds).names ↔ n ∈ ds.map (·.1) ∨ n ∈ b.names := by
  induction ds generalizing b with
  | nil => simp [declareAll]
  | cons d ds ih =>
    have hput : n ∈ (b.declare d.1 d.2).names ↔ n = d.1 ∨ n ∈ b.names := Named.mem_names_put
    rw [declareAll_cons, ih, hput, List.map_cons, List.mem_cons, or_left_comm, or_assoc]

theorem nodup_names_declareAll (hb : b.names.Nodup) (ds : List (String × Option Supplied)) :
    (b.declareAll ds).names.Nodup := by
  induction ds generalizing b with
  | nil => exact hb
  | cons d ds ih => exact ih (Named.nodup_names_put hb d.1 d.2)

/-! ### Defaults -/

theorem floats_cons_some_eq_ok {ds : List (String × Option Supplied)} {v : Supplied} {fs : List (String × Float)} :
    floats ((n, some v) :: ds) = .ok fs ↔ ∃ x rest, v.toFloat = .ok x ∧ floats ds = .ok rest ∧ fs = (n, x) :: rest := by
  rw [floats]
  cases v.toFloat with
  | error e => simp [bind, Except.bind]
  | ok x => cases floats ds <;> simp [bind, Except.bind, pure, Except.pure, eq_comm]

/-- The floats are the values that were declared. -/
theorem mem_floats {ds : List (String × Option Supplied)} {fs : List (String × Float)} (h : floats ds = .ok fs) :
    (n, x) ∈ fs ↔ ∃ v, (n, some v) ∈ ds ∧ v.toFloat = .ok x := by
  induction ds generalizing fs with
  | nil => cases h; simp
  | cons d ds ih =>
    obtain ⟨m, _ | v⟩ := d
    · simpa using ih h
    · obtain ⟨y, rest, hy, hrest, rfl⟩ := floats_cons_some_eq_ok.1 h
      rw [List.mem_cons, ih hrest]
      constructor
      · rintro (heq | ⟨w, hw, hx⟩)
        · cases heq
          exact ⟨v, List.mem_cons_self .., hy⟩
        · exact ⟨w, List.mem_cons_of_mem _ hw, hx⟩
      · rintro ⟨w, hw, hx⟩
        rcases List.mem_cons.1 hw with heq | hw
        · cases heq
          rw [hy] at hx
          cases hx
          exact .inl rfl
        · exact .inr ⟨w, hw, hx⟩

theorem names_floats_sublist {ds : List (String × Option Supplied)} {fs : List (String × Float)}
    (h : floats ds = .ok fs) : (fs.map (·.1)).Sublist (ds.map (·.1)) := by
  induction ds generalizing fs with
  | nil => cases h; exact .slnil
  | cons d ds ih =>
    obtain ⟨m, _ | v⟩ := d
    · exact (ih h).cons m
    · obtain ⟨y, rest, -, hrest, rfl⟩ := floats_cons_some_eq_ok.1 h
      exact (ih hrest).cons_cons m

/-- Values that can be used give floats. -/
theorem exists_floats {ds : List (String × Option Supplied)}
    (h : ∀ m v, (m, some v) ∈ ds → ∃ x, v.toFloat = .ok x) : ∃ fs, floats ds = .ok fs := by
  induction ds with
  | nil => exact ⟨[], rfl⟩
  | cons d ds ih =>
    obtain ⟨fs, hfs⟩ := ih fun m v hv => h m v (List.mem_cons_of_mem _ hv)
    obtain ⟨m, _ | v⟩ := d
    · exact ⟨fs, hfs⟩
    · obtain ⟨x, hx⟩ := h m v (List.mem_cons_self ..)
      exact ⟨(m, x) :: fs, floats_cons_some_eq_ok.2 ⟨x, fs, hx, hfs, rfl⟩⟩

theorem perm_insertDefault (d : String × Float) (es : List (String × Float)) : (insertDefault d es).Perm (d :: es) := by
  induction es with
  | nil => rfl
  | cons e es ih =>
    unfold insertDefault
    split
    · rfl
    · exact (ih.cons e).trans (.swap d e es)

theorem perm_foldr_insertDefault (fs : List (String × Float)) : (fs.foldr insertDefault []).Perm fs := by
  induction fs with
  | nil => rfl
  | cons f fs ih => exact (perm_insertDefault f _).trans (ih.cons f)

theorem sorted_insertDefault {d : String × Float} {es : List (String × Float)} (hd : d.1 ∉ es.map (·.1))
    (h : es.Pairwise (·.1 < ·.1)) : (insertDefault d es).Pairwise (·.1 < ·.1) := by
  induction es with
  | nil => simp [insertDefault]
  | cons e es ih =>
    obtain ⟨he, hes⟩ := List.pairwise_cons.1 h
    rw [List.map_cons, List.mem_cons, not_or] at hd
    unfold insertDefault
    split
    · next hlt =>
      refine List.pairwise_cons.2 ⟨fun a ha => ?_, h⟩
      rcases List.mem_cons.1 ha with rfl | ha
      · exact hlt
      · exact String.lt_trans hlt (he a ha)
    · next hlt =>
      refine List.pairwise_cons.2 ⟨fun a ha => ?_, ih hd.2 hes⟩
      rcases List.mem_cons.1 ((perm_insertDefault d es).mem_iff.1 ha) with rfl | ha
      · exact Std.lt_of_le_of_ne (String.not_lt.1 hlt) (Ne.symm hd.1)
      · exact he a ha

theorem exists_floats_of_defaults {ds : List (String × Float)} (h : b.defaults = .ok ds) :
    ∃ fs, floats b.declared = .ok fs ∧ ds = fs.foldr insertDefault [] := by
  rw [defaults] at h
  cases hfs : floats b.declared with
  | error e => rw [hfs] at h; cases h
  | ok fs =>
    rw [hfs] at h
    cases h
    exact ⟨fs, rfl, rfl⟩

/-- The defaults are sorted by name and no name has two. -/
theorem sorted_defaults (hb : b.names.Nodup) {ds : List (String × Float)} (h : b.defaults = .ok ds) :
    ds.Pairwise (·.1 < ·.1) := by
  obtain ⟨fs, hfs, rfl⟩ := exists_floats_of_defaults h
  have hnodup : (fs.map (·.1)).Nodup := (names_floats_sublist hfs).nodup hb
  clear h hfs
  induction fs with
  | nil => exact .nil
  | cons f fs ih =>
    rw [List.map_cons, List.nodup_cons] at hnodup
    refine sorted_insertDefault ?_ (ih hnodup.2)
    rw [((perm_foldr_insertDefault fs).map _).mem_iff]
    exact hnodup.1

theorem mem_defaults (hb : b.names.Nodup) {ds : List (String × Float)} (h : b.defaults = .ok ds) :
    (n, x) ∈ ds ↔ ∃ v, b.declared.get? n = some (some v) ∧ v.toFloat = .ok x := by
  obtain ⟨fs, hfs, rfl⟩ := exists_floats_of_defaults h
  rw [(perm_foldr_insertDefault fs).mem_iff, mem_floats hfs]
  refine exists_congr fun v => and_congr_left fun _ => ?_
  rw [Named.get?_eq_lookup, Named.lookup_eq_some_iff hb]

end Builder

/-! ### Builds -/

namespace Engine

variable {g : Engine} {b : Builder}

/-- A build does not get past a failure to compile. -/
theorem build_of_compile_error {e : Failure} (h : (g.compile b.source b.names).1 = .error e) :
    (g.build b).1 = .error e := by
  unfold build
  rcases hc : g.compile b.source b.names with ⟨r, g'⟩
  rw [hc] at h
  cases h
  rfl

/-- Where compiling gives what it gives without a cache, a build whose values can be used is the compiled
expression with its defaults. -/
theorem build_eq_of_compile {ds : List (String × Float)} (hb : b.defaults = .ok ds)
    (hcompile : (g.compile b.source b.names).1.map (·.expression) =
      (Expression.compile b.source (sortNames b.names)).mapError .expression) : (g.build b).1.map (·.expression) =
      ((Expression.compile b.source (sortNames b.names)).map fun e => { e with defaults := ds }).mapError .expression := by
  unfold build
  rcases hc : g.compile b.source b.names with ⟨r, g'⟩
  rw [hc] at hcompile
  cases ds with
  | nil =>
    rw [Expression.map_defaults_nil_compile, ← hcompile, hb]
    cases r <;> rfl
  | cons d ds =>
    have hmap : ((Expression.compile b.source (sortNames b.names)).map fun e => { e with defaults := d :: ds }).mapError
        Failure.expression = (r.map (·.expression)).map fun e => { e with defaults := d :: ds } := by
      rw [hcompile]
      cases Expression.compile b.source (sortNames b.names) <;> rfl
    rw [hmap, hb]
    cases r <;> rfl

/-- Whatever is in the cache, a build whose values can be used is the compiled expression with its defaults. -/
theorem Sound.build_eq_uncached (h : g.Sound) {ds : List (String × Float)} (hb : b.defaults = .ok ds) :
    (g.build b).1.map (·.expression) =
      ((Expression.compile b.source (sortNames b.names)).map fun e => { e with defaults := ds }).mapError .expression :=
  build_eq_of_compile hb (h.compile b.source b.names).1

end Engine

end Reckon
