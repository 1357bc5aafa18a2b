import Mathlib.Logic.Relation
import Reckon.Proofs.Declarations

/-!
# Values declared last

With floats for values every builder has defaults: the value that was declared last for each name
(`Builder.defaults_declareFloats`), in the order of the names. How the declarations of different names are
mixed does not matter (`Builder.lastValues_of_swapped`).
-/

namespace Reckon

namespace Builder

variable {ds es : List (String × Option Float)} {n : String} {x : Float}

/-- The last value declared for each name, in the order of the names; a name declared without a value after
all others has none. -/
def lastValues (ds : List (String × Option Float)) : List (String × Float) :=
  (sortNames (ds.map (·.1))).filterMap fun n => (ds.reverse.lookup n).join.map fun x => (n, x)

theorem mem_lastValues : (n, x) ∈ lastValues ds ↔ ds.reverse.lookup n = some (some x) := by
  rw [lastValues, List.mem_filterMap]
  constructor
  · rintro ⟨m, -, h⟩
    obtain ⟨y, hy, heq⟩ := Option.map_eq_some_iff.1 h
    cases heq
    exact Option.join_eq_some_iff.1 hy
  · intro h
    refine ⟨n, ?_, ?_⟩
    · obtain ⟨l, r, he, -⟩ := List.lookup_eq_some_iff.1 h
      rw [mem_sortNames, List.mem_map]
      exact ⟨(n, some x), List.mem_reverse.1 (he ▸ by simp), rfl⟩
    · rw [h]
      rfl

theorem sorted_lastValues (ds : List (String × Option Float)) : (lastValues ds).Pairwise (·.1 < ·.1) := by
  refine List.Pairwise.filterMap _ (fun m n hlt p hp q hq => ?_) (sorted_sortNames _)
  obtain ⟨x, -, rfl⟩ := Option.map_eq_some_iff.1 hp
  obtain ⟨y, -, rfl⟩ := Option.map_eq_some_iff.1 hq
  exact hlt

theorem lookup_lastValues (ds : List (String × Option Float)) (n : String) :
    (lastValues ds).reverse.lookup n = (ds.reverse.lookup n).join := by
  have hnodup : ((lastValues ds).map (·.1)).Nodup :=
    (List.pairwise_map.2 (sorted_lastValues ds)).imp fun {m n} (hlt : m < n) (heq : m = n) =>
      String.lt_irrefl n (heq ▸ hlt)
  refine Option.ext fun x => ?_
  rw [Named.lookup_reverse hnodup, Named.get?_eq_lookup, Named.lookup_eq_some_iff hnodup, mem_lastValues,
    Option.join_eq_some_iff]

/-! ### Declarations with floats -/

/-- The builder after declarations with floats for values. -/
def declareFloats (b : Builder) (ds : List (String × Option Float)) : Builder :=
  b.declareAll (ds.map fun d => (d.1, d.2.map .number))

theorem declareFloats_append (b : Builder) (ds es : List (String × Option Float)) :
    b.declareFloats (ds ++ es) = (b.declareFloats ds).declareFloats es := by
  rw [declareFloats, List.map_append, declareAll, List.foldl_append]
  rfl

theorem sortNames_declareFloats (source : String) (ds : List (String × Option Float)) :
    sortNames ((new source).declareFloats ds).names = sortNames (ds.map (·.1)) := by
  refine sortNames_eq_of_mem_iff fun n => ?_
  have hnew : n ∉ (new source).names := List.not_mem_nil
  rw [declareFloats, mem_names_declareAll, List.map_map]
  exact or_iff_left hnew

theorem get?_declareFloats (source : String) (ds : List (String × Option Float)) (n : String) :
    ((new source).declareFloats ds).declared.get? n = (ds.reverse.lookup n).map (·.map .number) := by
  have hnew : (new source).declared.get? n = none := rfl
  rw [declareFloats, get?_declareAll, hnew, Option.or_none, ← List.map_reverse]
  exact Named.lookup_map (fun x : Option Float => x.map Supplied.number) ds.reverse n

/-- The defaults of a builder are the values declared last. -/
theorem defaults_declareFloats (source : String) (ds : List (String × Option Float)) :
    ((new source).declareFloats ds).defaults = .ok (lastValues ds) := by
  have hnodup : ((new source).declareFloats ds).names.Nodup := nodup_names_declareAll (b := new source) List.nodup_nil _
  have hfloats : ∃ fs, floats ((new source).declareFloats ds).declared = .ok fs := by
    refine exists_floats fun m v hv => ?_
    rw [← Named.lookup_eq_some_iff hnodup, ← Named.get?_eq_lookup, get?_declareFloats] at hv
    obtain ⟨x, -, hx⟩ := Option.map_eq_some_iff.1 hv
    obtain ⟨y, -, rfl⟩ := Option.map_eq_some_iff.1 hx
    exact ⟨y, rfl⟩
  obtain ⟨fs, hfs⟩ := hfloats
  have hdefaults : ((new source).declareFloats ds).defaults = .ok (fs.foldr insertDefault []) := by
    rw [defaults, hfs]
    rfl
  rw [hdefaults]
  congr 1
  -- both lists are sorted by name, so it is enough that they hold the same values
  have : Std.Irrefl fun p q : String × Float => p.1 < q.1 := ⟨fun p => String.lt_irrefl p.1⟩
  refine (sorted_defaults hnodup hdefaults).eq_of_mem_iff (sorted_lastValues ds) fun p => ?_
  rw [mem_defaults hnodup hdefaults, mem_lastValues, get?_declareFloats]
  cases ds.reverse.lookup p.1 with
  | none => simp
  | some value => cases value <;> simp [Supplied.toFloat]

/-- A default that is replaced, one that is added, and one that is removed. -/
example (u x y : Float) : lastValues [("y", some u), ("x", some x), ("w", none), ("y", some y), ("w", some u), ("x", none)] =
    [("w", u), ("y", y)] := by cbv

/-! ### The order of declarations -/

/-- Neighbouring declarations of different names have changed places. -/
inductive Swapped : List (String × Option Float) → List (String × Option Float) → Prop
  | swap (l r : List (String × Option Float)) {d e : String × Option Float} (h : d.1 ≠ e.1) :
      Swapped (l ++ d :: e :: r) (l ++ e :: d :: r)

theorem lookup_reverse_of_swapped (h : Swapped ds es) (n : String) :
    es.reverse.lookup n = ds.reverse.lookup n := by
  obtain @⟨l, r, ⟨d, v⟩, ⟨e, u⟩, hne⟩ := h
  simp only [List.reverse_append, List.reverse_cons, List.lookup_append, List.lookup_cons]
  by_cases hd : n = d
  · have he : (n == e) = false := beq_eq_false_iff_ne.2 (hd ▸ hne)
    simp [he]
  · simp [beq_eq_false_iff_ne.2 hd]

/-- Swapping declarations of different names changes neither the names nor what was declared last for them. -/
theorem lastValues_of_swapped (h : Relation.ReflTransGen Swapped ds es) :
    sortNames (es.map (·.1)) = sortNames (ds.map (·.1)) ∧ lastValues es = lastValues ds := by
  induction h with
  | refl => exact ⟨rfl, rfl⟩
  | @tail es fs _ hswap ih =>
    have hnames : sortNames (fs.map (·.1)) = sortNames (es.map (·.1)) := by
      obtain ⟨l, r, -⟩ := hswap
      refine sortNames_eq_of_mem_iff fun n => ?_
      simp only [List.map_append, List.map_cons, List.mem_append, List.mem_cons, or_left_comm]
    have hvalues : lastValues fs = lastValues es := by
      rw [lastValues, hnames, lastValues]
      simp only [lookup_reverse_of_swapped hswap]
    exact ⟨hnames.trans ih.1, hvalues.trans ih.2⟩

end Builder

end Reckon
