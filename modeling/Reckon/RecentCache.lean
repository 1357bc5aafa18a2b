/-!
# Caches of what was used last

A cache keeps the results for the keys that were asked for most recently, newest first, and at most
`capacity` of them. `fetch` answers from it or makes the result; a result that cannot be made is not
kept. `length_entries_fetch` says that the capacity holds.
-/

namespace Reckon

structure RecentCache (κ α : Type) where
  capacity : Nat
  /-- Keys with results, the one asked for last in front. -/
  entries : List (κ × α)
  hits : Nat
  misses : Nat

namespace RecentCache

variable {κ α ε : Type} [DecidableEq κ]

def empty (capacity : Nat) : RecentCache κ α := ⟨capacity, [], 0, 0⟩

/-- The entries without the one for `k`. -/
def others (c : RecentCache κ α) (k : κ) : List (κ × α) := c.entries.filter (·.1 ≠ k)

/-- The result for `k`, kept or made, and the cache afterwards. -/
def fetch (c : RecentCache κ α) (k : κ) (make : Unit → Except ε α) :
    Except ε α × RecentCache κ α :=
  match c.entries.lookup k with
  | some a => (.ok a, { c with entries := (k, a) :: c.others k, hits := c.hits + 1 })
  | none =>
    match make () with
    | .error e => (.error e, { c with misses := c.misses + 1 })
    | .ok a =>
      (.ok a, { c with entries := ((k, a) :: c.entries).take c.capacity, misses := c.misses + 1 })

@[simp] theorem capacity_fetch (c : RecentCache κ α) (k : κ) (make : Unit → Except ε α) :
    (c.fetch k make).2.capacity = c.capacity := by
  unfold fetch
  split
  · rfl
  · split <;> rfl

theorem length_others_lt {c : RecentCache κ α} {k : κ} {a : α} (h : c.entries.lookup k = some a) :
    (c.others k).length < c.entries.length := by
  obtain ⟨p, hp, hk⟩ : ∃ p ∈ c.entries, p.1 = k := by
    obtain ⟨l₁, l₂, he, -⟩ := List.lookup_eq_some_iff.1 h
    exact ⟨(k, a), by simp [he], rfl⟩
  exact List.length_filter_lt_length_iff_exists.2 ⟨p, hp, by simpa using hk⟩

theorem length_entries_fetch {c : RecentCache κ α} (hc : c.entries.length ≤ c.capacity) (k : κ)
    (make : Unit → Except ε α) : (c.fetch k make).2.entries.length ≤ c.capacity := by
  unfold fetch
  split
  · next a h => exact Nat.le_trans (length_others_lt h) hc
  · split
    · exact hc
    · exact List.length_take_le _ _

end RecentCache

end Reckon
