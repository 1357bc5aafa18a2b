import Mathlib.Data.List.TakeWhile
import Reckon.Text.Blank

/-!
# Runs of characters

A text begins with a run of characters that satisfy `p`, and what follows begins with one that does not: the
run is what `takeWhile` finds, and `dropWhile` leaves the rest. With runs at both ends it is what `trim` leaves
(`Text.trim_append`).
-/

namespace Reckon

theorem not_of_mem_head?_dropWhile {p : Char → Bool} {cs : List Char} : ∀ c ∈ (cs.dropWhile p).head?, p c = false := by
  intro c hc
  have h := List.head?_dropWhile_not p cs
  rw [hc] at h
  exact h

section Runs

variable {p : Char → Bool} {w cs : List Char} (hw : ∀ c ∈ w, p c = true) (hcs : ∀ c ∈ cs.head?, p c = false)
include hw hcs

theorem takeWhile_append_boundary : (w ++ cs).takeWhile p = w := by
  rw [List.takeWhile_append_of_pos hw]
  cases cs with
  | nil => simp
  | cons c cs => simp [hcs c rfl]

theorem dropWhile_append_boundary : (w ++ cs).dropWhile p = cs := by
  rw [List.dropWhile_append_of_pos hw]
  cases cs with
  | nil => rfl
  | cons c cs => simp [hcs c rfl]

end Runs

/-! ### Trimming -/

namespace Text

variable {p : Char → Bool} {cs : List Char}

theorem trim_eq_nil_iff : trim p cs = [] ↔ ∀ c ∈ cs, p c = true := by
  rw [trim, List.reverse_eq_nil_iff, List.dropWhile_eq_nil_iff]
  constructor
  · intro h
    rcases hd : cs.dropWhile p with _ | ⟨c, rest⟩
    · exact List.dropWhile_eq_nil_iff.1 hd
    -- the first character that is kept would have to be dropped from the other end
    have hc : p c = true := h c (by rw [hd]; simp)
    have hno : p c = false := not_of_mem_head?_dropWhile c (by rw [hd]; rfl)
    rw [hc] at hno
    cases hno
  · intro h c hc
    exact h c ((List.dropWhile_sublist p).subset (List.mem_reverse.1 hc))

theorem ofList_trim_eq_empty_iff :
    String.ofList (trim isBlank cs) = "" ↔ ∀ c ∈ cs, isBlank c = true := by
  rw [← trim_eq_nil_iff, ← String.toList_inj, String.toList_ofList]
  rfl

theorem exists_trim (p : Char → Bool) (cs : List Char) : ∃ before after,
    cs = before ++ (trim p cs ++ after) ∧ (∀ c ∈ before, p c = true) ∧ ∀ c ∈ after, p c = true := by
  refine ⟨cs.takeWhile p, ((cs.dropWhile p).reverse.takeWhile p).reverse, ?_, fun c hc => ?_, fun c hc => ?_⟩
  · rw [trim, ← List.reverse_append, List.takeWhile_append_dropWhile, List.reverse_reverse,
      List.takeWhile_append_dropWhile]
  · exact List.mem_takeWhile_imp hc
  · exact List.mem_takeWhile_imp (List.mem_reverse.1 hc)

theorem trim_append {before cs after : List Char} (hbefore : ∀ c ∈ before, p c = true)
    (hafter : ∀ c ∈ after, p c = true) (hne : cs ≠ []) (hhead : ∀ c ∈ cs.head?, p c = false)
    (hlast : ∀ c ∈ cs.getLast?, p c = false) : trim p (before ++ (cs ++ after)) = cs := by
  have hhead' : ∀ c ∈ (cs ++ after).head?, p c = false := by
    obtain ⟨c, rest, rfl⟩ := List.exists_cons_of_ne_nil hne
    exact hhead
  have hafter' : ∀ c ∈ after.reverse, p c = true := fun c hc => hafter c (List.mem_reverse.1 hc)
  have hlast' : ∀ c ∈ cs.reverse.head?, p c = false := by
    rw [List.head?_reverse]
    exact hlast
  rw [trim, dropWhile_append_boundary hbefore hhead', List.reverse_append, dropWhile_append_boundary hafter' hlast',
    List.reverse_reverse]

end Text

end Reckon
