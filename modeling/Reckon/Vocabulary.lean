import Reckon.Func
import Reckon.Text.Quoted

/-!
# Vocabularies

The names that an expression may use as variables: sorted by code point, each once, and none of them a
function's name in any letter case. `mem_sortNames` and `sorted_sortNames` say that sorting keeps exactly
the names and puts them into strictly increasing order.
-/

namespace Reckon

/-! ### Sorted names -/

/-- Puts a name at its place among sorted names, unless it is there already. -/
def insertName (n : String) : List String → List String
  | [] => [n]
  | m :: ms => if n < m then n :: m :: ms else if n = m then m :: ms else m :: insertName n ms

/-- The names in code point order, each once. -/
def sortNames (names : List String) : List String := names.foldr insertName []

@[simp] theorem mem_insertName {a n : String} {ms : List String} :
    a ∈ insertName n ms ↔ a = n ∨ a ∈ ms := by
  induction ms with
  | nil => simp [insertName]
  | cons m ms ih =>
    unfold insertName
    split
    · simp
    · split
      · next h => subst h; simp
      · simp [ih, or_left_comm]

@[simp] theorem mem_sortNames {a : String} {names : List String} :
    a ∈ sortNames names ↔ a ∈ names := by
  induction names with
  | nil => simp [sortNames]
  | cons n names ih =>
    rw [show sortNames (n :: names) = insertName n (sortNames names) from rfl]
    simp [ih]

theorem sorted_insertName {n : String} {ms : List String} (h : ms.Pairwise (· < ·)) :
    (insertName n ms).Pairwise (· < ·) := by
  induction ms with
  | nil => simp [insertName]
  | cons m ms ih =>
    obtain ⟨hm, hms⟩ := List.pairwise_cons.1 h
    unfold insertName
    split
    · next hlt =>
      refine List.pairwise_cons.2 ⟨fun a ha => ?_, h⟩
      rcases List.mem_cons.1 ha with rfl | ha
      · exact hlt
      · exact String.lt_trans hlt (hm a ha)
    split
    · exact h
    · next hlt hne =>
      refine List.pairwise_cons.2 ⟨fun a ha => ?_, ih hms⟩
      rcases mem_insertName.1 ha with rfl | ha
      · exact Std.lt_of_le_of_ne (String.not_lt.1 hlt) (Ne.symm hne)
      · exact hm a ha

theorem sorted_sortNames (names : List String) : (sortNames names).Pairwise (· < ·) := by
  induction names with
  | nil => exact .nil
  | cons n names ih => exact sorted_insertName ih

/-! ### Vocabularies -/

/-- A declared name that a function has. -/
structure ReservedName where
  name : String
  deriving DecidableEq, Repr

namespace ReservedName

def message (e : ReservedName) : String :=
  "Variable '" ++ e.name ++ "' can not have the same name as a function"

end ReservedName

structure Vocabulary where
  /-- The declared names. -/
  names : List String
  sorted : names.Pairwise (· < ·)
  unreserved : ∀ n ∈ names, Func.ofWord? n = none

namespace Vocabulary

/-- The vocabulary of the names, or the first of them in order that a function has. -/
def ofNames (names : List String) : Except ReservedName Vocabulary :=
  match h : (sortNames names).find? fun n => (Func.ofWord? n).isSome with
  | some n => .error ⟨n⟩
  | none => .ok ⟨sortNames names, sorted_sortNames names,
      fun n hn => by simpa using List.find?_eq_none.1 h n hn⟩

def empty : Vocabulary := ⟨[], .nil, by simp⟩

/-- A one-line description. -/
def describe (v : Vocabulary) : String :=
  "Tokenizer(variables=" ++ Text.quoteList v.names ++ ")"

theorem names_of_ofNames {names : List String} {v : Vocabulary} (h : ofNames names = .ok v) :
    v.names = sortNames names := by
  unfold ofNames at h
  split at h
  · simp at h
  · cases h; rfl

end Vocabulary

end Reckon
