/-!
# Named values

Lists of values by name, each name once and in the order in which the names came. `get?_put` says that
the last value put for a name is the one found, `get?_erase` that an erased name has none.
-/

namespace Reckon

abbrev Named (α : Type) := List (String × α)

namespace Named

variable {α : Type}

def names (vs : Named α) : List String := vs.map (·.1)

def get? (vs : Named α) (name : String) : Option α :=
  match vs with
  | [] => none
  | v :: rest => if v.1 = name then some v.2 else get? rest name

/-- Replaces the value of a name in its place, or adds it at the end. -/
def put (vs : Named α) (name : String) (value : α) : Named α :=
  match vs with
  | [] => [(name, value)]
  | v :: rest => if v.1 = name then (name, value) :: rest else v :: put rest name value

def erase (vs : Named α) (name : String) : Named α := vs.filter (·.1 ≠ name)

/-- The named values put one after the other. -/
def ofList (vs : List (String × α)) : Named α := vs.foldl (fun m v => put m v.1 v.2) []

theorem get?_put (vs : Named α) (name other : String) (value : α) :
    (vs.put name value).get? other = if name = other then some value else vs.get? other := by
  induction vs with
  | nil => rfl
  | cons v rest ih =>
    by_cases hv : v.1 = name
    · subst hv
      by_cases ho : v.1 = other
      · simp [put, get?, ho]
      · simp [put, get?, ho]
    · by_cases ho : v.1 = other
      · subst ho
        have hv' : ¬name = v.1 := fun h => hv h.symm
        simp [put, get?, hv, hv']
      · simp [put, get?, hv, ho, ih]

theorem get?_erase (vs : Named α) (name other : String) :
    (vs.erase name).get? other = if name = other then none else vs.get? other := by
  induction vs with
  | nil => simp [erase, get?]
  | cons v rest ih =>
    simp only [erase] at ih ⊢
    by_cases hv : v.1 = name
    · rw [List.filter_cons_of_neg (by simpa using hv), ih]
      by_cases ho : name = other
      · simp [ho]
      · simp [get?, ho, hv]
    · rw [List.filter_cons_of_pos (by simpa using hv)]
      simp only [get?, ih]
      by_cases ho : v.1 = other
      · have hn : name ≠ other := fun h => hv (ho.trans h.symm)
        simp [ho, hn]
      · simp [ho]

theorem names_put (vs : Named α) (name : String) (value : α) :
    (vs.put name value).names = if name ∈ vs.names then vs.names else vs.names ++ [name] := by
  induction vs with
  | nil => simp [put, names]
  | cons v rest ih =>
    simp only [names] at ih
    by_cases hv : v.1 = name
    · simp [put, names, hv]
    · have hv' : ¬name = v.1 := fun h => hv h.symm
      by_cases hm : name ∈ rest.map (·.1) <;> simp_all [put, names]

end Named

end Reckon
