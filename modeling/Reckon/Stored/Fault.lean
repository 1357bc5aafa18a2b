import Reckon.Text.Quoted

/-!
# Faults in stored data

Data is checked as a whole: a fault says where it is and what is wrong, and all faults are reported, in
the order of the data. `both` and `each` join checks without losing faults of either side.
-/

namespace Reckon

namespace Stored

/-- One step of the way into a value. -/
inductive Step
  | index (i : Nat)
  | field (name : String)
  deriving DecidableEq, Repr

inductive FaultKind
  /-- The text is no JSON. -/
  | malformed
  | notObject
  /-- A value among data stands where an object is wanted. -/
  | noFields
  | notRecord
  | notList
  | notTuple
  | tooLong
  | missing
  /-- A token without a kind. -/
  | noKind
  | unknownKind
  | notText
  | notNumber
  | unreadableNumber
  | notInteger
  | unreadableInteger
  /-- An integer is wanted and a number with a fraction is given. -/
  | fractional
  /-- An integer is wanted and infinity or NaN is given. -/
  | notFinite
  /-- An integer is wanted and a float outside 64 bits or a text with too many digits is given. -/
  | oversized
  | negative
  | unknownOperator (s : String)
  | unknownFunction (s : String)
  | notBracket (s : String)
  deriving DecidableEq, Repr

/-- What a fault says about a text that names nothing. -/
def FaultKind.explanation? : FaultKind → Option String
  | unknownOperator s => some ("Unknown operator: " ++ Text.quote s)
  | unknownFunction s => some ("Unknown function: " ++ Text.quote s)
  | notBracket s => some ("Not a bracket: " ++ Text.quote s)
  | _ => none

structure Fault where
  path : List Step
  kind : FaultKind
  deriving DecidableEq, Repr

/-- A value, or the faults that it has. -/
abbrev Checked (α : Type) := Except (List Fault) α

namespace Checked

variable {α β : Type}

def fail (kind : FaultKind) : Checked α := .error [⟨[], kind⟩]

/-- A check of what stands at `s`. -/
def within (s : Step) : Checked α → Checked α
  | .ok a => .ok a
  | .error faults => .error (faults.map fun f => { f with path := s :: f.path })

def both : Checked α → Checked β → Checked (α × β)
  | .ok a, .ok b => .ok (a, b)
  | .ok _, .error fs => .error fs
  | .error fs, .ok _ => .error fs
  | .error fs, .error gs => .error (fs ++ gs)

/-- A check of every item, the first of them having this index. -/
def each (check : α → Checked β) (index : Nat) : List α → Checked (List β)
  | [] => .ok []
  | a :: as =>
    (both (within (.index index) (check a)) (each check (index + 1) as)).map fun (b, bs) => b :: bs

theorem each_ok {check : α → Checked β} {f : β → α} (h : ∀ b, check (f b) = .ok b) (index : Nat)
    (bs : List β) : each check index (bs.map f) = .ok bs := by
  induction bs generalizing index with
  | nil => rfl
  | cons b bs ih => simp [each, h, ih, within, both, Except.map]

end Checked

end Stored

end Reckon
