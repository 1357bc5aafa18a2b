import Reckon.Text.CaseTable

/-!
# Letter case

`lower` and `upper` map a text to its small and its capital letters by the full case mappings of
Unicode, a mapping to several characters included. A capital sigma becomes the final form at the end
of a word. On ASCII text both are the maps of core, which `lower_ascii` states for small letters.
-/

namespace Reckon.Text

/-- The mapping of one character by a table of runs and one of longer images. -/
def mapCase (runs : List CaseRun) (expansions : List (Nat × List Nat)) (c : Char) : List Char :=
  match expansions.lookup c.toNat with
  | some image => image.map Char.ofNat
  | none =>
    match runs.find? (·.covers c.toNat) with
    | some r => [Char.ofNat (c.toNat + r.shift).toNat]
    | none => [c]

def lowerChar (c : Char) : List Char :=
  if c.toNat < 0x80 then [c.toLower] else mapCase lowerRuns lowerExpansions c

def upperChar (c : Char) : List Char :=
  if c.toNat < 0x80 then [c.toUpper] else mapCase upperRuns upperExpansions c

/-- Whether the nearest character that counts is a letter with case. -/
def meetsCased (cs : List Char) : Bool :=
  match cs.dropWhile (CodeRange.covers caseIgnorableRanges) with
  | [] => false
  | c :: _ => CodeRange.covers casedRanges c

/-- Small letters of `cs`, the characters before it being `before`, nearest first. A sigma ends its
word if a letter with case stands before it and none after it. -/
def lowerAfter (before : List Char) : List Char → List Char
  | [] => []
  | c :: cs =>
    if c = 'Σ' then
      (if meetsCased before && !meetsCased cs then 'ς' else 'σ') :: lowerAfter (c :: before) cs
    else lowerChar c ++ lowerAfter (c :: before) cs

def lower (s : String) : String := String.ofList (lowerAfter [] s.toList)

def upper (s : String) : String := String.ofList (s.toList.flatMap upperChar)

theorem lowerAfter_ascii {cs : List Char} (h : ∀ c ∈ cs, c.toNat < 0x80) (before : List Char) :
    lowerAfter before cs = cs.map Char.toLower := by
  induction cs generalizing before with
  | nil => rfl
  | cons c cs ih =>
    have hc : c.toNat < 0x80 := h c (by simp)
    have hne : c ≠ 'Σ' := by rintro rfl; revert hc; decide
    simp [lowerAfter, hne, lowerChar, hc, ih fun d hd => h d (by simp [hd])]

theorem lower_ascii {s : String} (h : ∀ c ∈ s.toList, c.toNat < 0x80) :
    lower s = String.ofList (s.toList.map Char.toLower) := by
  rw [lower, lowerAfter_ascii h]

end Reckon.Text
