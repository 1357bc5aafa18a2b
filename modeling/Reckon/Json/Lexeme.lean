import Reckon.Json
import Reckon.Numeral

/-!
# The lexemes of JSON

A JSON text is a sequence of marks, texts and bare words, with white space between them. `split?` finds
them; a word is one of the constants or a number in the strict grammar.
-/

namespace Reckon.Json

inductive Lexeme
  | openList
  | closeList
  | openObject
  | closeObject
  | comma
  | colon
  | text (s : String)
  /-- A constant or a number. -/
  | word (v : Json)

namespace Lexeme

def mark? : Char → Option Lexeme
  | '[' => some openList
  | ']' => some closeList
  | '{' => some openObject
  | '}' => some closeObject
  | ',' => some comma
  | ':' => some colon
  | _ => none

def isSpace (c : Char) : Bool := c == ' ' || c == '\t' || c == '\n' || c == '\r'

/-! ### Texts -/

def hexValue? (c : Char) : Option Nat :=
  if c.isDigit then some (c.toNat - 48)
  else if 'a' ≤ c ∧ c ≤ 'f' then some (c.toNat - 87)
  else if 'A' ≤ c ∧ c ≤ 'F' then some (c.toNat - 55)
  else none

/-- The code unit of four hexadecimal digits, and the rest. -/
def unit? : List Char → Option (Nat × List Char)
  | a :: b :: c :: d :: rest => do
    let a ← hexValue? a
    let b ← hexValue? b
    let c ← hexValue? c
    let d ← hexValue? d
    some (((a * 16 + b) * 16 + c) * 16 + d, rest)
  | _ => none

theorem length_of_unit? {cs rest : List Char} {n : Nat} (h : unit? cs = some (n, rest)) :
    rest.length < cs.length := by
  unfold unit? at h
  split at h
  · simp only [Option.bind_eq_bind, Option.bind_eq_some_iff, Option.some.injEq, Prod.mk.injEq] at h
    obtain ⟨_, _, _, _, _, _, _, _, _, rfl⟩ := h
    simp only [List.length_cons]
    omega
  · simp at h

/-- The character of an escape by code units: one unit, or a high and a low surrogate. -/
def unicodeEscape? (cs : List Char) : Option (Char × List Char) := do
  let (high, rest) ← unit? cs
  if high < 0xd800 ∨ 0xe000 ≤ high then some (Char.ofNat high, rest)
  else if 0xdc00 ≤ high then none
  else
    match rest with
    | '\\' :: 'u' :: rest => do
      let (low, rest) ← unit? rest
      if 0xdc00 ≤ low ∧ low < 0xe000 then
        some (Char.ofNat (0x10000 + (high - 0xd800) * 0x400 + (low - 0xdc00)), rest)
      else none
    | _ => none

theorem length_of_unicodeEscape? {cs rest : List Char} {c : Char}
    (h : unicodeEscape? cs = some (c, rest)) : rest.length < cs.length := by
  simp only [unicodeEscape?, Option.bind_eq_bind, Option.bind_eq_some_iff, Prod.exists] at h
  obtain ⟨high, after, hu, h⟩ := h
  have h₁ := length_of_unit? hu
  split at h
  · simp only [Option.some.injEq, Prod.mk.injEq] at h
    obtain ⟨-, rfl⟩ := h
    exact h₁
  split at h
  · simp at h
  split at h
  · simp only [Option.bind_eq_some_iff, Prod.exists] at h
    obtain ⟨low, after', hu', h⟩ := h
    have h₂ := length_of_unit? hu'
    split at h
    · simp only [Option.some.injEq, Prod.mk.injEq] at h
      obtain ⟨-, rfl⟩ := h
      simp only [List.length_cons] at h₁ ⊢
      omega
    · simp at h
  · simp at h

/-- The character of an escape by a letter. -/
def letterEscape? : Char → Option Char
  | '"' => some '"'
  | '\\' => some '\\'
  | '/' => some '/'
  | 'b' => some '\x08'
  | 'f' => some '\x0c'
  | 'n' => some '\n'
  | 'r' => some '\r'
  | 't' => some '\t'
  | _ => none

/-- The characters up to the closing quote, and what stands behind it. -/
def text? : List Char → Option (List Char × List Char)
  | [] => none
  | c :: cs =>
    if c = '"' then some ([], cs)
    else if c.toNat < 0x20 then none
    else if c = '\\' then
      match cs with
      | [] => none
      | e :: rest =>
        if e = 'u' then
          match _ : unicodeEscape? rest with
          | none => none
          | some (d, rest') => (text? rest').map fun (ds, r) => (d :: ds, r)
        else
          match letterEscape? e with
          | none => none
          | some d => (text? rest).map fun (ds, r) => (d :: ds, r)
    else (text? cs).map fun (ds, r) => (c :: ds, r)
termination_by cs => cs.length
decreasing_by
  · have := length_of_unicodeEscape? (by assumption)
    simp only [List.length_cons]
    omega
  all_goals
    simp only [List.length_cons]
    omega

theorem length_of_text? {cs ds rest : List Char} (h : text? cs = some (ds, rest)) :
    rest.length < cs.length := by
  have wrap : ∀ {c : Char} {o : Option (List Char × List Char)} {ds : List Char},
      (o.map fun (ds, r) => (c :: ds, r)) = some (ds, rest) → ∃ ds', o = some (ds', rest) := by
    intro c o ds ho
    obtain ⟨⟨ds', r⟩, hr, he⟩ := Option.map_eq_some_iff.1 ho
    simp only [Prod.mk.injEq] at he
    exact ⟨ds', he.2 ▸ hr⟩
  fun_induction text? cs generalizing ds with
  | case2 cs =>
    simp only [Option.some.injEq, Prod.mk.injEq] at h
    obtain ⟨-, rfl⟩ := h
    simp
  | case6 _ _ _ hu _ _ ih =>
    obtain ⟨ds', hr⟩ := wrap h
    have h₁ := ih hr
    have h₂ := length_of_unicodeEscape? hu
    simp only [List.length_cons]
    omega
  | case8 _ _ _ _ _ _ _ ih =>
    obtain ⟨ds', hr⟩ := wrap h
    have h₁ := ih hr
    simp only [List.length_cons]
    omega
  | case9 _ _ _ _ _ ih =>
    obtain ⟨ds', hr⟩ := wrap h
    have h₁ := ih hr
    simp only [List.length_cons]
    omega
  | _ => simp at h

/-! ### Words -/

/-- The characters of numbers and constants. -/
def isWordChar (c : Char) : Bool := c.isAlphanum || c == '-' || c == '+' || c == '.'

/-- The greatest number of characters in front of a point or an exponent. -/
def wholeLength : Nat := 4300

/-- A number: an integer if it has neither a point nor an exponent. -/
def number? (cs : List Char) : Option Json :=
  let negative := cs.head? == some '-'
  let body := if negative then cs.drop 1 else cs
  let whole := body.takeWhile Char.isDigit
  let rest := body.dropWhile Char.isDigit
  if !Numeral.isWhole whole || wholeLength < cs.length - rest.length then none
  else if rest.isEmpty then
    let n := Nat.ofDigitChars 10 whole 0
    some (int (if negative then -n else n))
  else if rest.head? == some '.' && ((rest.drop 1).takeWhile Char.isDigit).isEmpty then none
  else (Numeral.scientific? body).map fun d => float (Binary64.ofOrdinal negative d.ordinal)

def word? (cs : List Char) : Option Json :=
  if cs = "null".toList then some null
  else if cs = "true".toList then some (bool true)
  else if cs = "false".toList then some (bool false)
  else if cs = "NaN".toList then some (float Binary64.nan)
  else if cs = "Infinity".toList then some (float (Binary64.ofOrdinal false Binary64.infinite))
  else if cs = "-Infinity".toList then some (float (Binary64.ofOrdinal true Binary64.infinite))
  else number? cs

/-! ### Splitting -/

/-- The lexemes of a text, unless there is something else in it. -/
def split? : List Char → Option (List Lexeme)
  | [] => some []
  | c :: cs =>
    if isSpace c then split? cs
    else if c = '"' then
      match _ : text? cs with
      | none => none
      | some (s, rest) => (split? rest).map (text (String.ofList s) :: ·)
    else
      match mark? c with
      | some m => (split? cs).map (m :: ·)
      | none =>
        match word? (c :: cs.takeWhile isWordChar) with
        | none => none
        | some v => (split? (cs.dropWhile isWordChar)).map (word v :: ·)
termination_by cs => cs.length
decreasing_by
  · simp
  · have := length_of_text? (by assumption)
    simp only [List.length_cons]
    omega
  · simp
  · have := (List.dropWhile_sublist isWordChar (l := cs)).length_le
    simp only [List.length_cons]
    omega

end Lexeme

end Reckon.Json
