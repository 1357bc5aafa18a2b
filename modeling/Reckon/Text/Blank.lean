/-!
# White space and trimming

Two sets: the White_Space property of Unicode, and the *blanks*, which add the four information
separators `0x1c` to `0x1f`. `isBlank_of_isWhitespace` says that core's ASCII class is in both.
-/

namespace Reckon.Text

/-- The White_Space property of Unicode. -/
def isWhiteSpace (c : Char) : Bool :=
  let n := c.toNat
  (0x9 ≤ n && n ≤ 0xd) || n == 0x20 || n == 0x85 || n == 0xa0 || n == 0x1680 ||
    (0x2000 ≤ n && n ≤ 0x200a) || n == 0x2028 || n == 0x2029 || n == 0x202f || n == 0x205f ||
    n == 0x3000

/-- White space or one of the four information separators. -/
def isBlank (c : Char) : Bool :=
  isWhiteSpace c || (0x1c ≤ c.toNat && c.toNat ≤ 0x1f)

/-- Drops the characters that satisfy `p` from both ends. -/
def trim (p : Char → Bool) (cs : List Char) : List Char :=
  ((cs.dropWhile p).reverse.dropWhile p).reverse

theorem isBlank_of_isWhiteSpace {c : Char} (h : isWhiteSpace c) : isBlank c := by
  simp [isBlank, h]

theorem isWhiteSpace_of_isWhitespace {c : Char} (h : c.isWhitespace) : isWhiteSpace c := by
  simp only [Char.isWhitespace, Bool.or_eq_true, decide_eq_true_eq] at h
  rcases h with (((rfl | rfl) | rfl) | rfl) <;> decide

theorem isBlank_of_isWhitespace {c : Char} (h : c.isWhitespace) : isBlank c :=
  isBlank_of_isWhiteSpace (isWhiteSpace_of_isWhitespace h)

end Reckon.Text
