import Reckon.Json.Reader
import Reckon.Proofs.Json.Texts
import Reckon.Proofs.Json.Words

/-!
# Lexemes of a written value

`lexemes` says what the text of a value is made of. The text is split into them, whatever stands behind it, as
long as that does not continue a word (`split?_write`). A value is `Readable` if its integers are not too long
and none of its parts stands too deep.
-/

namespace Reckon.Json

open Json.Lexeme

mutual

def lexemes : Json → List Lexeme
  | null => [.word null]
  | bool b => [.word (bool b)]
  | int n => [.word (int n)]
  | float x => [.word (float x)]
  | text s => [.text s]
  | list items => .openList :: itemLexemes items ++ [.closeList]
  | object fields => .openObject :: fieldLexemes fields ++ [.closeObject]

def itemLexemes : List Json → List Lexeme
  | [] => []
  | [v] => lexemes v
  | v :: w :: rest => lexemes v ++ .comma :: itemLexemes (w :: rest)

def fieldLexemes : List (String × Json) → List Lexeme
  | [] => []
  | [(name, v)] => .text name :: .colon :: lexemes v
  | (name, v) :: w :: rest => .text name :: .colon :: lexemes v ++ .comma :: fieldLexemes (w :: rest)

end

mutual

/-- `v` can be read inside `depth` containers. -/
def Readable (depth : Nat) : Json → Prop
  | null | bool _ | float _ | text _ => True
  | int n => (writeInt n).length ≤ wholeLength
  | list items => ReadableItems (depth + 1) items
  | object fields => ReadableFields (depth + 1) fields

def ReadableItems (depth : Nat) : List Json → Prop
  | [] => True
  | v :: vs => depth ≤ Expect.maxDepth ∧ v.Readable depth ∧ ReadableItems depth vs

def ReadableFields (depth : Nat) : List (String × Json) → Prop
  | [] => True
  | (_, v) :: fields => depth ≤ Expect.maxDepth ∧ v.Readable depth ∧ ReadableFields depth fields

end

/-! ### One lexeme at a time -/

/-- What follows does not continue a word. -/
def EndsWord (rest : List Char) : Prop := ∀ c ∈ rest.head?, isWordChar c = false

section

variable {rest : List Char} {ls : List Lexeme}

theorem split?_mark {c : Char} {m : Lexeme} (hc : mark? c = some m) (h : split? rest = some ls) :
    split? (c :: rest) = some (m :: ls) := by
  have hspace : isSpace c = false ∧ c ≠ '"' := by
    unfold mark? at hc
    split at hc <;> first | exact ⟨rfl, by decide⟩ | cases hc
  rw [split?, if_neg (by rw [hspace.1]; exact Bool.false_ne_true), if_neg hspace.2]
  simp only [hc, h, Option.map_some]

theorem split?_text (s : String) (h : split? rest = some ls) :
    split? (writeText s ++ rest) = some (.text s :: ls) := by
  have hread : text? (s.toList.flatMap escapeChar ++ ['"'] ++ rest) = some (s.toList, rest) := by
    rw [List.append_assoc]
    exact text?_writeText s rest
  rw [writeText, List.cons_append, List.cons_append, split?, if_neg (by decide), if_pos rfl]
  split
  · rename_i he
    rw [hread] at he
    cases he
  · rename_i he
    rw [hread] at he
    obtain ⟨rfl, rfl⟩ := Prod.mk.inj (Option.some.inj he)
    rw [h, Option.map_some, String.ofList_toList]

theorem inert_of_isWordChar {c : Char} (h : isWordChar c = true) :
    ¬isSpace c = true ∧ c ≠ '"' ∧ mark? c = none := by
  have hne : ∀ d : Char, isWordChar d = false → c ≠ d := by
    rintro d hd rfl
    rw [h] at hd
    cases hd
  refine ⟨?_, hne _ rfl, ?_⟩
  · simp [isSpace, hne ' ' rfl, hne '\t' rfl, hne '\n' rfl, hne '\r' rfl]
  · unfold mark?
    split <;> first | rfl | exact absurd rfl (hne _ rfl)

theorem split?_word {w : List Char} {v : Json} (hw : ∀ c ∈ w, isWordChar c = true) (hv : word? w = some v)
    (hend : EndsWord rest) (h : split? rest = some ls) : split? (w ++ rest) = some (.word v :: ls) := by
  obtain ⟨c, cs, rfl⟩ : ∃ c cs, w = c :: cs := by
    refine List.exists_cons_of_ne_nil ?_
    rintro rfl
    have hnone : word? [] = none := rfl
    rw [hnone] at hv
    cases hv
  have hc : isWordChar c = true := hw c (List.mem_cons_self ..)
  have hcs : ∀ d ∈ cs, isWordChar d = true := fun d hd => hw d (List.mem_cons_of_mem _ hd)
  obtain ⟨hspace, hquote, hmark⟩ := inert_of_isWordChar hc
  rw [List.cons_append, split?, if_neg hspace, if_neg hquote]
  simp only [hmark, takeWhile_append_boundary hcs hend, dropWhile_append_boundary hcs hend, hv, h,
    Option.map_some]

end

/-! ### Whole values -/

theorem endsWord_nil : EndsWord [] := by
  rintro c ⟨⟩

theorem endsWord_cons {c : Char} {rest : List Char} (h : isWordChar c = false) : EndsWord (c :: rest) := by
  rintro d ⟨⟩
  exact h

mutual

theorem split?_write : ∀ (v : Json) {depth : Nat} {rest : List Char} {ls : List Lexeme}, v.Readable depth →
    EndsWord rest → split? rest = some ls → split? (v.write ++ rest) = some (v.lexemes ++ ls)
  | null, _, _, _, _, hend, h => split?_word (List.all_eq_true.1 (by decide)) rfl hend h
  | bool true, _, _, _, _, hend, h => split?_word (List.all_eq_true.1 (by decide)) rfl hend h
  | bool false, _, _, _, _, hend, h => split?_word (List.all_eq_true.1 (by decide)) rfl hend h
  | int n, _, _, _, hv, hend, h => split?_word (isWordChar_writeInt n) (word?_writeInt hv) hend h
  | float x, _, _, _, _, hend, h => split?_word (isWordChar_writeFloat x) (word?_writeFloat x) hend h
  | text s, _, _, _, _, _, h => split?_text s h
  | list items, _, rest, ls, hv, _, h => by
    have hclose : split? (']' :: rest) = some (.closeList :: ls) := split?_mark rfl h
    have hitems := split?_writeItems items hv (endsWord_cons rfl) hclose
    rw [write, lexemes, List.cons_append, List.append_assoc, List.cons_append, List.append_assoc]
    exact split?_mark rfl hitems
  | object fields, _, rest, ls, hv, _, h => by
    have hclose : split? ('}' :: rest) = some (.closeObject :: ls) := split?_mark rfl h
    have hfields := split?_writeFields fields hv (endsWord_cons rfl) hclose
    rw [write, lexemes, List.cons_append, List.append_assoc, List.cons_append, List.append_assoc]
    exact split?_mark rfl hfields

theorem split?_writeItems : ∀ (items : List Json) {depth : Nat} {rest : List Char} {ls : List Lexeme},
    ReadableItems depth items → EndsWord rest → split? rest = some ls →
    split? (writeItems items ++ rest) = some (itemLexemes items ++ ls)
  | [], _, _, _, _, _, h => h
  | [v], _, _, _, hv, hend, h => split?_write v hv.2.1 hend h
  | v :: w :: items, _, rest, ls, hv, hend, h => by
    have hitems := split?_writeItems (w :: items) hv.2.2 hend h
    have hcomma : split? (',' :: (writeItems (w :: items) ++ rest)) = _ := split?_mark rfl hitems
    rw [writeItems, itemLexemes, List.append_assoc, List.append_assoc]
    exact split?_write v hv.2.1 (endsWord_cons rfl) hcomma

theorem split?_writeFields : ∀ (fields : List (String × Json)) {depth : Nat} {rest : List Char} {ls : List Lexeme},
    ReadableFields depth fields → EndsWord rest → split? rest = some ls →
    split? (writeFields fields ++ rest) = some (fieldLexemes fields ++ ls)
  | [], _, _, _, _, _, h => h
  | [(name, v)], _, rest, ls, hv, hend, h => by
    have hvalue := split?_write v hv.2.1 hend h
    have hcolon : split? (':' :: (v.write ++ rest)) = _ := split?_mark rfl hvalue
    rw [writeFields, fieldLexemes, List.append_assoc]
    exact split?_text name hcolon
  | (name, v) :: w :: fields, _, rest, ls, hv, hend, h => by
    have hfields := split?_writeFields (w :: fields) hv.2.2 hend h
    have hcomma : split? (',' :: (writeFields (w :: fields) ++ rest)) = _ := split?_mark rfl hfields
    have hvalue := split?_write v hv.2.1 (endsWord_cons rfl) hcomma
    have hcolon : split? (':' :: (v.write ++ ',' :: (writeFields (w :: fields) ++ rest))) = _ :=
      split?_mark rfl hvalue
    rw [writeFields, fieldLexemes]
    simp only [List.append_assoc, List.cons_append]
    exact split?_text name hcolon

end

end Reckon.Json
