import Reckon.Proofs.Json.Lexemes

/-!
# Reading what was written

The machine that reads lexemes takes the lexemes of a value as a whole: wherever a value may stand, it goes on
as after that value (`read_value`). With the splitting into lexemes, the text of a readable value reads back as
the value (`parse?_render`).
-/

namespace Reckon.Json

open Json.Lexeme Expect

theorem exists_lexemes (v : Json) : ∃ l ls, v.lexemes = l :: ls ∧ l ≠ .closeList := by
  cases v <;> exact ⟨_, _, rfl, Lexeme.noConfusion⟩

theorem exists_itemLexemes (v : Json) (vs : List Json) :
    ∃ l ls, itemLexemes (v :: vs) = l :: ls ∧ l ≠ .closeList := by
  obtain ⟨l, ls, hls, hl⟩ := exists_lexemes v
  cases vs with
  | nil => exact ⟨l, ls, hls, hl⟩
  | cons w rest =>
    refine ⟨l, ls ++ .comma :: itemLexemes (w :: rest), ?_, hl⟩
    rw [itemLexemes, hls, List.cons_append]

theorem exists_fieldLexemes (field : String × Json) (fields : List (String × Json)) :
    ∃ ls, fieldLexemes (field :: fields) = .text field.1 :: ls := by
  cases fields <;> exact ⟨_, rfl⟩

variable {outer : List Frame}

/-- The first item of a list stands like any other. -/
theorem foldlM_firstItem (v : Json) (vs : List Json) (h : outer.length < maxDepth) :
    (itemLexemes (v :: vs)).foldlM step (firstItem outer) =
      (itemLexemes (v :: vs)).foldlM step (value (.list [] :: outer)) := by
  obtain ⟨l, ls, hls, hl⟩ := exists_itemLexemes v vs
  have hstep : step (firstItem outer) l = step (value (.list [] :: outer)) l := by
    cases l <;> first | exact if_pos h | exact absurd rfl hl
  rw [hls, List.foldlM_cons, List.foldlM_cons, hstep]

/-- The first field of an object stands like any other. -/
theorem foldlM_firstName (field : String × Json) (fields : List (String × Json)) (h : outer.length < maxDepth) :
    (fieldLexemes (field :: fields)).foldlM step (firstName outer) =
      (fieldLexemes (field :: fields)).foldlM step (name [] outer) := by
  obtain ⟨ls, hls⟩ := exists_fieldLexemes field fields
  have hstep : step (firstName outer) (.text field.1) = step (name [] outer) (.text field.1) := if_pos h
  rw [hls, List.foldlM_cons, List.foldlM_cons, hstep]

mutual

theorem read_value : ∀ (v : Json) {outer : List Frame}, v.Readable outer.length →
    v.lexemes.foldlM step (value outer) = some (close v outer)
  | null, _, _ => rfl
  | bool _, _, _ => rfl
  | int _, _, _ => rfl
  | float _, _, _ => rfl
  | text _, _, _ => rfl
  | list [], _, _ => rfl
  | list (v :: vs), outer, h => by
    have hitems := read_items (v :: vs) [] outer (List.cons_ne_nil _ _) h
    rw [List.append_nil] at hitems
    rw [lexemes, List.cons_append, List.foldlM_cons]
    show (itemLexemes (v :: vs) ++ [Lexeme.closeList]).foldlM step (firstItem outer) = _
    rw [List.foldlM_append, foldlM_firstItem v vs h.1, hitems]
    show some (close (list (v :: vs).reverse.reverse) outer) = _
    rw [List.reverse_reverse]
  | object [], _, _ => rfl
  | object (field :: fields), outer, h => by
    have hfields := read_fields (field :: fields) [] outer (List.cons_ne_nil _ _) h
    rw [List.append_nil] at hfields
    rw [lexemes, List.cons_append, List.foldlM_cons]
    show (fieldLexemes (field :: fields) ++ [Lexeme.closeObject]).foldlM step (firstName outer) = _
    rw [List.foldlM_append, foldlM_firstName field fields h.1, hfields]
    show some (close (object (field :: fields).reverse.reverse) outer) = _
    rw [List.reverse_reverse]

theorem read_items : ∀ (items seen : List Json) (outer : List Frame), items ≠ [] →
    ReadableItems (outer.length + 1) items →
    (itemLexemes items).foldlM step (value (.list seen :: outer)) = some (moreItems (items.reverse ++ seen) outer)
  | [], _, _, hne, _ => absurd rfl hne
  | [v], _, _, _, h => read_value v h.2.1
  | v :: w :: rest, seen, outer, _, h => by
    have hfirst : v.lexemes.foldlM step (value (.list seen :: outer)) = some (moreItems (v :: seen) outer) :=
      read_value v h.2.1
    have hrest := read_items (w :: rest) (v :: seen) outer (List.cons_ne_nil _ _) h.2.2
    rw [itemLexemes, List.foldlM_append, hfirst]
    show (itemLexemes (w :: rest)).foldlM step (value (.list (v :: seen) :: outer)) = _
    rw [hrest, List.reverse_cons (a := v), List.append_assoc]
    rfl

theorem read_fields : ∀ (fields seen : List (String × Json)) (outer : List Frame), fields ≠ [] →
    ReadableFields (outer.length + 1) fields →
    (fieldLexemes fields).foldlM step (name seen outer) = some (moreFields (fields.reverse ++ seen) outer)
  | [], _, _, hne, _ => absurd rfl hne
  | [(_, v)], _, _, _, h => read_value v h.2.1
  | (n, v) :: w :: rest, seen, outer, _, h => by
    have hfirst : v.lexemes.foldlM step (value (.object seen n :: outer)) =
        some (moreFields ((n, v) :: seen) outer) := read_value v h.2.1
    have hrest := read_fields (w :: rest) ((n, v) :: seen) outer (List.cons_ne_nil _ _) h.2.2
    show (v.lexemes ++ .comma :: fieldLexemes (w :: rest)).foldlM step (value (.object seen n :: outer)) = _
    rw [List.foldlM_append, hfirst]
    show (fieldLexemes (w :: rest)).foldlM step (name ((n, v) :: seen) outer) = _
    rw [hrest, List.reverse_cons (a := (n, v)), List.append_assoc]
    rfl

end

theorem ofLexemes?_lexemes {v : Json} (h : v.Readable 0) : ofLexemes? v.lexemes = some v := by
  have hread : v.lexemes.foldlM step (value []) = some (done v) := read_value v h
  rw [ofLexemes?, hread]

theorem parse?_render {v : Json} (h : v.Readable 0) : parse? v.render = some v := by
  have hsplit := split?_write v h endsWord_nil (show split? [] = some [] by rw [split?])
  rw [List.append_nil, List.append_nil] at hsplit
  rw [parse?, render, String.toList_ofList, hsplit]
  exact ofLexemes?_lexemes h

end Reckon.Json
