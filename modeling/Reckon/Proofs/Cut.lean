import Reckon.Proofs.Spelling

/-!
# Cutting a text into spellings

A cut divides a text into spaces and spellings of tokens, each as long as it can be. What can be read has a
cut, and its tokens are the ones spelled there; what has a cut can be read, and has no other one
(`Vocabulary.tokenize_eq_ok_iff_cut`). For the way back a cut is found in the lexemes of the text
(`exists_cut_of_tokens`), for uniqueness every cut is recovered from them (`Cut.eq_map_piece`).
-/

namespace Reckon

open Lexeme

inductive Piece
  | space
  | spelling (w : List Char) (t : Token)

namespace Piece

def text : Piece → List Char
  | space => [' ']
  | spelling w _ => w

def token? : Piece → Option Token
  | space => none
  | spelling _ t => some t

end Piece

/-- The pieces make up the text, and no spelling among them goes on behind its end. -/
inductive Cut (names : List String) : List Char → List Piece → Prop
  | nil : Cut names [] []
  | space {cs : List Char} {ps : List Piece} : Cut names cs ps → Cut names (' ' :: cs) (.space :: ps)
  | spelling {w cs : List Char} {t : Token} {ps : List Piece} : Spells names w t →
      (∀ c ∈ cs.head?, t.extendedBy c = false) → Cut names cs ps → Cut names (w ++ cs) (.spelling w t :: ps)

namespace Vocabulary

variable {v : Vocabulary} {cs : List Char} {ps : List Piece}

/-! ### From lexemes to a cut -/

theorem spells_of_numeral {i : Nat} {c : Char} {w : List Char} {t : Option Token}
    (h : v.token i (.numeral c w) = .ok t) : ∃ x, t = some (.num x) ∧ Spells v.names (c :: w) (.num x) := by
  rw [token] at h
  split at h
  · next d hd =>
    cases h
    have hl := Numeral.isLiteral_of_plain? hd
    exact ⟨_, rfl, .num hl (hl.typed?_eq hd)⟩
  · cases h

theorem spells_of_word {i : Nat} {c : Char} {w : List Char} {t : Option Token} (hw : IsWord (c :: w))
    (h : v.token i (.word c w) = .ok t) :
    ∃ u, t = some u ∧ Spells v.names (c :: w) u ∧ ∀ d, u.extendedBy d = isWordChar d := by
  rw [token] at h
  split at h
  · next u hu =>
    cases h
    refine ⟨u, rfl, ?_⟩
    rw [word?] at hu
    split at hu
    · next hn =>
      cases hu
      exact ⟨.var hw hn, fun _ => rfl⟩
    · obtain ⟨f, hf, rfl⟩ := Option.map_eq_some_iff.1 hu
      exact ⟨.fn hw (Func.lower_of_ofWord? hw hf), fun _ => rfl⟩
  · cases h

/-- A character alone is a space, or it spells a token that has no longer spelling. -/
theorem spells_of_single {i : Nat} {c : Char} {t : Option Token} (h : v.token i (single c) = .ok t) :
    (c = ' ' ∧ t = none) ∨ ∃ u, t = some u ∧ Spells v.names [c] u ∧ ∀ d, u.extendedBy d = false := by
  unfold single at h
  split at h
  · next hc =>
    cases h
    exact .inl ⟨hc, rfl⟩
  split at h
  · next o ho =>
    cases h
    rw [← Operator.symbol_of_ofSymbol? ho]
    exact .inr ⟨.op o, rfl, .op o, fun _ => rfl⟩
  split at h
  · next b hb =>
    cases h
    rw [← Bracket.symbol_of_ofSymbol? hb]
    exact .inr ⟨.bracket b, rfl, .bracket b, fun _ => rfl⟩
  · cases h

theorem isWord_cons_takeWhile {c : Char} (hc : isWordStart c = true) (cs : List Char) :
    IsWord (c :: cs.takeWhile isWordChar) := by
  have hstart : isWordChar c = true := by
    delta isWordChar Char.isAlphanum
    delta isWordStart at hc
    rw [Bool.or_eq_true] at hc
    rcases hc with hc | hc
    · rw [hc]; rfl
    · rw [hc, Bool.or_true]
  exact ⟨⟨c, _, rfl, hc⟩, List.forall_mem_cons.2 ⟨hstart, fun d hd => List.mem_takeWhile_imp hd⟩⟩

theorem exists_cut_of_tokens {i : Nat} {ts : List Token} (h : v.tokens i (split cs) = .ok ts) :
    ∃ ps, Cut v.names cs ps ∧ ps.filterMap Piece.token? = ts := by
  fun_induction split cs generalizing i ts with
  | case1 =>
    cases h
    exact ⟨[], .nil, rfl⟩
  | case2 c cs hc ih =>
    obtain ⟨t, rest, ht, hrest, rfl⟩ := tokens_cons_eq_ok.1 h
    obtain ⟨x, rfl, hs⟩ := spells_of_numeral ht
    obtain ⟨ps, hps, rfl⟩ := ih hrest
    have hend : ∀ d ∈ (cs.dropWhile isNumeralChar).head?, isNumeralChar d = false := not_of_mem_head?_dropWhile
    have hcut := Cut.spelling hs hend hps
    rw [List.cons_append, List.takeWhile_append_dropWhile] at hcut
    exact ⟨_, hcut, rfl⟩
  | case3 c cs _ hc ih =>
    obtain ⟨t, rest, ht, hrest, rfl⟩ := tokens_cons_eq_ok.1 h
    obtain ⟨u, rfl, hs, hu⟩ := spells_of_word (isWord_cons_takeWhile hc cs) ht
    obtain ⟨ps, hps, rfl⟩ := ih hrest
    have hcut := Cut.spelling hs (fun d hd => (hu d).trans (not_of_mem_head?_dropWhile d hd)) hps
    rw [List.cons_append, List.takeWhile_append_dropWhile] at hcut
    exact ⟨_, hcut, rfl⟩
  | case4 c cs _ _ ih =>
    obtain ⟨t, rest, ht, hrest, rfl⟩ := tokens_cons_eq_ok.1 h
    obtain ⟨ps, hps, rfl⟩ := ih hrest
    rcases spells_of_single ht with ⟨rfl, rfl⟩ | ⟨u, rfl, hs, hu⟩
    · exact ⟨.space :: ps, .space hps, rfl⟩
    · exact ⟨.spelling [c] u :: ps, .spelling hs (fun d _ => hu d) hps, rfl⟩

/-! ### From a cut to the lexemes -/

/-- What a lexeme is in a cut. -/
def piece (v : Vocabulary) (l : Lexeme) : Piece :=
  match v.token 0 l with
  | .ok (some t) => .spelling l.text t
  | _ => .space

end Vocabulary

namespace Cut

variable {names : List String} {cs : List Char} {ps : List Piece}

theorem flatMap_text (h : Cut names cs ps) : ps.flatMap Piece.text = cs := by
  induction h with
  | nil => rfl
  | space _ ih => rw [List.flatMap_cons, ih]; rfl
  | spelling _ _ _ ih => rw [List.flatMap_cons, ih]; rfl

theorem written (h : Cut names cs ps) : Written names cs (ps.filterMap Piece.token?) := by
  induction h with
  | nil => exact .nil
  | space _ ih => exact .space ih
  | spelling hs hcs _ ih => exact .token hs hcs ih

theorem eq_map_piece {v : Vocabulary} (h : Cut v.names cs ps) : ps = (split cs).map v.piece := by
  induction h with
  | nil => rw [split]; rfl
  | space _ ih =>
    rw [split_space, List.map_cons, ← ih]
    rfl
  | @spelling w cs t ps hs hcs _ ih =>
    obtain ⟨l, hl, ht⟩ := Vocabulary.tokens_of_spells (fun _ => Iff.rfl) hs hcs
    have htext : l.text = w := by
      have hall := text_split (w ++ cs)
      rw [hl, List.flatMap_cons, text_split] at hall
      exact List.append_cancel_right hall
    rw [hl, List.map_cons, ← ih, Vocabulary.piece, ht, htext]

end Cut

/-- A text can be read exactly if it divides into spaces and the longest spellings of tokens: numbers, declared
names, functions in any letter case, operators and brackets. The pieces cover the text, there is one way to
divide it, and the tokens read are the ones spelled, in order. -/
theorem Vocabulary.tokenize_eq_ok_iff_cut (v : Vocabulary) (s : String) :
    (∀ ts, v.tokenize s = .ok ts ↔ ∃ ps, Cut v.names s.toList ps ∧ ps.filterMap Piece.token? = ts) ∧
      ∀ ps, Cut v.names s.toList ps →
        ps.flatMap Piece.text = s.toList ∧ ∀ qs, Cut v.names s.toList qs → qs = ps := by
  refine ⟨fun ts => ⟨exists_cut_of_tokens, ?_⟩, fun ps h => ⟨h.flatMap_text, fun qs hq => ?_⟩⟩
  · rintro ⟨ps, h, rfl⟩
    exact tokenize_of_written (fun _ => Iff.rfl) h.written
  · rw [h.eq_map_piece, hq.eq_map_piece]

end Reckon
