import Reckon.Proofs.Cut
import Reckon.Proofs.Joining

/-!
# The lexeme to blame

Reading fails at the first lexeme that is no token: a run of digits and points that is no literal, a word that is
neither declared nor a function, or a character that begins no lexeme (`LexError.Blames`). What stands in front of it
can be read, and what comes behind its end is not looked at (`Vocabulary.tokenize_blames_first`).
-/

namespace Reckon

open Lexeme

namespace LexError

/-- The error says what is wrong with the lexeme at the beginning of the text. -/
def Blames (names : List String) (cs : List Char) : LexError → Prop
  | character c _ => cs.head? = some c ∧ c ≠ ' ' ∧ isNumeralChar c = false ∧ isWordStart c = false ∧
      (∀ o : Operator, o.symbol ≠ c) ∧ ∀ b : Bracket, b.symbol ≠ c
  | numeral c w _ => cs.takeWhile isNumeralChar = c :: w ∧ ¬Numeral.IsLiteral (c :: w)
  | identifier c w _ => cs.takeWhile isWordChar = c :: w ∧ isWordStart c = true ∧ String.ofList (c :: w) ∉ names ∧
      ∀ f : Func, (c :: w).map Char.toLower ≠ f.name.toList

/-- The character would belong to a longer lexeme to blame. -/
def extendedBy (c : Char) : LexError → Bool
  | character _ _ => false
  | numeral _ _ _ => isNumeralChar c
  | identifier _ _ _ => isWordChar c

variable {names : List String} {cs us : List Char} {e : LexError}

theorem exists_lexeme (e : LexError) : ∃ w, e.lexeme = e.char :: w := by
  cases e with
  | character c i => exact ⟨[], rfl⟩
  | numeral c w i => exact ⟨w, rfl⟩
  | identifier c w i => exact ⟨w, rfl⟩

/-- The lexeme is at the beginning of the text, and nothing behind it goes on with it. -/
theorem Blames.exists_rest (h : e.Blames names cs) :
    ∃ rest, cs = e.lexeme ++ rest ∧ ∀ c ∈ rest.head?, e.extendedBy c = false := by
  cases e with
  | character c i =>
    obtain ⟨hc, -⟩ := h
    obtain ⟨rest, rfl⟩ := List.head?_eq_some_iff.1 hc
    exact ⟨rest, rfl, fun _ _ => rfl⟩
  | numeral c w i =>
    refine ⟨cs.dropWhile isNumeralChar, ?_, not_of_mem_head?_dropWhile⟩
    rw [lexeme, ← h.1, List.takeWhile_append_dropWhile]
  | identifier c w i =>
    refine ⟨cs.dropWhile isWordChar, ?_, not_of_mem_head?_dropWhile⟩
    rw [lexeme, ← h.1, List.takeWhile_append_dropWhile]

/-- What comes behind the lexeme does not matter. -/
theorem Blames.congr (h : e.Blames names cs) (hus : ∀ c ∈ us.head?, e.extendedBy c = false) :
    e.Blames names (e.lexeme ++ us) := by
  cases e with
  | character c i => exact ⟨rfl, h.2⟩
  | numeral c w i =>
    have hw : ∀ d ∈ c :: w, isNumeralChar d = true := fun d hd => List.mem_takeWhile_imp (h.1 ▸ hd)
    exact ⟨takeWhile_append_boundary hw hus, h.2⟩
  | identifier c w i =>
    have hw : ∀ d ∈ c :: w, isWordChar d = true := fun d hd => List.mem_takeWhile_imp (h.1 ▸ hd)
    exact ⟨takeWhile_append_boundary hw hus, h.2⟩

end LexError

namespace Vocabulary

variable {v : Vocabulary} {cs p q : List Char} {l : Lexeme} {ls : List Lexeme} {i : Nat} {e : LexError}

/-! ### One lexeme -/

theorem blames_of_single {c : Char} (hn : isNumeralChar c = false) (hw : isWordStart c = false)
    (h : v.token i (single c) = .error e) : e.offset = i ∧ e.Blames v.names (c :: cs) := by
  unfold single at h
  split at h
  · cases h
  next hspace =>
  split at h
  · cases h
  next ho =>
  split at h
  · cases h
  next hb =>
  cases h
  refine ⟨rfl, rfl, hspace, hn, hw, ?_, ?_⟩
  · rintro o rfl
    rw [Operator.ofSymbol?_symbol] at ho
    cases ho
  · rintro b rfl
    rw [Bracket.ofSymbol?_symbol] at hb
    cases hb

theorem blames_of_token (hl : split cs = l :: ls) (h : v.token i l = .error e) :
    e.offset = i ∧ e.Blames v.names cs := by
  cases cs with
  | nil => simp [split] at hl
  | cons c cs =>
    rw [split] at hl
    split at hl
    · next hc =>
      cases hl
      rw [token] at h
      split at h
      · cases h
      next hnone =>
      cases h
      refine ⟨rfl, List.takeWhile_cons_of_pos hc, fun hliteral => ?_⟩
      obtain ⟨d, hd⟩ := hliteral.exists_plain
      rw [hd] at hnone
      cases hnone
    next hn =>
    split at hl
    · next hc =>
      cases hl
      rw [token] at h
      split at h
      · cases h
      next hnone =>
      cases h
      have hword := isWord_cons_takeWhile hc cs
      rw [word?] at hnone
      split at hnone
      · cases hnone
      next hname =>
      refine ⟨rfl, List.takeWhile_cons_of_pos (hword.2 c List.mem_cons_self), hc, hname, fun f hf => ?_⟩
      rw [Func.ofWord?_of_lower hword hf] at hnone
      cases hnone
    · next hw =>
      cases hl
      exact blames_of_single (Bool.eq_false_of_not_eq_true hn) (Bool.eq_false_of_not_eq_true hw) h

theorem tokens_of_blames (h : e.Blames v.names cs) : v.tokens e.offset (split cs) = .error e := by
  obtain ⟨rest, rfl, hend⟩ := h.exists_rest
  cases e with
  | character c i =>
    obtain ⟨-, hspace, hn, hw, ho, hb⟩ := h
    have hstray : single c = .stray c := by
      have hop : Operator.ofSymbol? c = none := Option.eq_none_iff_forall_ne_some.2 fun o hc =>
        ho o (Operator.symbol_of_ofSymbol? hc)
      have hbracket : Bracket.ofSymbol? c = none := Option.eq_none_iff_forall_ne_some.2 fun b hc =>
        hb b (Bracket.symbol_of_ofSymbol? hc)
      simp only [single, if_neg hspace, hop, hbracket]
    rw [LexError.lexeme, List.singleton_append, split_single hn hw, hstray]
    rfl
  | numeral c w i =>
    obtain ⟨hrun, hliteral⟩ := h
    have hchars : ∀ d ∈ c :: w, isNumeralChar d = true := fun d hd => List.mem_takeWhile_imp (hrun ▸ hd)
    have hnone : Numeral.plain? (c :: w) = none := Option.eq_none_iff_forall_ne_some.2 fun d hd =>
      hliteral (Numeral.isLiteral_of_plain? hd)
    obtain ⟨hc, hw⟩ := List.forall_mem_cons.1 hchars
    rw [LexError.lexeme, split_numeral hc hw hend, tokens, token, hnone]
    rfl
  | identifier c w i =>
    obtain ⟨hrun, hc, hname, hfunc⟩ := h
    have hchars : ∀ d ∈ c :: w, isWordChar d = true := fun d hd => List.mem_takeWhile_imp (hrun ▸ hd)
    have hnone : v.word? (String.ofList (c :: w)) = none := by
      have hword : IsWord (c :: w) := ⟨⟨c, w, rfl, hc⟩, hchars⟩
      rw [word?, if_neg hname, Option.map_eq_none_iff, Option.eq_none_iff_forall_ne_some]
      exact fun f hf => hfunc f (Func.lower_of_ofWord? hword hf)
    rw [LexError.lexeme, split_word hc (List.forall_mem_cons.1 hchars).2 hend, tokens, token, hnone]
    rfl

/-! ### Texts -/

/-- Where reading fails, and what can be read in front of it. -/
theorem exists_blames_of_tokens (h : v.tokens i (split cs) = .error e) : ∃ p q ts, cs = p ++ q ∧ Apart p q ∧
    v.tokens i (split p) = .ok ts ∧ e.offset = i + p.length ∧ e.Blames v.names q := by
  induction cs using split_induction generalizing i with
  | nil => simp [split, tokens] at h
  | lexeme l rest hl hend ih =>
    have hsplit := hl.2 rest hend
    rw [hsplit, tokens] at h
    cases ht : v.token i l with
    | error e' =>
      rw [ht] at h
      cases h
      obtain ⟨hi, hb⟩ := blames_of_token hsplit ht
      exact ⟨[], _, [], rfl, apart_nil_left _, by simp [split, tokens], hi, hb⟩
    | ok t =>
      have hrest : v.tokens (i + l.length) (split rest) = .error e := by
        rw [ht] at h
        cases hr : v.tokens (i + l.length) (split rest) with
        | error e' => rw [hr] at h; exact h
        | ok ts => rw [hr] at h; cases h
      obtain ⟨p, q, ts, rfl, happart, hp, hoffset, hb⟩ := ih hrest
      have hfront : ∀ c ∈ p.head?, l.extendedBy c = false := by
        cases p with
        | nil => simp
        | cons c p => exact hend
      refine ⟨l.text ++ p, q, t.toList ++ ts, by rw [List.append_assoc], (apart_append_iff hl hfront).2 ⟨happart, hend⟩,
        ?_, ?_, hb⟩
      · rw [hl.2 p hfront, tokens_cons_eq_ok]
        exact ⟨t, ts, ht, hp, rfl⟩
      · rw [hoffset, List.length_append, Nat.add_assoc]
        rfl

theorem tokens_eq_error_iff : v.tokens i (split cs) = .error e ↔ ∃ p q ts, cs = p ++ q ∧ Apart p q ∧
    v.tokens i (split p) = .ok ts ∧ e.offset = i + p.length ∧ e.Blames v.names q := by
  constructor
  · exact exists_blames_of_tokens
  · rintro ⟨p, q, ts, rfl, happart, hp, hoffset, hb⟩
    rw [tokens_split_append i happart, hp, ← hoffset, tokens_of_blames hb]
    rfl

/-- Reading fails at an offset exactly if no lexeme goes on there, the text in front of it can be read, and the lexeme
that begins there is to blame. The character of the error is the one at the offset. The text may go on differently
behind the lexeme, or end there: the error stays the same. -/
theorem tokenize_blames_first (v : Vocabulary) (s : String) (e : LexError) :
    (v.tokenize s = .error e ↔ Apart (s.toList.take e.offset) (s.toList.drop e.offset) ∧
      (∃ ts, v.tokenize (String.ofList (s.toList.take e.offset)) = .ok ts) ∧
      e.Blames v.names (s.toList.drop e.offset)) ∧
    (v.tokenize s = .error e → s.toList[e.offset]? = some e.char ∧
      ∀ rest : List Char, (∀ c ∈ rest.head?, e.extendedBy c = false) →
        v.tokenize (String.ofList (s.toList.take (e.offset + e.lexeme.length) ++ rest)) = .error e) := by
  have hiff : v.tokenize s = .error e ↔ _ := tokens_eq_error_iff (i := 0)
  constructor
  · rw [hiff]
    constructor
    · rintro ⟨p, q, ts, hs, happart, hp, hoffset, hb⟩
      rw [Nat.zero_add] at hoffset
      rw [hs, hoffset, List.take_left, List.drop_left, tokenize, String.toList_ofList]
      exact ⟨happart, ⟨ts, hp⟩, hb⟩
    · rintro ⟨happart, ⟨ts, hp⟩, hb⟩
      rw [tokenize, String.toList_ofList] at hp
      have hlt : e.offset < s.toList.length := by
        obtain ⟨rest, hrest, -⟩ := hb.exists_rest
        obtain ⟨w, hw⟩ := e.exists_lexeme
        rw [← Nat.not_le, ← List.drop_eq_nil_iff, hrest, hw]
        exact List.cons_ne_nil _ _
      refine ⟨_, _, ts, (List.take_append_drop e.offset s.toList).symm, happart, hp, ?_, hb⟩
      rw [Nat.zero_add, List.length_take_of_le (Nat.le_of_lt hlt)]
  · intro h
    obtain ⟨p, q, ts, hs, happart, hp, hoffset, hb⟩ := hiff.1 h
    obtain ⟨tail, rfl, -⟩ := hb.exists_rest
    obtain ⟨w, hw⟩ := e.exists_lexeme
    have hhead : ∀ us, (e.lexeme ++ us).head? = some e.char := fun us => by rw [hw]; rfl
    constructor
    · rw [hs, hoffset, Nat.zero_add, List.getElem?_append_right (Nat.le_refl _), Nat.sub_self, ← List.head?_eq_getElem?]
      exact hhead tail
    · intro rest hrest
      have htake : s.toList.take (e.offset + e.lexeme.length) = p ++ e.lexeme := by
        rw [hs, hoffset, Nat.zero_add, List.take_length_add_append, List.take_left]
      rw [Apart, hhead] at happart
      rw [htake, List.append_assoc, tokenize, String.toList_ofList]
      refine tokens_eq_error_iff.2 ⟨p, _, ts, rfl, ?_, hp, hoffset, hb.congr hrest⟩
      rwa [Apart, hhead]

end Vocabulary

end Reckon
