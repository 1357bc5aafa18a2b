import Mathlib.Data.List.Basic
import Reckon.Proofs.Spelling

/-!
# Texts side by side

Two texts are split as each of them is, if the first does not end in a lexeme that goes on in the second
(`Lexeme.split_append`). Then their tokens stand side by side too, and an error of the second text is found further
behind (`Vocabulary.tokens_split_append`). Spaces keep any two texts apart, so that they matter between lexemes only
that would become one without them (`Vocabulary.tokenize_append`).
-/

namespace Reckon

namespace Lexeme

/-- The character would belong to a longer lexeme. -/
def extendedBy (c : Char) : Lexeme → Bool
  | numeral _ _ => isNumeralChar c
  | word _ _ => isWordChar c
  | _ => false

/-- The last lexeme of `a` does not go on at the beginning of `b`. -/
def Apart (a b : List Char) : Prop := ∀ l ∈ (split a).getLast?, ∀ c ∈ b.head?, l.extendedBy c = false

/-- Whatever does not go on with the lexeme leaves it the first one of a text. -/
def Complete (l : Lexeme) : Prop :=
  l.text ≠ [] ∧ ∀ cs, (∀ c ∈ cs.head?, l.extendedBy c = false) → split (l.text ++ cs) = l :: split cs

variable {a b cs : List Char} {l : Lexeme}

theorem extendedBy_single (c d : Char) : (single c).extendedBy d = false := by
  unfold single
  split
  · rfl
  split
  · rfl
  split <;> rfl

theorem exists_complete (c : Char) (cs : List Char) : ∃ l rest, c :: cs = l.text ++ rest ∧ Complete l ∧
    ∀ d ∈ rest.head?, l.extendedBy d = false := by
  by_cases hn : isNumeralChar c = true
  · refine ⟨.numeral c (cs.takeWhile isNumeralChar), cs.dropWhile isNumeralChar, ?_,
      ⟨List.cons_ne_nil _ _, fun us hus => split_numeral hn (fun d hd => List.mem_takeWhile_imp hd) hus⟩,
      not_of_mem_head?_dropWhile⟩
    rw [text, List.cons_append, List.takeWhile_append_dropWhile]
  by_cases hw : isWordStart c = true
  · refine ⟨.word c (cs.takeWhile isWordChar), cs.dropWhile isWordChar, ?_,
      ⟨List.cons_ne_nil _ _, fun us hus => split_word hw (fun d hd => List.mem_takeWhile_imp hd) hus⟩,
      not_of_mem_head?_dropWhile⟩
    rw [text, List.cons_append, List.takeWhile_append_dropWhile]
  · refine ⟨single c, cs, by rw [text_single]; rfl, ⟨by simp, fun us _ => ?_⟩, fun d _ => extendedBy_single c d⟩
    rw [text_single]
    exact split_single (Bool.eq_false_of_not_eq_true hn) (Bool.eq_false_of_not_eq_true hw)

/-- Induction on a text from its end, one lexeme at a time. -/
@[elab_as_elim]
theorem split_induction {motive : List Char → Prop} (nil : motive [])
    (lexeme : ∀ l rest, Complete l → (∀ c ∈ rest.head?, l.extendedBy c = false) → motive rest → motive (l.text ++ rest))
    (cs : List Char) : motive cs := by
  induction hn : cs.length using Nat.strongRecOn generalizing cs with
  | ind n ih =>
    cases cs with
    | nil => exact nil
    | cons c cs =>
      obtain ⟨l, rest, he, hl, hend⟩ := exists_complete c cs
      rw [he] at hn ⊢
      have hpos := List.length_pos_iff.2 hl.1
      rw [List.length_append] at hn
      exact lexeme l rest hl hend (ih rest.length (by omega) rest rfl)

theorem split_eq_nil_iff : split cs = [] ↔ cs = [] := by
  induction cs using split_induction with
  | nil => simp [split]
  | lexeme l rest hl hend _ => simp [hl.2 rest hend, hl.1]

theorem apart_nil_left (b : List Char) : Apart [] b := by simp [Apart, split]

/-- A text is apart from what does not go on with its last lexeme, be it the first one too. -/
theorem apart_append_iff (hl : Complete l) (hend : ∀ c ∈ cs.head?, l.extendedBy c = false) :
    Apart (l.text ++ cs) b ↔ Apart cs b ∧ ∀ c ∈ (cs ++ b).head?, l.extendedBy c = false := by
  rw [Apart, hl.2 cs hend]
  cases cs with
  | nil => simp [Apart, split]
  | cons d cs =>
    obtain ⟨m, ms, hms⟩ := List.exists_cons_of_ne_nil (split_eq_nil_iff.not.2 (List.cons_ne_nil d cs))
    rw [Apart, hms, List.getLast?_cons_cons]
    exact (and_iff_left hend).symm

theorem split_append (h : Apart a b) : split (a ++ b) = split a ++ split b := by
  induction a using split_induction with
  | nil => simp [split]
  | lexeme l rest hl hend ih =>
    obtain ⟨hrest, hgo⟩ := (apart_append_iff hl hend).1 h
    rw [List.append_assoc, hl.2 _ hgo, hl.2 rest hend, ih hrest, List.cons_append]

theorem apart_space (a b : List Char) : Apart a (' ' :: b) := by
  rintro l - c ⟨⟩
  cases l <;> rfl

theorem split_spaces (k : Nat) (cs : List Char) :
    split (List.replicate k ' ' ++ cs) = List.replicate k .blank ++ split cs := by
  induction k with
  | zero => rfl
  | succ k ih => rw [List.replicate_succ, List.cons_append, split_space, ih, List.replicate_succ, List.cons_append]

theorem apart_replicate (a b : List Char) {k : Nat} (h : k = 0 → Apart a b) : Apart a (List.replicate k ' ' ++ b) := by
  cases k with
  | zero => exact h rfl
  | succ k => exact apart_space a _

/-- The lexemes of a text are as long as the text. -/
theorem length_flatMap_text_split (cs : List Char) : ((split cs).flatMap text).length = cs.length :=
  congrArg List.length (text_split cs)

end Lexeme

/-- The same error, found so much further behind. -/
def LexError.shift (n : Nat) : LexError → LexError
  | character c i => character c (i + n)
  | numeral c cs i => numeral c cs (i + n)
  | identifier c cs i => identifier c cs (i + n)

namespace Vocabulary

open Lexeme

variable {v : Vocabulary} {a b : List Char}

theorem token_shift (n i : Nat) (l : Lexeme) : v.token (i + n) l = (v.token i l).mapError (·.shift n) := by
  cases l with
  | blank => rfl
  | numeral c cs => simp only [token]; split <;> rfl
  | word c cs => simp only [token]; split <;> rfl
  | op o => rfl
  | bracket b => rfl
  | stray c => rfl

theorem tokens_shift (n i : Nat) (ls : List Lexeme) : v.tokens (i + n) ls = (v.tokens i ls).mapError (·.shift n) := by
  induction ls generalizing i with
  | nil => rfl
  | cons l ls ih =>
    rw [tokens, tokens, token_shift, Nat.add_right_comm, ih]
    cases v.token i l with
    | error e => rfl
    | ok t => cases v.tokens (i + l.length) ls <;> rfl

theorem tokens_append (i : Nat) (ls ms : List Lexeme) : v.tokens i (ls ++ ms) = do
    let ts ← v.tokens i ls
    let us ← v.tokens (i + (ls.flatMap Lexeme.text).length) ms
    return ts ++ us := by
  induction ls generalizing i with
  | nil => exact (bind_pure _).symm
  | cons l ls ih =>
    have hlen : i + ((l :: ls).flatMap Lexeme.text).length = i + l.length + (ls.flatMap Lexeme.text).length := by
      rw [List.flatMap_cons, List.length_append, ← Nat.add_assoc]
      rfl
    simp only [List.cons_append, tokens, ih, hlen, bind_assoc, pure_bind, List.append_assoc]

theorem tokens_spaces (i k : Nat) (ls : List Lexeme) :
    v.tokens i (List.replicate k .blank ++ ls) = v.tokens (i + k) ls := by
  induction k generalizing i with
  | zero => rfl
  | succ k ih =>
    rw [List.replicate_succ, List.cons_append, tokens, Nat.add_comm k 1, ← Nat.add_assoc, ← ih]
    show (v.tokens (i + 1) _ >>= _) = _
    cases v.tokens (i + 1) (List.replicate k .blank ++ ls) <;> rfl

/-- Texts that are apart are read one behind the other. -/
theorem tokens_split_append (i : Nat) (h : Apart a b) : v.tokens i (split (a ++ b)) = do
    let ts ← v.tokens i (split a)
    let us ← v.tokens (i + a.length) (split b)
    return ts ++ us := by
  rw [split_append h, tokens_append, length_flatMap_text_split]

theorem tokenize_spaced {a b : String} {k : Nat} (h : k = 0 → Apart a.toList b.toList) :
    v.tokenize (a ++ String.ofList (List.replicate k ' ') ++ b) = do
      let ts ← v.tokenize a
      let us ← (v.tokenize b).mapError (·.shift (a.length + k))
      return ts ++ us := by
  have hshift := tokens_shift (v := v) (a.length + k) 0 (split b.toList)
  rw [Nat.zero_add] at hshift
  rw [tokenize, String.toList_append, String.toList_append, String.toList_ofList, List.append_assoc,
    tokens_split_append 0 (apart_replicate _ _ h), split_spaces, tokens_spaces, String.length_toList, Nat.zero_add,
    hshift]
  rfl

/-- Two texts with spaces between them, or apart without one, have the tokens of both, or the error of the first, or
else the error of the second, found as much further behind as the second text is. So how many spaces stand between
two texts does not matter, and whether there are any only if a lexeme would go on without them. -/
theorem tokenize_append (v : Vocabulary) (a b : String) :
    (∀ k, (k = 0 → Apart a.toList b.toList) →
      v.tokenize (a ++ String.ofList (List.replicate k ' ') ++ b) = do
        let ts ← v.tokenize a
        let us ← (v.tokenize b).mapError (·.shift (a.length + k))
        return ts ++ us) ∧
    ∀ j k, (j = 0 ∨ k = 0 → Apart a.toList b.toList) → ∀ ts,
      v.tokenize (a ++ String.ofList (List.replicate j ' ') ++ b) = .ok ts ↔
        v.tokenize (a ++ String.ofList (List.replicate k ' ') ++ b) = .ok ts := by
  refine ⟨fun k hk => tokenize_spaced hk, fun j k hjk ts => ?_⟩
  rw [tokenize_spaced fun hj => hjk (.inl hj), tokenize_spaced fun hk => hjk (.inr hk)]
  cases v.tokenize a with
  | error e => rfl
  | ok us =>
    cases v.tokenize b with
    | error e => simp [Except.mapError, bind, Except.bind]
    | ok vs => rfl

end Vocabulary

end Reckon
