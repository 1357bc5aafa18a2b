import Reckon.Proofs.Blame
import Reckon.Proofs.Meaning

/-!
# Words that are looked up

Of the declared names reading asks one thing only: whether a word of the text is among them. It asks that of the words in the
order of the text, up to the first lexeme that is no token (`Vocabulary.lookups`), and vocabularies with the same
answers give the same tokens or the same error (`Vocabulary.tokens_congr`). A word that has been read as a function is in no
vocabulary, since no name is a function's in any letter case; so more names change nothing where a text could be
read without them (`tokenize_depends_on_lookups`).
-/

namespace Reckon

open Lexeme

namespace Lexeme

def word? : Lexeme → Option String
  | word c cs => some (String.ofList (c :: cs))
  | _ => none

/-- The words of a text, from left to right. -/
def words (cs : List Char) : List String := (split cs).filterMap word?

theorem isWord_of_mem_words {cs : List Char} {n : String} (h : n ∈ words cs) : IsWord n.toList := by
  unfold words at h
  fun_induction split cs with
  | case1 => cases h
  | case2 c cs _ ih => exact ih h
  | case3 c cs _ hc ih =>
    rcases List.mem_cons.1 h with rfl | h
    · rw [String.toList_ofList]
      exact Vocabulary.isWord_cons_takeWhile hc cs
    · exact ih h
  | case4 c cs _ _ ih =>
    have hsingle : (single c).word? = none := by
      unfold single
      split
      · rfl
      split
      · rfl
      split <;> rfl
    rw [List.filterMap_cons_none hsingle] at h
    exact ih h

end Lexeme

namespace Vocabulary

variable {v w : Vocabulary} {l : Lexeme} {ls : List Lexeme} {i : Nat} {n : String}

/-- The words that reading the lexemes looks up: those in front of the first lexeme that is no token, and that lexeme if
it is a word. -/
def lookups (v : Vocabulary) : List Lexeme → List String
  | [] => []
  | l :: ls => l.word?.toList ++ if (v.token 0 l).isOk then v.lookups ls else []

theorem lookups_subset (v : Vocabulary) (ls : List Lexeme) : v.lookups ls ⊆ ls.filterMap Lexeme.word? := by
  induction ls with
  | nil => exact List.nil_subset _
  | cons l ls ih =>
    have hcons : (l :: ls).filterMap Lexeme.word? = l.word?.toList ++ ls.filterMap Lexeme.word? := by cases l <;> rfl
    rw [lookups, hcons]
    refine List.append_subset.2 ⟨List.subset_append_left _ _, ?_⟩
    split
    · exact List.subset_append_of_subset_right _ ih
    · exact List.nil_subset _

/-! ### Same answers -/

theorem token_congr (h : ∀ n ∈ l.word?, n ∈ v.names ↔ n ∈ w.names) (i : Nat) : v.token i l = w.token i l := by
  cases l with
  | word c cs => simp only [token, word?, h _ rfl]
  | _ => rfl

theorem isOk_token (i : Nat) (l : Lexeme) : (v.token i l).isOk = (v.token 0 l).isOk := by
  have hshift := token_shift (v := v) i 0 l
  rw [Nat.zero_add] at hshift
  rw [hshift]
  cases v.token 0 l <;> rfl

theorem tokens_congr (h : ∀ n ∈ v.lookups ls, n ∈ v.names ↔ n ∈ w.names) (i : Nat) :
    v.tokens i ls = w.tokens i ls := by
  induction ls generalizing i with
  | nil => rfl
  | cons l ls ih =>
    rw [lookups] at h
    have htoken : v.token i l = w.token i l :=
      token_congr (fun n hn => h n (List.mem_append_left _ (Option.mem_toList.2 hn))) i
    have hok := isOk_token (v := v) i l
    rw [tokens, tokens, ← htoken]
    cases ht : v.token i l with
    | error e => rfl
    | ok t =>
      have htrue : (v.token 0 l).isOk = true := by rw [← hok, ht]; rfl
      rw [if_pos htrue] at h
      rw [ih fun n hn => h n (List.mem_append_right _ hn)]

/-! ### More names -/

/-- What could be read is declared or a function. -/
theorem known_of_tokens {ts : List Token} (h : v.tokens i ls = .ok ts) (hn : n ∈ v.lookups ls) :
    n ∈ v.names ∨ Func.ofWord? n ≠ none := by
  induction ls generalizing i ts with
  | nil => cases hn
  | cons l ls ih =>
    obtain ⟨t, rest, ht, hrest, -⟩ := tokens_cons_eq_ok.1 h
    rw [lookups] at hn
    rcases List.mem_append.1 hn with hn | hn
    · cases l with
      | word c cs =>
        cases List.mem_singleton.1 hn
        by_contra hunknown
        rw [not_or, not_not] at hunknown
        simp only [token, word?, if_neg hunknown.1, hunknown.2] at ht
        cases ht
      | _ => cases hn
    · split at hn
      · exact ih hrest hn
      · cases hn

theorem tokenize_of_subset (h : ∀ n ∈ v.names, n ∈ w.names) {s : String} {ts : List Token}
    (ht : v.tokenize s = .ok ts) : w.tokenize s = .ok ts := by
  have hsame : ∀ n ∈ v.lookups (split s.toList), n ∈ v.names ↔ n ∈ w.names := by
    intro n hn
    rcases known_of_tokens ht hn with hv | hf
    · exact ⟨fun _ => h n hv, fun _ => hv⟩
    · exact ⟨fun hv => h n hv, fun hw => absurd (w.unreserved n hw) hf⟩
  rw [tokenize, ← tokens_congr hsame]
  exact ht

end Vocabulary

open Vocabulary

theorem Expression.map_tokens_compile {names : List String} {v : Vocabulary} (hv : ofNames names = .ok v)
    (source : String) : (compile source names).map (·.tokens) =
      (v.tokenize source).mapError .lex >>= fun ts => (toPostfix ts).mapError .group := by
  simp only [compile, hv, Except.mapError, bind, Except.bind]
  cases v.tokenize source with
  | error e => rfl
  | ok ts => cases h : toPostfix ts <;> simp [Except.map, h, pure, Except.pure]

/-- What is declared matters only by the words that reading looks up. What can be read with some names is read the same with
more; names that agree on the words looked up give the same tokens or the same error; and names that are no
words, or none of the text's, have no part in what is compiled. -/
theorem tokenize_depends_on_lookups {ms ns : List String} {v w : Vocabulary} (hv : ofNames ms = .ok v)
    (hw : ofNames ns = .ok w) (s : String) :
    ((∀ n ∈ ms, n ∈ ns) → ∀ ts, v.tokenize s = .ok ts → w.tokenize s = .ok ts) ∧
    ((∀ n ∈ v.lookups (split s.toList), n ∈ ms ↔ n ∈ ns) → v.tokenize s = w.tokenize s) ∧
    ((∀ n, (n ∈ ms ↔ n ∈ ns) ∨ ¬IsWord n.toList ∨ n ∉ words s.toList) → v.tokenize s = w.tokenize s ∧
      (Expression.compile s ms).map (·.tokens) = (Expression.compile s ns).map (·.tokens)) := by
  have hms (n : String) : n ∈ v.names ↔ n ∈ ms := by rw [names_of_ofNames hv, mem_sortNames]
  have hns (n : String) : n ∈ w.names ↔ n ∈ ns := by rw [names_of_ofNames hw, mem_sortNames]
  have same (h : ∀ n ∈ v.lookups (split s.toList), n ∈ ms ↔ n ∈ ns) : v.tokenize s = w.tokenize s :=
    tokens_congr (fun n hn => by rw [hms, hns, h n hn]) 0
  refine ⟨fun h ts ht => tokenize_of_subset (fun n hn => (hns n).2 (h n ((hms n).1 hn))) ht, same, fun h => ?_⟩
  have hsame : v.tokenize s = w.tokenize s := by
    refine same fun n hn => ?_
    have hword : n ∈ words s.toList := v.lookups_subset _ hn
    rcases h n with h | h | h
    · exact h
    · exact absurd (isWord_of_mem_words hword) h
    · exact absurd hword h
  exact ⟨hsame, by rw [Expression.map_tokens_compile hv, Expression.map_tokens_compile hw, hsame]⟩

/-- A function in capitals beside a name that contains it, and reading that stops before a name is reached that one of the
two sets lacks; then names that are no words or not the text's. -/
theorem tokenize_depends_on_lookups_stopped :
    let v : Vocabulary := ⟨["sinx", "x"], by decide, by decide⟩
    let w : Vocabulary := ⟨["2x", "sinx", "x", "y"], by decide, by decide⟩
    ofNames ["x", "sinx"] = .ok v ∧ ofNames ["y", "x", "2x", "sinx", "x"] = .ok w ∧
      (∀ ts, v.tokenize "SIN(sinx)+2x" = .ok ts → w.tokenize "SIN(sinx)+2x" = .ok ts) ∧
      v.tokenize "x $ y" = w.tokenize "x $ y" ∧
      (Expression.compile "2x" ["x", "sinx"]).map (·.tokens) =
        (Expression.compile "2x" ["y", "x", "2x", "sinx", "x"]).map (·.tokens) := by
  intro v w
  have hv : ofNames ["x", "sinx"] = .ok v := rfl
  have hw : ofNames ["y", "x", "2x", "sinx", "x"] = .ok w := rfl
  obtain ⟨hmore, -, -⟩ := tokenize_depends_on_lookups hv hw "SIN(sinx)+2x"
  obtain ⟨-, hlookups, -⟩ := tokenize_depends_on_lookups hv hw "x $ y"
  obtain ⟨-, -, hwords⟩ := tokenize_depends_on_lookups hv hw "2x"
  have hstopped : v.lookups (split "x $ y".toList) = ["x"] := by decide +kernel
  have htext : words "2x".toList = ["x"] := by decide +kernel
  refine ⟨hv, hw, hmore (by simp), hlookups ?_, (hwords fun n => ?_).2⟩
  · rw [hstopped]
    simp
  · rw [htext]
    by_cases hn : n = "x"
    · exact .inl (by simp [hn])
    · exact .inr (.inr (by simpa using hn))

end Reckon
