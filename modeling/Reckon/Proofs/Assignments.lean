import Reckon.Proofs.Answers

/-!
# Assignments

An argument assigns a number to a name: the name stands in front of its first equals sign, perhaps between
blanks, and the number behind it. The value of a text under such arguments is asked for wrongly exactly if one
of them is no assignment, and the first such argument is refused; else it is what `calculate` gives when each
name has the number assigned to it last (`evalCommand_eq_calculate`). So the order of assignments to different
names does not matter, but that of two arguments which are none does (`evalCommand_swap_malformed`).
-/

namespace Reckon

namespace CommandLine

/-! ### One assignment -/

def Assigns (item name : String) (x : Float) : Prop :=
  ∃ before raw, item.toList = before ++ '=' :: raw ∧ '=' ∉ before ∧
    name = String.ofList (Text.trim Text.isBlank before) ∧ name ≠ "" ∧ Numeral.typed? (String.ofList raw) = some x

/-- What is wrong with a text: there is no equals sign, or no name in front of the first one, or else no number
behind it. -/
inductive Malformed (item : String) : BindingError → Prop
  | noSign (h : '=' ∉ item.toList) : Malformed item (.noName item)
  | noName {before raw : List Char} (h : item.toList = before ++ '=' :: raw) (hb : '=' ∉ before)
      (hblank : ∀ c ∈ before, Text.isBlank c = true) : Malformed item (.noName item)
  | notNumber {before raw : List Char} (h : item.toList = before ++ '=' :: raw) (hb : '=' ∉ before)
      (hname : ¬∀ c ∈ before, Text.isBlank c = true) (hraw : Numeral.typed? (String.ofList raw) = none) :
      Malformed item (.notNumber (String.ofList (Text.trim Text.isBlank before)) (String.ofList raw))

def NoAssignment (item : String) : Prop := ∃ e, Malformed item e

variable {item name : String} {before raw : List Char} {x : Float} {e : BindingError}

theorem readBinding_of_split (h : item.toList = before ++ '=' :: raw) (hb : '=' ∉ before) :
    readBinding item =
      if String.ofList (Text.trim Text.isBlank before) = "" then .error (.noName item)
      else (Numeral.typed? (String.ofList raw)).elim
        (.error (.notNumber (String.ofList (Text.trim Text.isBlank before)) (String.ofList raw)))
        fun x => .ok (String.ofList (Text.trim Text.isBlank before), x) := by
  have hw : ∀ c ∈ before, decide (c ≠ '=') = true := fun c hc => decide_eq_true fun he => hb (he ▸ hc)
  have hcs : ∀ c ∈ ('=' :: raw).head?, decide (c ≠ '=') = false := by
    intro c hc
    cases hc
    rfl
  rw [readBinding, h, takeWhile_append_boundary hw hcs, dropWhile_append_boundary hw hcs]
  dsimp only
  cases Numeral.typed? (String.ofList raw) <;> rfl

theorem readBinding_of_notMem (h : '=' ∉ item.toList) : readBinding item = .error (.noName item) := by
  have hall : item.toList.dropWhile (fun c => decide (c ≠ '=')) = [] :=
    List.dropWhile_eq_nil_iff.2 fun c hc => decide_eq_true fun he => h (he ▸ hc)
  simp only [readBinding, hall]

theorem readBinding_eq_ok_iff : readBinding item = .ok (name, x) ↔ Assigns item name x := by
  constructor
  · intro h
    by_cases hmem : '=' ∈ item.toList
    · obtain ⟨before, raw, hsplit, hb⟩ := List.eq_append_cons_of_mem hmem
      rw [readBinding_of_split hsplit hb] at h
      split at h
      · cases h
      · next hne =>
        rcases hx : Numeral.typed? (String.ofList raw) with _ | y
        · rw [hx] at h
          cases h
        · rw [hx] at h
          cases h
          exact ⟨before, raw, hsplit, hb, rfl, hne, hx⟩
    · rw [readBinding_of_notMem hmem] at h
      cases h
  · rintro ⟨before, raw, hsplit, hb, rfl, hne, hx⟩
    rw [readBinding_of_split hsplit hb, if_neg hne, hx]
    rfl

theorem readBinding_eq_error_iff : readBinding item = .error e ↔ Malformed item e := by
  constructor
  · intro h
    by_cases hmem : '=' ∈ item.toList
    · obtain ⟨before, raw, hsplit, hb⟩ := List.eq_append_cons_of_mem hmem
      rw [readBinding_of_split hsplit hb] at h
      split at h
      · next hblank =>
        cases h
        exact .noName hsplit hb (Text.ofList_trim_eq_empty_iff.1 hblank)
      · next hne =>
        rcases hx : Numeral.typed? (String.ofList raw) with _ | y
        · rw [hx] at h
          cases h
          exact .notNumber hsplit hb (fun hblank => hne (Text.ofList_trim_eq_empty_iff.2 hblank)) hx
        · rw [hx] at h
          cases h
    · rw [readBinding_of_notMem hmem] at h
      cases h
      exact .noSign hmem
  · intro h
    cases h with
    | noSign hmem => exact readBinding_of_notMem hmem
    | noName hsplit hb hblank => rw [readBinding_of_split hsplit hb, if_pos (Text.ofList_trim_eq_empty_iff.2 hblank)]
    | notNumber hsplit hb hname hx =>
      rw [readBinding_of_split hsplit hb, if_neg (mt Text.ofList_trim_eq_empty_iff.1 hname), hx]
      rfl

theorem isOk_readBinding_eq_false_iff : (readBinding item).isOk = false ↔ NoAssignment item := by
  simp only [NoAssignment, ← readBinding_eq_error_iff]
  rcases readBinding item with e | p
  · simp [Except.isOk, Except.toBool]
  · simp [Except.isOk, Except.toBool]

instance : DecidablePred NoAssignment := fun _ => decidable_of_iff _ isOk_readBinding_eq_false_iff

/-! ### Many assignments -/

def Gives (name item : String) : Prop := ∃ x, Assigns item name x

theorem map_readBinding_eq_some_iff : (readBinding item).toOption.map (·.1) = some name ↔ Gives name item := by
  simp only [Gives, ← readBinding_eq_ok_iff]
  rcases readBinding item with e | ⟨n, x⟩
  · simp [Except.toOption]
  · simp [Except.toOption]

instance : DecidablePred (Gives name) := fun _ => decidable_of_iff _ map_readBinding_eq_some_iff

/-- The last of the texts that give the name a value gives it this one. -/
def LastGiven (items : List String) (name : String) (x : Float) : Prop :=
  ∃ item, (items.filter (Gives name ·)).getLast? = some item ∧ Assigns item name x

theorem readBindings_concat (items : List String) (item : String) :
    readBindings (items ++ [item]) =
      readBindings items >>= fun b => (readBinding item).map fun p => b.put p.1 p.2 := by
  rw [readBindings, readBindings, List.mapM_append]
  rcases items.mapM readBinding with e | ps
  · rfl
  · rcases h : readBinding item with e | p
    · simp [h, bind, Except.bind, Except.map]
    · simp [h, bind, Except.bind, Except.map, pure, Except.pure, Named.ofList]

theorem readBindings_concat_eq_ok {items : List String} {b : Named Float} :
    readBindings (items ++ [item]) = .ok b ↔ ∃ c n x, readBindings items = .ok c ∧ Assigns item n x ∧ b = c.put n x := by
  simp only [← readBinding_eq_ok_iff, readBindings_concat]
  rcases readBindings items with e | c
  · simp [bind, Except.bind]
  · rcases readBinding item with e | ⟨n, x⟩
    · simp [bind, Except.bind, Except.map]
    · simp [bind, Except.bind, Except.map, eq_comm]

theorem mapM_readBinding_eq_error_iff {items : List String} :
    items.mapM readBinding = .error e ↔ ∃ item, items.find? (NoAssignment ·) = some item ∧ Malformed item e := by
  induction items with
  | nil => simp [pure, Except.pure]
  | cons item items ih =>
    rw [List.mapM_cons]
    rcases hitem : readBinding item with e' | p
    · have hno : NoAssignment item := ⟨e', readBinding_eq_error_iff.1 hitem⟩
      rw [List.find?_cons_of_pos (by simpa using hno)]
      simp [← readBinding_eq_error_iff, hitem, bind, Except.bind]
    · have hyes : ¬NoAssignment item := by
        rw [← isOk_readBinding_eq_false_iff, hitem]
        exact Bool.noConfusion
      rw [List.find?_cons_of_neg (by simpa using hyes), ← ih]
      rcases items.mapM readBinding with _ | _ <;> simp [bind, Except.bind, pure, Except.pure]

/-- The first text that is no assignment says what is wrong. -/
theorem readBindings_eq_error_iff {items : List String} :
    readBindings items = .error e ↔ ∃ item, items.find? (NoAssignment ·) = some item ∧ Malformed item e := by
  rw [← mapM_readBinding_eq_error_iff, readBindings]
  rcases items.mapM readBinding with _ | _ <;> simp [Except.map]

theorem exists_readBindings_eq_error_iff {items : List String} :
    (∃ e, readBindings items = .error e) ↔ ∃ item ∈ items, NoAssignment item := by
  constructor
  · rintro ⟨e, h⟩
    obtain ⟨item, hfirst, hitem⟩ := readBindings_eq_error_iff.1 h
    exact ⟨item, List.mem_of_find?_eq_some hfirst, e, hitem⟩
  · rintro ⟨item, hmem, hno⟩
    have hfound : (items.find? (NoAssignment ·)).isSome := List.find?_isSome.2 ⟨item, hmem, decide_eq_true hno⟩
    obtain ⟨first, hfirst⟩ := Option.isSome_iff_exists.1 hfound
    obtain ⟨e, he⟩ : NoAssignment first := by simpa using List.find?_some hfirst
    exact ⟨e, readBindings_eq_error_iff.2 ⟨first, hfirst, he⟩⟩

theorem lastGiven_concat {items : List String} (h : Gives name item) :
    LastGiven (items ++ [item]) name x ↔ Assigns item name x := by
  rw [LastGiven, List.filter_append, List.filter_cons_of_pos (by simpa using h), List.filter_nil]
  simp

theorem lastGiven_concat_of_not {items : List String} (h : ¬Gives name item) :
    LastGiven (items ++ [item]) name x ↔ LastGiven items name x := by
  rw [LastGiven, List.filter_append, List.filter_cons_of_neg (by simpa using h), List.filter_nil, List.append_nil]
  rfl

/-- The bindings hold for every name the number that it is given last. -/
theorem get?_readBindings {items : List String} {b : Named Float} (h : readBindings items = .ok b) :
    b.names.Nodup ∧ ∀ n x, b.get? n = some x ↔ LastGiven items n x := by
  induction items using List.reverseRecOn generalizing b with
  | nil =>
    cases h
    refine ⟨List.nodup_nil, fun n x => ⟨fun hx => ?_, ?_⟩⟩
    · cases hx
    · rintro ⟨item, hl, -⟩
      cases hl
  | append_singleton items item ih =>
    obtain ⟨c, m, y, hc, hm, rfl⟩ := readBindings_concat_eq_ok.1 h
    obtain ⟨hnodup, hget⟩ := ih hc
    refine ⟨Named.nodup_names_put hnodup m y, fun n x => ?_⟩
    rw [Named.get?_put]
    by_cases hn : m = n
    · subst hn
      rw [if_pos rfl, lastGiven_concat ⟨y, hm⟩, ← readBinding_eq_ok_iff, readBinding_eq_ok_iff.2 hm]
      simp
    · have hno : ¬Gives n item := by
        rintro ⟨z, hz⟩
        rw [← readBinding_eq_ok_iff, readBinding_eq_ok_iff.2 hm] at hz
        cases hz
        exact hn rfl
      rw [if_neg hn, hget, lastGiven_concat_of_not hno]

/-! ### The command -/

variable {items items' : List String} {b : Named Float} {source : String}

theorem evalCommand_of_error (h : readBindings items = .error e) (env : Environment) (source : String) :
    evalCommand env source items = .refused e := by
  rw [evalCommand, h]

/-- The first text that is no assignment is refused. Else the answer is what calculating gives. -/
theorem evalCommand_cases (source : String) (items : List String) :
    (∃ e, readBindings items = .error e ∧ evalCommand [] source items = .refused e) ∨
    ∃ b, readBindings items = .ok b ∧
      ((∃ x, calculate source b = .ok x ∧ evalCommand [] source items = .printed (showFloat x)) ∨
        ∃ e, calculate source b = .error e ∧ evalCommand [] source items = .failed e) := by
  rcases hb : readBindings items with e | b
  · exact .inl ⟨e, rfl, evalCommand_of_error hb [] source⟩
  refine .inr ⟨b, rfl, ?_⟩
  rw [evalCommand_eq hb]
  rcases calculate source b with e | x
  · exact .inr ⟨e, rfl, rfl⟩
  · exact .inl ⟨x, rfl, rfl⟩

theorem exitCode_evalCommand_eq_two_iff (source : String) (items : List String) :
    (evalCommand [] source items).exitCode = 2 ↔ ∃ item ∈ items, NoAssignment item := by
  rw [← exists_readBindings_eq_error_iff]
  rcases evalCommand_cases source items with ⟨e, hb, hanswer⟩ | ⟨b, hb, ⟨x, -, hanswer⟩ | ⟨e, -, hanswer⟩⟩
  all_goals rw [hanswer, hb]
  · exact ⟨fun _ => ⟨e, rfl⟩, fun _ => rfl⟩
  · exact ⟨nofun, nofun⟩
  · exact ⟨nofun, nofun⟩

theorem exists_calculate_of_failed {e : Error} (h : evalCommand [] source items = .failed e) :
    ∃ b, calculate source b = .error e := by
  rcases evalCommand_cases source items with ⟨e', -, hanswer⟩ | ⟨b, -, ⟨x, -, hanswer⟩ | ⟨e', he, hanswer⟩⟩
  all_goals
    rw [hanswer] at h
    cases h
  exact ⟨b, he⟩

theorem evalCommand_ne_broken (source : String) (items : List String) (f : Failure) :
    evalCommand [] source items ≠ .broken f := by
  rcases evalCommand_cases source items with ⟨e, -, hanswer⟩ | ⟨b, -, ⟨x, -, hanswer⟩ | ⟨e, -, hanswer⟩⟩
  all_goals
    rw [hanswer]
    nofun

/-- Assignments may change places if those to one name stay in order, and what is no assignment if the first
such text remains the first. -/
theorem evalCommand_congr (hfirst : items'.find? (NoAssignment ·) = items.find? (NoAssignment ·))
    (hgives : ∀ n, items'.filter (Gives n ·) = items.filter (Gives n ·)) (source : String) :
    evalCommand [] source items' = evalCommand [] source items := by
  have hfails : ∀ e, readBindings items' = .error e ↔ readBindings items = .error e := by
    intro e
    rw [readBindings_eq_error_iff, hfirst, ← readBindings_eq_error_iff]
  rcases hb : readBindings items with e | b
  · rw [evalCommand_of_error hb, evalCommand_of_error ((hfails e).2 hb)]
  rcases hb' : readBindings items' with e' | b'
  · rw [(hfails e').1 hb'] at hb
    cases hb
  obtain ⟨hnodup, hget⟩ := get?_readBindings hb
  obtain ⟨hnodup', hget'⟩ := get?_readBindings hb'
  have hvalue : ∀ n, (Bindings.ofFloats b').value n = (Bindings.ofFloats b).value n := by
    intro n
    have hsame : b'.get? n = b.get? n := Option.ext fun x => by rw [hget', hget, LastGiven, hgives, LastGiven]
    rw [Bindings.value_ofFloats, Bindings.value_ofFloats, Named.lookup_reverse hnodup, Named.lookup_reverse hnodup',
      hsame]
  rw [evalCommand_eq hb, evalCommand_eq hb', calculate_congr hvalue]

/-- Changing places never changes the exit code. -/
theorem exitCode_evalCommand_perm (hperm : items'.Perm items)
    (hgives : ∀ n, items'.filter (Gives n ·) = items.filter (Gives n ·)) (source : String) :
    (evalCommand [] source items').exitCode = (evalCommand [] source items).exitCode := by
  by_cases hbad : ∃ item ∈ items, NoAssignment item
  · have hbad' : ∃ item ∈ items', NoAssignment item := by simpa only [hperm.mem_iff] using hbad
    rw [(exitCode_evalCommand_eq_two_iff source items).2 hbad, (exitCode_evalCommand_eq_two_iff source items').2 hbad']
  · have none_of : ∀ {l : List String}, (∀ item ∈ l, item ∈ items) → l.find? (NoAssignment ·) = none := by
      intro l hl
      rw [List.find?_eq_none]
      intro item hmem hno
      exact hbad ⟨item, hl item hmem, of_decide_eq_true hno⟩
    have hfirst : items'.find? (NoAssignment ·) = items.find? (NoAssignment ·) := by
      rw [none_of fun item hmem => hperm.mem_iff.1 hmem, none_of fun item hmem => hmem]
    rw [evalCommand_congr hfirst hgives]

/-- Asking for a value is a misuse exactly if an argument is no assignment, and then the first such argument is
refused for what is wrong with it. Else every name has the number assigned to it last, and the answer is the
value that calculating gives, or its error. No name is unbound, and nothing but an error of the expression is
reported. If arguments change places, but not two assignments to one name, the exit code stays; so does the
answer, unless another argument than before is the first that is no assignment. -/
theorem evalCommand_eq_calculate (source : String) (items : List String) :
    ((evalCommand [] source items).exitCode = 2 ↔ ∃ item ∈ items, NoAssignment item) ∧
    (∀ item, items.find? (NoAssignment ·) = some item →
      ∃ e, Malformed item e ∧ evalCommand [] source items = .refused e) ∧
    ((∀ item ∈ items, ¬NoAssignment item) → ∃ b : Named Float, b.names.Nodup ∧
      (∀ n x, b.get? n = some x ↔ LastGiven items n x) ∧
      (∀ x, calculate source b = .ok x →
        evalCommand [] source items = .printed (showFloat x) ∧ (evalCommand [] source items).exitCode = 0) ∧
      ∀ e, calculate source b = .error e →
        evalCommand [] source items = .failed e ∧ (evalCommand [] source items).exitCode = 1) ∧
    (∀ n, evalCommand [] source items ≠ .failed (.eval (.unbound n))) ∧
    (∀ cause, evalCommand [] source items ≠ .failed (.eval (.unusable cause))) ∧
    (∀ f, evalCommand [] source items ≠ .broken f) ∧
    ∀ items', items'.Perm items → (∀ n, items'.filter (Gives n ·) = items.filter (Gives n ·)) →
      (evalCommand [] source items').exitCode = (evalCommand [] source items).exitCode ∧
      (items'.find? (NoAssignment ·) = items.find? (NoAssignment ·) →
        evalCommand [] source items' = evalCommand [] source items) := by
  refine ⟨exitCode_evalCommand_eq_two_iff source items, fun item hitem => ?_, fun hall => ?_, fun n hn => ?_,
    fun cause hcause => ?_, evalCommand_ne_broken source items,
    fun items' hperm hgives => ⟨exitCode_evalCommand_perm hperm hgives source,
      fun hfirst => evalCommand_congr hfirst hgives source⟩⟩
  · obtain ⟨e, he⟩ : NoAssignment item := by simpa using List.find?_some hitem
    exact ⟨e, he, evalCommand_of_error (readBindings_eq_error_iff.2 ⟨item, hitem, he⟩) [] source⟩
  · rcases hb : readBindings items with e | b
    · obtain ⟨item, hmem, hno⟩ := exists_readBindings_eq_error_iff.1 ⟨e, hb⟩
      exact absurd hno (hall item hmem)
    obtain ⟨hnodup, hget⟩ := get?_readBindings hb
    refine ⟨b, hnodup, hget, fun x hx => ?_, fun e he => ?_⟩
    · rw [evalCommand_eq hb, hx]
      exact ⟨rfl, rfl⟩
    · rw [evalCommand_eq hb, he]
      exact ⟨rfl, rfl⟩
  · obtain ⟨b, hb⟩ := exists_calculate_of_failed hn
    exact calculate_ne_unbound source b n hb
  · obtain ⟨b, hb⟩ := exists_calculate_of_failed hcause
    exact calculate_ne_unusable source b cause hb

/-- Neither argument is an assignment, and whichever stands first is the one that is refused. -/
theorem evalCommand_swap_malformed :
    ["y=abc", "x"].Perm ["x", "y=abc"] ∧
      (∀ n, ["y=abc", "x"].filter (Gives n ·) = ["x", "y=abc"].filter (Gives n ·)) ∧
      evalCommand [] "1" ["x", "y=abc"] = .refused (.noName "x") ∧
      evalCommand [] "1" ["y=abc", "x"] = .refused (.notNumber "y" "abc") ∧
      (BindingError.noName "x").message ≠ (BindingError.notNumber "y" "abc").message := by
  have hx : readBinding "x" = .error (.noName "x") := by decide +kernel
  have hy : readBinding "y=abc" = .error (.notNumber "y" "abc") := by decide +kernel
  have hgives : ∀ n, ¬Gives n "x" ∧ ¬Gives n "y=abc" := by
    intro n
    simp only [Gives, ← readBinding_eq_ok_iff, hx, hy]
    exact ⟨nofun, nofun⟩
  refine ⟨.swap "x" "y=abc" [], fun n => ?_, ?_, ?_, by decide +kernel⟩
  · simp [(hgives n).1, (hgives n).2]
  · exact evalCommand_of_error (by simp [readBindings, hx, bind, Except.bind, Except.map]) [] "1"
  · exact evalCommand_of_error (by simp [readBindings, hy, bind, Except.bind, Except.map]) [] "1"

end CommandLine

end Reckon
