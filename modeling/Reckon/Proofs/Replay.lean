import Mathlib.Data.List.Forall2
import Reckon.Proofs.Acceptance
import Reckon.Proofs.StoredForms
import Reckon.Sequence

/-!
# Replaying stored tokens

`Token.StandsIn` says which objects stand for a token: the text in an operator, a function or a bracket is in
the table of its kind. Reading accepts lists of such objects and nothing else (`Token.ofJson_eq_ok_iff`). So
when a token that was read is looked up by its text, it is found, and replaying what was read ends in a value
or in one of the errors of a sequence (`restored_tokens_replay`).
-/

namespace Reckon

open Stored

/-! ### Checks that accept -/

namespace Stored

variable {α β : Type}

namespace Checked

theorem within_eq_ok_iff {s : Step} {c : Checked α} {a : α} : within s c = .ok a ↔ c = .ok a := by
  cases c <;> simp [within]

theorem both_eq_ok_iff {c : Checked α} {d : Checked β} {p : α × β} :
    both c d = .ok p ↔ c = .ok p.1 ∧ d = .ok p.2 := by
  obtain ⟨a, b⟩ := p
  cases c <;> cases d <;> simp [both]

theorem map_eq_ok_iff {f : α → β} {c : Checked α} {b : β} : c.map f = .ok b ↔ ∃ a, c = .ok a ∧ f a = b := by
  cases c <;> simp [Except.map]

theorem each_eq_ok_iff {check : α → Checked β} {i : Nat} {as : List α} {bs : List β} :
    each check i as = .ok bs ↔ List.Forall₂ (fun a b => check a = .ok b) as bs := by
  induction as generalizing i bs with
  | nil =>
    rw [each, List.forall₂_nil_left_iff]
    exact ⟨fun h => by cases h; rfl, fun h => by rw [h]⟩
  | cons a as ih =>
    rw [each, map_eq_ok_iff, List.forall₂_cons_left_iff]
    constructor
    · rintro ⟨p, hp, rfl⟩
      obtain ⟨hfirst, hrest⟩ := both_eq_ok_iff.1 hp
      exact ⟨p.1, p.2, within_eq_ok_iff.1 hfirst, ih.1 hrest, rfl⟩
    · rintro ⟨b, bs, hfirst, hrest, rfl⟩
      exact ⟨(b, bs), both_eq_ok_iff.2 ⟨within_eq_ok_iff.2 hfirst, ih.2 hrest⟩, rfl⟩

end Checked

variable {check : Json → Checked α} {fields : List (String × Json)} {name : String} {a : α}

theorem required_eq_ok_iff :
    required check fields name = .ok a ↔ ∃ v, Json.field? fields name = some v ∧ check v = .ok a := by
  rw [required, Checked.within_eq_ok_iff]
  cases Json.field? fields name <;> simp [Checked.fail]

theorem checkText_eq_ok_iff {v : Json} {s : String} : checkText v = .ok s ↔ v = .text s := by
  cases v <;> simp [checkText, Checked.fail]

end Stored

/-! ### Tokens in objects -/

namespace Token

/-- An object with these fields stands for the token. Of two fields with one name the last one counts, and
fields of other names do not matter. -/
inductive StandsIn (fields : List (String × Json)) : Token → Prop
  | num {v : Json} {x : Float} : Json.field? fields "kind" = some (.text "number") →
      Json.field? fields "value" = some v → checkNumber .text v = .ok x → StandsIn fields (.num x)
  | var {n : String} : Json.field? fields "kind" = some (.text "variable") →
      Json.field? fields "name" = some (.text n) → StandsIn fields (.var n)
  | op {s : String} {o : Operator} : Json.field? fields "kind" = some (.text "operator") →
      Json.field? fields "symbol" = some (.text s) → Operator.ofText? s = some o → StandsIn fields (.op o)
  | fn {s : String} {f : Func} : Json.field? fields "kind" = some (.text "function") →
      Json.field? fields "name" = some (.text s) → Func.ofName? (Text.lower s) = some f → StandsIn fields (.fn f)
  | bracket {s : String} {b : Bracket} : Json.field? fields "kind" = some (.text "grouping") →
      Json.field? fields "bracket" = some (.text s) → Bracket.ofText? s = some b → StandsIn fields (.bracket b)

theorem checkNamed_eq_ok_iff {α : Type} {ofText? : String → Option α} {fault : String → FaultKind} {v : Json} {a : α} :
    checkNamed ofText? fault v = .ok a ↔ ∃ s, v = .text s ∧ ofText? s = some a := by
  constructor
  · intro h
    cases v with
    | text s =>
      refine ⟨s, rfl, ?_⟩
      cases ha : ofText? s with
      | none => simp only [checkNamed, checkText, bind, Except.bind, ha] at h; cases h
      | some a' => simp only [checkNamed, checkText, bind, Except.bind, ha] at h; cases h; rfl
    | _ => cases h
  · rintro ⟨s, rfl, ha⟩
    exact checkNamed_text ha fault

variable {fields : List (String × Json)} {t : Token}

/-- A field with a text that names the content of a token. -/
theorem named_eq_ok_iff {α : Type} {ofText? : String → Option α} {fault : String → FaultKind} {name : String}
    {make : α → Token} : (required (checkNamed ofText? fault) fields name).map make = .ok t ↔
      ∃ s a, Json.field? fields name = some (.text s) ∧ ofText? s = some a ∧ make a = t := by
  rw [Checked.map_eq_ok_iff]
  constructor
  · rintro ⟨a, h, hmake⟩
    obtain ⟨v, hv, hcheck⟩ := required_eq_ok_iff.1 h
    obtain ⟨s, rfl, ha⟩ := checkNamed_eq_ok_iff.1 hcheck
    exact ⟨s, a, hv, ha, hmake⟩
  · rintro ⟨s, a, hs, ha, hmake⟩
    exact ⟨a, required_eq_ok_iff.2 ⟨_, hs, checkNamed_text ha fault⟩, hmake⟩

/-- Each of the five kinds has its own field. -/
theorem standsIn_iff_ofFields? : StandsIn fields t ↔
    ∃ kind checked, Json.field? fields "kind" = some (.text kind) ∧ ofFields? .text fields kind = some checked ∧
      checked = .ok t := by
  constructor
  · intro h
    cases h with
    | num hk hv hx => exact ⟨_, _, hk, rfl, Checked.map_eq_ok_iff.2 ⟨_, required_eq_ok_iff.2 ⟨_, hv, hx⟩, rfl⟩⟩
    | var hk hn => exact ⟨_, _, hk, rfl, Checked.map_eq_ok_iff.2 ⟨_, required_eq_ok_iff.2 ⟨_, hn, rfl⟩, rfl⟩⟩
    | op hk hs ho => exact ⟨_, _, hk, rfl, named_eq_ok_iff.2 ⟨_, _, hs, ho, rfl⟩⟩
    | fn hk hs hf => exact ⟨_, _, hk, rfl, named_eq_ok_iff.2 ⟨_, _, hs, hf, rfl⟩⟩
    | bracket hk hs hb => exact ⟨_, _, hk, rfl, named_eq_ok_iff.2 ⟨_, _, hs, hb, rfl⟩⟩
  · rintro ⟨kind, checked, hk, hkind, hc⟩
    unfold ofFields? at hkind
    -- the kinds in their order, and last a text that is no kind
    split at hkind
    · cases hkind
      obtain ⟨x, hread, rfl⟩ := Checked.map_eq_ok_iff.1 hc
      obtain ⟨v, hv, hx⟩ := required_eq_ok_iff.1 hread
      exact .num hk hv hx
    · cases hkind
      obtain ⟨n, hread, rfl⟩ := Checked.map_eq_ok_iff.1 hc
      obtain ⟨v, hv, hn⟩ := required_eq_ok_iff.1 hread
      rw [checkText_eq_ok_iff.1 hn] at hv
      exact .var hk hv
    · cases hkind
      obtain ⟨s, o, hs, ho, rfl⟩ := named_eq_ok_iff.1 hc
      exact .op hk hs ho
    · cases hkind
      obtain ⟨s, f, hs, hf, rfl⟩ := named_eq_ok_iff.1 hc
      exact .fn hk hs hf
    · cases hkind
      obtain ⟨s, b, hs, hb, rfl⟩ := named_eq_ok_iff.1 hc
      exact .bracket hk hs hb
    · cases hkind

theorem ofJson_eq_ok_iff {v : Json} : ofJson .text v = .ok t ↔ ∃ fields, v = .object fields ∧ StandsIn fields t := by
  constructor
  · intro h
    cases v with
    | object fields =>
      refine ⟨fields, rfl, standsIn_iff_ofFields?.2 ?_⟩
      rw [ofJson] at h
      split at h
      · cases h
      · next kind hk =>
        split at h
        · next checked hc => exact ⟨kind, checked, hk, hc, Checked.within_eq_ok_iff.1 h⟩
        · cases h
      · cases h
    | _ => cases h
  · rintro ⟨fields, rfl, h⟩
    obtain ⟨kind, checked, hk, hc, rfl⟩ := standsIn_iff_ofFields?.1 h
    simp only [ofJson, hk, hc, Checked.within]

/-- Tokens stand in the items of a list, one after the other. -/
def ListedIn (vs : List Json) (ts : List Token) : Prop :=
  List.Forall₂ (fun v t => ∃ fields, v = .object fields ∧ StandsIn fields t) vs ts

theorem listOfJson_eq_ok_iff {vs : List Json} {ts : List Token} :
    listOfJson .text vs = .ok ts ↔ ListedIn vs ts := by
  rw [listOfJson, Checked.each_eq_ok_iff, ListedIn]
  simp only [ofJson_eq_ok_iff]

theorem parse_eq_ok_iff {s : String} {ts : List Token} :
    parse s = .ok ts ↔ ∃ vs, Json.parse? s = some (.list vs) ∧ ListedIn vs ts := by
  rw [parse]
  cases Json.parse? s with
  | none => simp [Checked.fail]
  | some v =>
    cases v with
    | list vs =>
      constructor
      · intro h
        exact ⟨vs, rfl, listOfJson_eq_ok_iff.1 h⟩
      · rintro ⟨ws, hws, h⟩
        cases hws
        exact listOfJson_eq_ok_iff.2 h
    | _ => simp [Checked.fail]

end Token

theorem Expression.listedIn_of_parse {s : String} {e : Expression} (h : parse s = .ok e) :
    ∃ fields vs, Json.parse? s = some (.object fields) ∧ Json.field? fields "postfix" = some (.list vs) ∧
      Token.ListedIn vs e.tokens := by
  rw [parse] at h
  cases hs : Json.parse? s with
  | none => rw [hs] at h; cases h
  | some v =>
    rw [hs] at h
    cases v with
    | object fields =>
      obtain ⟨p, hp, rfl⟩ := Checked.map_eq_ok_iff.1 h
      obtain ⟨-, hfields⟩ := Checked.both_eq_ok_iff.1 hp
      obtain ⟨-, hrest⟩ := Checked.both_eq_ok_iff.1 hfields
      obtain ⟨htokens, -⟩ := Checked.both_eq_ok_iff.1 hrest
      obtain ⟨w, hw, hlist⟩ := required_eq_ok_iff.1 htokens
      cases w with
      | list vs => exact ⟨fields, vs, rfl, hw, Token.listOfJson_eq_ok_iff.1 hlist⟩
      | _ => cases hlist
    | _ => cases h

/-! ### Looking tokens up again -/

/-- What a table gives for a text: the token that its entry makes, or nothing but the text. -/
def Element.lookUp {α : Type} (ofText? : String → Option α) (make : α → Token) (s : String) : Element :=
  (ofText? s).elim (foreign s) fun a => token (make a)

/-- A token as it is found by its text. -/
def Token.lookedUp : Token → Element
  | num x => .token (num x)
  | var n => .token (var n)
  | op o => .lookUp Operator.ofText? op (op o).text
  | fn f => .lookUp Func.ofName? fn (fn f).text
  | bracket b => .lookUp Bracket.ofText? bracket (bracket b).text

theorem Token.lookedUp_eq (t : Token) : t.lookedUp = .token t := by
  cases t with
  | num x => rfl
  | var n => rfl
  | op o => rw [lookedUp, text, Element.lookUp, Operator.ofText?_toString, Option.elim_some]
  | fn f => rw [lookedUp, text, Element.lookUp, Func.ofName?_name, Option.elim_some]
  | bracket b => rw [lookedUp, text, Element.lookUp, Bracket.ofText?_toString, Option.elim_some]

/-! ### Replaying -/

/-- The errors of a sequence: a name without a value, or values on the stack that do not fit. -/
def EvalError.IsOfSequence (e : EvalError) : Prop := (∃ n, e = .unbound n) ∨ e.depth?.isSome = true

theorem Evaluation.Fault.isOfSequence {b : List (String × Float)} {ts : List Token} {e : EvalError}
    (h : Fault (Bindings.ofFloats b).value ts e) : e.IsOfSequence := by
  rcases h with ⟨n, -, hn⟩ | hdepth
  · exact .inl ⟨n, Bindings.eq_unbound_of_value_ofFloats hn⟩
  · exact .inr hdepth

namespace Element

/-- Evaluating under floats gives a value or an error of the sequence, and converting gives a sequence or an
error in the brackets. No element is foreign. -/
structure Replays (es : List Element) : Prop where
  evaluate : ∀ b : List (String × Float), (∃ x, Element.evaluate (Bindings.ofFloats b).value es = .ok x) ∨
    ∃ e, Element.evaluate (Bindings.ofFloats b).value es = .error (.eval e) ∧ e.IsOfSequence
  toPostfix : (∃ out, Element.toPostfix es = .ok out) ∨ ∃ e, Element.toPostfix es = .error (.group e)

theorem splitForeign_map_token (ts : List Token) : splitForeign (ts.map token) = (ts, none) := by
  induction ts with
  | nil => rfl
  | cons t ts ih => rw [List.map_cons, splitForeign, ih]

theorem evaluate_map_token (ρ : Valuation) (ts : List Token) :
    Element.evaluate ρ (ts.map token) = (Reckon.evaluate ρ ts).mapError .eval := by
  rw [Element.evaluate, splitForeign_map_token]

theorem toPostfix_map_token (ts : List Token) :
    Element.toPostfix (ts.map token) = (Reckon.toPostfix ts).mapError .group := by
  rw [Element.toPostfix, splitForeign_map_token]

theorem replays_map_token (ts : List Token) : Replays (ts.map token) := by
  constructor
  · intro b
    rw [evaluate_map_token]
    cases he : Reckon.evaluate (Bindings.ofFloats b).value ts with
    | ok x => exact .inl ⟨x, rfl⟩
    | error e => exact .inr ⟨e, rfl, (Evaluation.fault_of_evaluate he).isOfSequence⟩
  · rw [toPostfix_map_token]
    cases Reckon.toPostfix ts with
    | ok out => exact .inl ⟨out, rfl⟩
    | error e => exact .inr ⟨e, rfl⟩

end Element

/-- The sources of values of an expression are floats if those that are given are. -/
theorem Expression.evaluate_ofFloats (e : Expression) (b c : List (String × Float)) :
    e.evaluate (Bindings.ofFloats b) (Bindings.ofFloats c) =
      Reckon.evaluate (Bindings.ofFloats (e.defaults ++ b ++ c)).value e.tokens := by
  rw [evaluate, Bindings.ofFloats, Bindings.ofFloats, Bindings.ofFloats, Bindings.ofFloats, List.map_append,
    List.map_append]

theorem Token.map_lookedUp (ts : List Token) : ts.map lookedUp = ts.map .token :=
  List.map_congr_left fun t _ => t.lookedUp_eq

/-- Whatever text the tokens were read from, each stands in an object of the text whose content is in the
table of its kind, and is found again by its text. So replaying them cannot fail but for the sequence: for a
name without a value, for values on the stack that do not fit, or for brackets that do not match. So it is with
the tokens of an expression, under its defaults too. -/
theorem restored_tokens_replay (s : String) :
    (∀ ts, Token.parse s = .ok ts →
      (∃ vs, Json.parse? s = some (.list vs) ∧ Token.ListedIn vs ts) ∧
      (∀ t ∈ ts, t.lookedUp = .token t) ∧ Element.Replays (ts.map Token.lookedUp)) ∧
    ∀ e, Expression.parse s = .ok e →
      (∃ fields vs, Json.parse? s = some (.object fields) ∧ Json.field? fields "postfix" = some (.list vs) ∧
        Token.ListedIn vs e.tokens) ∧
      (∀ t ∈ e.tokens, t.lookedUp = .token t) ∧ Element.Replays (e.tokens.map Token.lookedUp) ∧
      ∀ b c : List (String × Float),
        (∃ x, e.evaluate (Bindings.ofFloats b) (Bindings.ofFloats c) = .ok x) ∨
        ∃ err, e.evaluate (Bindings.ofFloats b) (Bindings.ofFloats c) = .error err ∧ err.IsOfSequence := by
  refine ⟨fun ts h => ⟨Token.parse_eq_ok_iff.1 h, fun t _ => t.lookedUp_eq, ?_⟩,
    fun e h => ⟨Expression.listedIn_of_parse h, fun t _ => t.lookedUp_eq, ?_, fun b c => ?_⟩⟩
  · rw [Token.map_lookedUp]
    exact Element.replays_map_token ts
  · rw [Token.map_lookedUp]
    exact Element.replays_map_token e.tokens
  · rw [Expression.evaluate_ofFloats]
    cases he : evaluate (Bindings.ofFloats (e.defaults ++ b ++ c)).value e.tokens with
    | ok x => exact .inl ⟨x, rfl⟩
    | error err => exact .inr ⟨err, rfl, (Evaluation.fault_of_evaluate he).isOfSequence⟩

/-- A function in capitals, a second kind that replaces the first, a field that means nothing, and a bracket in
the place of an operand. -/
theorem restored_tokens_replay_capitals :
    let item := fun kind name value =>
      Json.object [("kind", .text "number"), (name, .text value), ("note", .null), ("kind", .text kind)]
    let items := Json.list [item "function" "name" "SIN", item "grouping" "bracket" "]", item "operator" "symbol" "^"]
    let stored := Json.object [("postfix", items), ("source", .text "")]
    let ts : List Token := [.fn .sin, .bracket ⟨.square, .closing⟩, .op .pow]
    Token.parse items.render = .ok ts ∧ Element.Replays (ts.map Token.lookedUp) ∧
      Expression.parse stored.render = .ok ⟨"", [], ts, []⟩ ∧
      ∃ err, Expression.evaluate ⟨"", [], ts, []⟩ [] [] = .error err ∧ err.IsOfSequence := by
  intro item items stored ts
  have hitems : Json.parse? items.render = some items := by
    refine Json.parse?_render ?_
    simp [items, item, Json.Readable, Json.ReadableItems, Json.ReadableFields, Json.Expect.maxDepth]
  have hstored : Json.parse? stored.render = some stored := by
    refine Json.parse?_render ?_
    simp [stored, items, item, Json.Readable, Json.ReadableItems, Json.ReadableFields, Json.Expect.maxDepth]
  have hts : Token.parse items.render = .ok ts := by
    rw [Token.parse, hitems]
    rfl
  have hexpr : Expression.parse stored.render = .ok ⟨"", [], ts, []⟩ := by
    rw [Expression.parse, hstored]
    rfl
  obtain ⟨-, -, hreplays⟩ := (restored_tokens_replay items.render).1 ts hts
  obtain ⟨-, -, -, houtcome⟩ := (restored_tokens_replay stored.render).2 _ hexpr
  refine ⟨hts, hreplays, hexpr, ?_⟩
  rcases houtcome [] [] with ⟨x, hx⟩ | ⟨err, herr, hseq⟩
  · cases hx
  · exact ⟨err, herr, hseq⟩

end Reckon
