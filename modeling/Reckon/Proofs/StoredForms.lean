import Reckon.Proofs.Json.RoundTrip
import Reckon.Stored.Expression

/-!
# Stored forms read back

What is stored of tokens and expressions is readable JSON, and the checks on it give back what was stored:
every float by its bits, every text, and the names of functions although their letter case is dropped on
reading. A restored expression is therefore the same expression (`stored_forms_read_back`).
-/

namespace Reckon

open Json Stored

/-! ### Readable values -/

theorem readableItems_map {α : Type} {depth : Nat} {f : α → Json} (hdepth : depth ≤ Expect.maxDepth)
    (h : ∀ a, (f a).Readable depth) (as : List α) : ReadableItems depth (as.map f) := by
  induction as with
  | nil => trivial
  | cons a as ih => exact ⟨hdepth, h a, ih⟩

theorem Token.readable_toJson {depth : Nat} (h : depth < Expect.maxDepth) (t : Token) :
    t.toJson.Readable depth := by
  cases t <;> exact ⟨h, trivial, h, trivial, trivial⟩

theorem Token.readable_list (ts : List Token) : (Json.list (ts.map toJson)).Readable 0 :=
  readableItems_map (by decide) (readable_toJson (by decide)) ts

theorem Expression.readable_toJson (e : Expression) : e.toJson.Readable 0 := by
  have hmax : ∀ depth ≤ 4, depth ≤ Expect.maxDepth := fun depth h => h.trans (by decide)
  have hdefault : ∀ p : String × Float, (Json.list [.text p.1, .float p.2]).Readable 2 := by
    intro p
    exact ⟨hmax 3 (by decide), trivial, hmax 3 (by decide), trivial, trivial⟩
  refine ⟨hmax 1 (by decide), trivial, hmax 1 (by decide), ?_, hmax 1 (by decide), ?_, hmax 1 (by decide), ?_, trivial⟩
  · exact readableItems_map (hmax 2 (by decide)) (f := Json.text) (fun _ => trivial) e.declared
  · exact readableItems_map (hmax 2 (by decide)) (Token.readable_toJson (by decide)) e.tokens
  · exact readableItems_map (hmax 2 (by decide)) hdefault e.defaults

/-! ### Checks -/

theorem Operator.ofText?_toString (o : Operator) : ofText? o.symbol.toString = some o := by
  cases o <;> rfl

theorem Bracket.ofText?_toString (b : Bracket) : ofText? b.symbol.toString = some b := by
  obtain ⟨shape, side⟩ := b
  cases shape <;> cases side <;> rfl

/-- Names of functions have no upper case letters. -/
theorem Func.ofWord?_name (f : Func) : ofWord? f.name = some f := by
  have hlower : Text.lower f.name = f.name := by cases f <;> decide
  rw [ofWord?, hlower, ofName?_name]

theorem Token.checkNamed_text {α : Type} {ofText? : String → Option α} {s : String} {a : α}
    (h : ofText? s = some a) (fault : String → FaultKind) : checkNamed ofText? fault (.text s) = .ok a := by
  simp only [checkNamed, checkText, bind, Except.bind, h]

theorem Token.ofJson_toJson (t : Token) : ofJson .text t.toJson = .ok t := by
  cases t with
  | num x => rfl
  | var n => rfl
  | op o =>
    have hsymbol := checkNamed_text (Operator.ofText?_toString o) .unknownOperator
    show Checked.within _ ((Checked.within _ (checkNamed _ _ (.text o.symbol.toString))).map op) = _
    rw [hsymbol]
    rfl
  | fn f =>
    have hname := checkNamed_text (Func.ofWord?_name f) .unknownFunction
    show Checked.within _ ((Checked.within _ (checkNamed _ _ (.text f.name))).map fn) = _
    rw [hname]
    rfl
  | bracket b =>
    have hbracket := checkNamed_text (Bracket.ofText?_toString b) .notBracket
    show Checked.within _ ((Checked.within _ (checkNamed _ _ (.text b.symbol.toString))).map bracket) = _
    rw [hbracket]
    rfl

theorem Expression.ofJson_toJson (e : Expression) : ofJson e.toJson = .ok e := by
  have htext : ∀ n : String, checkText (.text n) = .ok n := fun _ => rfl
  have hpair : ∀ p : String × Float, checkPair (.list [.text p.1, .float p.2]) = .ok p := fun _ => rfl
  have hdeclared : checkList checkText (.list (e.declared.map .text)) = .ok e.declared :=
    Checked.each_ok htext 0 e.declared
  have htokens : checkList (Token.ofJson .text) (.list (e.tokens.map Token.toJson)) = .ok e.tokens :=
    Checked.each_ok Token.ofJson_toJson 0 e.tokens
  have hdefaults : checkDefaults (.list (e.defaults.map fun p => .list [.text p.1, .float p.2])) = .ok e.defaults :=
    Checked.each_ok hpair 0 e.defaults
  show (Checked.both (.within _ (.ok e.source)) (.both (.within _ (checkList checkText _))
    (.both (.within _ (checkList (Token.ofJson .text) _))
      (.within _ (checkDefaults (.list (e.defaults.map fun p => .list [.text p.1, .float p.2]))))))).map _ = _
  rw [hdeclared, htokens, hdefaults]
  rfl

/-! ### Texts -/

theorem Token.parse_render (ts : List Token) : parse (render ts) = .ok ts := by
  rw [parse, render, Json.parse?_render (readable_list ts)]
  exact Checked.each_ok ofJson_toJson 0 ts

theorem Expression.parse_render (e : Expression) : parse e.render = .ok e := by
  rw [parse, render, Json.parse?_render e.readable_toJson]
  exact ofJson_toJson e

/-- Tokens and expressions are restored from their stored texts as they were. So is every value of an
expression, and every failure. -/
theorem stored_forms_read_back :
    (∀ ts : List Token, Token.parse (Token.render ts) = .ok ts) ∧
      ∀ e : Expression, Expression.parse e.render = .ok e ∧
        ∀ bindings overrides : Bindings,
          (Expression.parse e.render).map (·.evaluate bindings overrides) = .ok (e.evaluate bindings overrides) := by
  refine ⟨Token.parse_render, fun e => ?_⟩
  have he := e.parse_render
  refine ⟨he, fun bindings overrides => ?_⟩
  rw [he]
  rfl

end Reckon
