import Reckon.CommandLine
import Reckon.Proofs.CacheLimit
import Reckon.Proofs.Routes

/-!
# Answers of the commands

A command shows a result as text, or the error in its place. With no variable set the result is the one of the
stages taken one by one: compiling for the postfix form (`rpnCommand_eq`), calculating for the value
(`evalCommand_eq`).
-/

namespace Reckon

theorem Engine.compile_start (source : String) (names : List String) :
    ((start []).compile source names).1.map (·.expression) =
      (Expression.compile source names).mapError .expression := by
  rw [← Expression.compile_sortNames]
  exact ((Sound.start fits_nil).compile source names).1

namespace CommandLine

variable {source : String} {items : List String} {b : Named Float}

/-- A result in this form, or what stands in its way. -/
def Outcome.ofResult {α : Type} (text : α → String) : Except Failure α → Outcome
  | .ok x => .printed (text x)
  | .error f => .ofFailure f

theorem rpnCommand_eq (source : String) (names : List String) :
    rpnCommand [] source names =
      .ofResult Expression.rpn ((Expression.compile source names).mapError .expression) := by
  rw [← Engine.compile_start, rpnCommand]
  rcases ((Engine.start []).compile source names).1 with f | made
  · rfl
  · rfl

theorem evalCommand_eq (h : readBindings items = .ok b) (source : String) :
    evalCommand [] source items = .ofResult showFloat ((calculate source b).mapError .expression) := by
  have hcompile : ((Engine.start []).compile source b.names).1.map (·.expression) =
      ((Expression.compile source (sortNames b.names)).map fun e => { e with defaults := [] }).mapError .expression := by
    rw [Expression.map_defaults_nil_compile, Expression.compile_sortNames, Engine.compile_start]
  have hcalc := (outcome_eq_calculate (.ofFloats b) [] hcompile fun n => by rw [List.append_nil]; rfl).1
  rw [← hcalc, evalCommand, h, outcome]
  dsimp only
  rcases ((Engine.start []).compile source b.names).1 with f | made
  · rfl
  simp only [bind, Except.bind]
  rcases made.expression.evaluate (Bindings.ofFloats b) [] with e | x
  · rfl
  · rfl

end CommandLine

end Reckon
