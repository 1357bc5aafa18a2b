import Reckon.CommandLine.Arguments
import Reckon.Builder

/-!
# The command line

Three commands work on an expression: `eval` gives its value, `rpn` its postfix form, `tokens` its
tokens. `run` answers a list of arguments in an environment; what it cannot make sense of is a misuse, and a
text that is no binding is refused with the reason.
-/

namespace Reckon.CommandLine

def version : String := "mathexpr 0.3.0"

/-! ### Bindings -/

/-- A text that is no binding. -/
inductive BindingError
  /-- There is no equals sign, or nothing but blanks before it. -/
  | noName (item : String)
  | notNumber (name raw : String)
  deriving DecidableEq, Repr

def BindingError.message : BindingError → String
  | noName item => "Expected name=value, got " ++ Text.quote item
  | notNumber name raw =>
    "Value for " ++ Text.quote name ++ " is not a number: " ++ Text.quote raw

/-- The name and the value in a text, on the two sides of its first equals sign. -/
def readBinding (item : String) : Except BindingError (String × Float) :=
  let before := item.toList.takeWhile (· ≠ '=')
  let name := String.ofList (Text.trim Text.isBlank before)
  match item.toList.dropWhile (· ≠ '=') with
  | [] => .error (.noName item)
  | _ :: raw =>
    if name = "" then .error (.noName item)
    else
      match Numeral.typed? (String.ofList raw) with
      | some x => .ok (name, x)
      | none => .error (.notNumber name (String.ofList raw))

/-- Bindings from texts; the last one for a name counts. -/
def readBindings (items : List String) : Except BindingError (Named Float) :=
  (items.mapM readBinding).map Named.ofList

/-! ### Outcomes -/

/-- A row of the table of tokens. -/
structure Row where
  index : Nat
  kind : String
  text : String
  deriving DecidableEq, Repr

def rowsFrom (index : Nat) : List Token → List Row
  | [] => []
  | t :: ts => ⟨index, t.kind, t.text⟩ :: rowsFrom (index + 1) ts

inductive Outcome
  | printed (line : String)
  | table (title : String) (rows : List Row)
  | help
  /-- The expression has an error. -/
  | failed (e : Error)
  /-- The engine cannot work with its settings. -/
  | broken (e : Failure)
  /-- A text that should be a binding is none. -/
  | refused (e : BindingError)
  /-- The arguments do not say what to do. -/
  | misused

namespace Outcome

def exitCode : Outcome → Nat
  | printed _ | table .. | help => 0
  | failed _ | broken _ => 1
  | refused _ | misused => 2

def ofFailure : Failure → Outcome
  | .expression e => failed e
  | e => broken e

end Outcome

/-! ### Commands -/

/-- The value of an expression under bindings; the first text that is none is refused. -/
def evalCommand (env : Environment) (source : String) (items : List String) : Outcome :=
  match readBindings items with
  | .error e => .refused e
  | .ok bindings =>
    match ((Engine.start env).compile source bindings.names).1 with
    | .error e => .ofFailure e
    | .ok made =>
      match made.expression.evaluate (Bindings.ofFloats bindings) [] with
      | .ok x => .printed (showFloat x)
      | .error e => .failed (.eval e)

/-- The postfix form of an expression. -/
def rpnCommand (env : Environment) (source : String) (names : List String) : Outcome :=
  match ((Engine.start env).compile source names).1 with
  | .error e => .ofFailure e
  | .ok made => .printed made.expression.rpn

/-- The infix tokens of an expression. -/
def tokensCommand (source : String) (names : List String) : Outcome :=
  match Vocabulary.ofNames names with
  | .error e => .failed (.reserved e)
  | .ok v =>
    match v.tokenize source with
    | .error e => .failed (.lex e)
    | .ok ts =>
      let title := Token.textOf ts
      .table (if title = "" then "(empty)" else title) (rowsFrom 0 ts)

inductive Command
  | eval
  | rpn
  | tokens
  deriving DecidableEq, Repr

namespace Command

def ofName? : String → Option Command
  | "eval" => some eval
  | "rpn" => some rpn
  | "tokens" => some tokens
  | _ => none

def options : Command → OptionTable
  | eval => [⟨"help", none, false⟩, ⟨"var", some 'v', true⟩]
  | rpn | tokens => [⟨"help", none, false⟩, ⟨"declare", some 'd', true⟩]

def run (env : Environment) (source : String) (values : List String) : Command → Outcome
  | eval => evalCommand env source values
  | rpn => rpnCommand env source values
  | tokens => tokensCommand source values

end Command

/-- A command with its arguments: one expression, and options before and behind it. -/
def runCommand (env : Environment) (c : Command) (args : List String) : Outcome :=
  match parse c.options true args with
  | none => .misused
  | some a =>
    if a.has "help" then .help
    else
      match a.words with
      | [source] => c.run env source (a.values "var" ++ a.values "declare")
      | _ => .misused

/-! ### Arguments -/

/-- The options before the command. -/
def options : OptionTable :=
  [⟨"version", none, false⟩, ⟨"help", none, false⟩, ⟨"log-level", none, true⟩]

/-- The answer to an option that leaves no command to run; of two, the first one given. -/
def immediate (a : Arguments) : Option Outcome :=
  a.options.findSome? fun o =>
    if o.1 = "version" then some (.printed version)
    else if o.1 = "help" then some .help
    else none

/-- Answers the arguments. A word in the place of the command that is none may still be an option, behind
two dashes. -/
def run (env : Environment) (args : List String) : Outcome :=
  match parse options false args with
  | none => .misused
  | some a =>
    match immediate a with
    | some answer => answer
    | none =>
      match a.words with
      | [] => .misused
      | word :: rest =>
        match Command.ofName? word with
        | some c => runCommand env c rest
        | none => ((parse options false a.words).bind immediate).getD .misused

end Reckon.CommandLine
