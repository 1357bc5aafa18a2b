import Reckon.CommandLine

/-!
# The program

Prints the outcome of the command line and ends with its exit code.
-/

namespace Reckon.CommandLine

/-- The table of tokens as lines, the columns apart by tabs. -/
def Row.line (r : Row) : String := toString r.index ++ "\t" ++ r.kind ++ "\t" ++ r.text

def usage : String :=
  "Usage: mathexpr [--version] [--log-level LEVEL] COMMAND ...\n\n" ++
  "  eval EXPRESSION [-v NAME=VALUE]...   evaluate an expression\n" ++
  "  rpn EXPRESSION [-d NAME]...          print the postfix form\n" ++
  "  tokens EXPRESSION [-d NAME]...       show the infix tokens"

def Outcome.print : Outcome → IO Unit
  | .printed line => IO.println line
  | .table title rows => do
    IO.println title
    rows.forM fun r => IO.println r.line
  | .help => IO.println usage
  | .failed e => IO.eprintln ("Error: " ++ e.message)
  | .broken e => IO.eprintln e.message
  | .refused e => do
    IO.eprintln usage
    IO.eprintln ("Error: Invalid value for --var: " ++ e.message)
  | .misused => IO.eprintln usage

/-- The environment variables that the settings are read from. -/
def readEnvironment : IO Environment := do
  let names := [Settings.cacheSizeName, Settings.logLevelName]
  let found ← names.mapM fun n => do return (← IO.getEnv n).map (n, ·)
  return found.filterMap id

end Reckon.CommandLine

open Reckon.CommandLine in
/-- Runs the command line. -/
def main (args : List String) : IO UInt32 := do
  let outcome := run (← readEnvironment) args
  outcome.print
  return outcome.exitCode.toUInt32
