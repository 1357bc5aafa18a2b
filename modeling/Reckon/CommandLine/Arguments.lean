/-!
# Arguments

`parse` sorts arguments into options and words. A long option takes its value behind an equals sign or
as the next argument, a short one behind its letter or as the next argument. Two dashes end the options;
one dash alone is a word.
-/

namespace Reckon.CommandLine

/-- An option, known by its long name and perhaps by a letter. -/
structure OptionName where
  long : String
  short : Option Char
  takesValue : Bool

abbrev OptionTable := List OptionName

/-- The options given, by their long names and with their values, and the words. -/
structure Arguments where
  options : List (String × String)
  words : List String
  deriving DecidableEq, Repr

namespace Arguments

def has (a : Arguments) (name : String) : Bool := a.options.any (·.1 == name)

/-- The values given for an option, in their order. -/
def values (a : Arguments) (name : String) : List String :=
  (a.options.filter (·.1 == name)).map (·.2)

def addOption (name value : String) (a : Arguments) : Arguments :=
  { a with options := (name, value) :: a.options }

def addWord (word : String) (a : Arguments) : Arguments := { a with words := word :: a.words }

end Arguments

/-- What one argument is. -/
inductive Argument
  | word
  | flag (name : String)
  /-- An option with its value, which is the next argument if there is none here. -/
  | option (name : String) (value : Option String)
  | unknown
  deriving DecidableEq, Repr

namespace Argument

/-- An argument that begins with two dashes and then has `cs`. -/
def ofLong (table : OptionTable) (cs : List Char) : Argument :=
  let name := String.ofList (cs.takeWhile (· ≠ '='))
  match table.find? (·.long = name), cs.dropWhile (· ≠ '=') with
  | none, _ => unknown
  | some o, [] => if o.takesValue then option o.long none else flag o.long
  | some o, _ :: value => if o.takesValue then option o.long (String.ofList value) else unknown

/-- An argument that begins with one dash and then has `c` and `cs`. -/
def ofShort (table : OptionTable) (c : Char) (cs : List Char) : Argument :=
  match table.find? (·.short = some c) with
  | none => unknown
  | some o => option o.long (if cs.isEmpty then none else some (String.ofList cs))

def read (table : OptionTable) (arg : String) : Argument :=
  match arg.toList with
  | '-' :: '-' :: cs => ofLong table cs
  | '-' :: c :: cs => ofShort table c cs
  | _ => word

end Argument

/-- The options and words among arguments, unless there is an option that is not in the table or that
lacks its value. Without `mixed`, the first word ends the options. -/
def parse (table : OptionTable) (mixed : Bool) : List String → Option Arguments
  | [] => some ⟨[], []⟩
  | arg :: rest =>
    if arg = "--" then some ⟨[], rest⟩
    else
      match Argument.read table arg with
      | .word => if mixed then (parse table mixed rest).map (.addWord arg) else some ⟨[], arg :: rest⟩
      | .flag name => (parse table mixed rest).map (.addOption name "")
      | .option name (some value) => (parse table mixed rest).map (.addOption name value)
      | .option name none =>
        match rest with
        | [] => none
        | value :: rest => (parse table mixed rest).map (.addOption name value)
      | .unknown => none

end Reckon.CommandLine
