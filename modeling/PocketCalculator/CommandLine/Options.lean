/-!
# PocketCalculator — options

What the arguments of the command ask for.

`-k` or `--keys` and `-s` or `--strict` may be given once each, `-v` or
`--verbose` any number of times; short flags may share one argument. The one
argument that is no flag is the expression. After `--` no argument is a flag, and
neither is a lone `-`. Anything else is not understood.
-/

namespace PocketCalculator.CommandLine

/-- What the arguments ask for. -/
structure Options where
  /-- Whether the input names keys instead of being an expression. -/
  keys : Bool := false
  /-- Whether results that are infinite or not a number are errors. -/
  strict : Bool := false
  /-- How many times more reports were asked for. -/
  verbosity : Nat := 0
  expression : Option String := none
  deriving DecidableEq

namespace Options

/-- Adds a flag by its letter. -/
def addFlag (o : Options) : Char → Option Options
  | 'k' => if o.keys then none else some { o with keys := true }
  | 's' => if o.strict then none else some { o with strict := true }
  | 'v' => some { o with verbosity := o.verbosity + 1 }
  | _ => none

/-- The letter of the flag with a long name. -/
def letter? : String → Option Char
  | "--keys" => some 'k'
  | "--strict" => some 's'
  | "--verbose" => some 'v'
  | _ => none

/-- Adds the expression, of which there is at most one. -/
def addExpression (o : Options) (text : String) : Option Options :=
  if o.expression = none then some { o with expression := some text } else none

/-- Adds an argument that may be a flag or several. -/
def addArgument (o : Options) (argument : String) : Option Options :=
  match letter? argument with
  | some c => o.addFlag c
  | none =>
    match argument.toList with
    | ['-'] => o.addExpression argument
    -- a long name that is none of the three fails here, for `-` is no letter of a flag
    | '-' :: cs => cs.foldlM addFlag o
    | _ => o.addExpression argument

def addAll (o : Options) : List String → Option Options
  | [] => some o
  | argument :: rest =>
    if argument = "--" then rest.foldlM addExpression o
    else
      match o.addArgument argument with
      | some o => o.addAll rest
      | none => none

/-- What a list of arguments asks for, if it is understood. -/
def ofArguments (arguments : List String) : Option Options :=
  ({} : Options).addAll arguments

end Options

end PocketCalculator.CommandLine
