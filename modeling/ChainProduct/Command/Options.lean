/-!
# Command-line options

The command takes one path at most and the flags `-h` and `--help`, in any order. The argument `-`
stands for the standard input, and it too may not follow a path. Parsing stops at the first
argument that is wrong.
-/

namespace ChainProduct.Command

/-- What the arguments ask for. -/
structure Options where
  /-- The file to read, or the standard input. -/
  path : Option String := none
  /-- Whether the help text is wanted. -/
  help : Bool := false
  deriving DecidableEq, Repr

/-- What can be wrong with an argument. -/
inductive UsageError where
  /-- There is no such flag. -/
  | unrecognized (argument : String)
  /-- A path was given before. -/
  | unexpected (argument : String)
  deriving DecidableEq, Repr

/-- The message for a person. -/
def UsageError.message : UsageError → String
  | .unrecognized argument => "unrecognized argument '" ++ argument ++ "'"
  | .unexpected argument => "unexpected extra argument '" ++ argument ++ "'"

/-- The argument asks for the help text. -/
def IsHelp (argument : String) : Prop :=
  argument = "--help" ∨ argument = "-h"

/-- `IsHelp` is decidable by two comparisons. -/
instance (argument : String) : Decidable (IsHelp argument) :=
  inferInstanceAs (Decidable (_ ∨ _))

/-- The argument starts with a hyphen. -/
def StartsWithHyphen (argument : String) : Prop :=
  argument.toList.head? = some '-'

/-- `StartsWithHyphen` is decidable by looking at the first character. -/
instance (argument : String) : Decidable (StartsWithHyphen argument) :=
  inferInstanceAs (Decidable (_ = _))

namespace Options

/-- Take one more argument. -/
def take (options : Options) (argument : String) : Except UsageError Options :=
  if IsHelp argument then
    .ok { options with help := true }
  else if StartsWithHyphen argument ∧ argument ≠ "-" then
    .error (.unrecognized argument)
  else if options.path.isSome then
    .error (.unexpected argument)
  else if argument = "-" then
    .ok options
  else
    .ok { options with path := some argument }

/-- The options that the arguments ask for. -/
def parse (arguments : List String) : Except UsageError Options :=
  arguments.foldlM take {}

end Options

end ChainProduct.Command
