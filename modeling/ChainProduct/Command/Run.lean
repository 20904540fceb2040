import ChainProduct.Command.Options
import ChainProduct.Input.Reader
import ChainProduct.Solve

/-!
# A run of the command

What the command prints and the status it ends with, given its arguments and what it can read. The
reads happen in a monad of the caller's choice. A cost is printed only with status zero, and never
beside a message.
-/

namespace ChainProduct

/-- The least cost for the chain that a source holds. -/
def Source.minCost (source : Source) : Solved Nat :=
  Solved.ofInput (Chain.read source) Chain.minCost

namespace Command

/-- What a run leaves behind. -/
structure Outcome where
  status : Nat
  out : String
  err : String
  deriving DecidableEq, Repr

/-- The text that explains the command, with the empty line after it. -/
def helpText : String :=
  "Usage: mcm [PATH]\n" ++
  "\n" ++
  "Reads a matrix count n followed by n+1 dimensions, one integer per line,\n" ++
  "from PATH (or stdin when PATH is omitted or '-') and prints the minimum\n" ++
  "number of scalar multiplications needed to multiply the chain.\n" ++
  "\n" ++
  "Options:\n" ++
  "  -h, --help    Print this help message\n" ++
  "\n" ++
  "Examples:\n" ++
  "  printf '3\\n10\\n100\\n5\\n50\\n' | mcm\n" ++
  "  RUST_LOG=debug mcm chain.txt      (with the `tracing` feature)\n" ++
  "\n"

/-- A message with the name of the command before it. -/
def complaint (message : String) : String :=
  "mcm: " ++ message ++ "\n"

namespace Outcome

/-- Help was asked for. -/
def help : Outcome :=
  { status := 0, out := helpText, err := "" }

/-- The arguments are wrong. -/
def usage (error : UsageError) : Outcome :=
  { status := 2, out := helpText, err := complaint error.message }

/-- The input is refused. -/
def refusal (error : InputError) : Outcome :=
  { status := 1, out := "", err := complaint error.message }

/-- The cost is known. -/
def success (cost : Nat) : Outcome :=
  { status := 0, out := toString cost ++ "\n", err := "" }

end Outcome

/-- Report what came of an input. -/
def report : Solved Nat → Checked Outcome
  | .ok cost => .ok (.success cost)
  | .error (.input cause) => .ok (.refusal cause)
  | .error (.fault cause) => .error cause

/-- Run the command with its arguments, given how to read the standard input and how to open a
file. Nothing is read when help is asked for or the arguments are wrong. -/
def run {m : Type → Type} [Monad m] (arguments : List String) (input : m Source)
    (openFile : String → m (Except ReadError Source)) : m (Checked Outcome) := do
  match Options.parse arguments with
  | .error error => return .ok (.usage error)
  | .ok { help := true, .. } => return .ok .help
  | .ok { path := none, .. } => return report (← input).minCost
  | .ok { path := some path, .. } =>
      match ← openFile path with
      | .error error => return .ok (.refusal (.unreadable error))
      | .ok source => return report source.minCost

end Command

end ChainProduct
