import ChainProduct.Input.ReadError
import ChainProduct.Text.Quoted

/-!
# What can be wrong with an input

Everything that can go wrong before any cost is computed. Each cause carries what its text names:
the line, counted from one with blank lines included, the position, counted from zero, or the
offending value as it was written.
-/

namespace ChainProduct

/-- The largest dimension of a matrix, the largest number of 32 bits. -/
def maxDimension : Nat := 0xffff_ffff

/-- The causes for which an input is refused. -/
inductive InputError where
  /-- The dimension at this position is not positive or is too large. -/
  | badDimension (written : String) (position : Nat)
  /-- There are fewer dimensions than one matrix needs. -/
  | tooFewDimensions (count : Nat)
  /-- No line holds a value. -/
  | noCount
  /-- The first value is not a matrix count. -/
  | notACount (line : Nat) (written : String)
  /-- A chain has at least one matrix. -/
  | zeroCount
  /-- One dimension more than matrices is more than can be counted. -/
  | countTooLarge (count : Nat)
  /-- The lines end before all dimensions of the chain were read. -/
  | missingDimensions (count found : Nat)
  /-- The value on this line is not an integer. -/
  | notAnInteger (line : Nat) (written : String)
  /-- The dimension on this line is not positive. -/
  | notPositive (line : Nat) (value : Int)
  /-- The line holds more than one value. -/
  | severalValues (line : Nat) (written : String)
  /-- The input could not be read. -/
  | unreadable (cause : ReadError)
  /-- A reason given by the caller. -/
  | custom (reason : String)
  deriving DecidableEq, Repr

namespace InputError

/-- The reason for which the input is refused. -/
def reason : InputError → String
  | badDimension written position =>
      s!"dimension {written} at position {position} must be in 1..={maxDimension}"
  | tooFewDimensions count => s!"need at least two dimensions (one matrix), got {count}"
  | noCount => "empty input: expected a matrix count"
  | notACount line written =>
      s!"line {line}: matrix count must be a non-negative integer, got " ++ Text.quote written
  | zeroCount => "matrix count must be at least 1"
  | countTooLarge count => s!"matrix count {count} is too large"
  | missingDimensions count found =>
      s!"expected {count + 1} dimensions for {count} matrices, found {found}"
  | notAnInteger line written =>
      s!"line {line}: dimension must be an integer, got " ++ Text.quote written
  | notPositive line value => s!"line {line}: dimension must be positive, got {value}"
  | severalValues line written =>
      s!"line {line}: expected a single integer, got " ++ Text.quote written
  | unreadable cause => "failed to read input: " ++ cause.text
  | custom reason => reason

/-- The message for a person. -/
def message (error : InputError) : String :=
  "invalid input: " ++ error.reason

/-- The value as it is shown when debugging. -/
def inspect (error : InputError) : String :=
  "InvalidInput(" ++ Text.quote error.reason ++ ")"

end InputError

end ChainProduct
