/-!
# Failures of a read

Why bytes could not be read from where they come from. A failure has a kind, and may carry a text
of its own that stands in place of the text of its kind.
-/

namespace ChainProduct

/-- The kinds of failure of a read. -/
inductive ReadError.Kind where
  | notFound
  | permissionDenied
  | connectionReset
  | brokenPipe
  | invalidInput
  | invalidData
  | timedOut
  | wouldBlock
  | interrupted
  | unexpectedEnd
  | outOfMemory
  | other
  deriving DecidableEq, Repr

/-- The text of a kind of failure. -/
def ReadError.Kind.text : ReadError.Kind → String
  | .notFound => "entity not found"
  | .permissionDenied => "permission denied"
  | .connectionReset => "connection reset"
  | .brokenPipe => "broken pipe"
  | .invalidInput => "invalid input parameter"
  | .invalidData => "invalid data"
  | .timedOut => "timed out"
  | .wouldBlock => "operation would block"
  | .interrupted => "operation interrupted"
  | .unexpectedEnd => "unexpected end of file"
  | .outOfMemory => "out of memory"
  | .other => "other error"

/-- A failed read: its kind, and a text of its own if it has one. -/
structure ReadError where
  kind : ReadError.Kind
  detail : Option String := none
  deriving DecidableEq, Repr

/-- The text that tells of the failure. -/
def ReadError.text (error : ReadError) : String :=
  error.detail.getD error.kind.text

/-- The failure to read bytes that are not UTF-8 as text. -/
def ReadError.notText : ReadError :=
  { kind := .invalidData, detail := some "stream did not contain valid UTF-8" }

end ChainProduct
